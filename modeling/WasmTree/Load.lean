import WasmTree.Binary.Encoder
import WasmTree.Binary.Section
import WasmTree.Reading

/-!
Reading modules from bytes, which are a binary or text that is first turned into one.
-/

namespace WasmTree

def readBinary (o : ReadOptions) (bytes : List UInt8) : Reading Module :=
  readPayloads o (Binary.payloads bytes)

def isBinary (bytes : List UInt8) : Bool := Binary.magic.isPrefixOf bytes

/-- A binary stands for itself. -/
def binaryOfText? (bytes : List UInt8) : Option (List UInt8) :=
  if isBinary bytes then some bytes
  else do
    let tokens ← Text.tokens? (← String.fromUTF8? ⟨bytes.toArray⟩)
    return Binary.encodeModule (← Text.module? (← Text.forms? tokens))

def readText (o : ReadOptions) (bytes : List UInt8) : Reading Module :=
  match binaryOfText? bytes with
  | some binary => readBinary o binary
  | none => Reading.within .parsingText (.fail .malformedText)

def readModule (o : ReadOptions) (bytes : List UInt8) : Reading Module :=
  if isBinary bytes then Reading.within .readingBinary (readBinary o bytes)
  else Reading.within .readingText (readText o bytes)

end WasmTree
