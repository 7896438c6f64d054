import WasmTree.Load

/-!
Modules as a script writes them: built already, or bytes that nobody has read yet. Bytes that are
meant to be malformed do no harm until they are decoded.
-/

namespace WasmTree

inductive ModuleSource where
  | binary | quoted
  deriving DecidableEq

structure RawModule where
  loc : Location
  name : Option String
  source : ModuleSource
  bytes : List UInt8
  deriving DecidableEq

inductive ScriptModule where
  | decoded (m : Module)
  | raw (r : RawModule)

def RawModule.read (o : ReadOptions) (r : RawModule) : Reading Module :=
  match r.source with
  | .binary => readBinary o r.bytes
  | .quoted => readText o r.bytes

namespace ScriptModule

def loc : ScriptModule → Location
  | decoded m => m.loc
  | raw r => r.loc

def name : ScriptModule → Option String
  | decoded m => m.name
  | raw r => r.name

def isDecoded : ScriptModule → Bool
  | decoded _ => true
  | raw _ => false

/-- The script's location and, if it gives one, its name take the place of the module's own. -/
def decode (o : ReadOptions) : ScriptModule → Reading Module
  | decoded m => .ok m
  | raw r => do
    let m ← Reading.within (.decoding r.loc) (r.read o)
    return { m with loc := r.loc, name := r.name.or m.name }

end ScriptModule

end WasmTree
