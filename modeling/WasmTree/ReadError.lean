import WasmTree.Operator

/-!
Why a module could not be read: a cause, and what was being read when it arose, outermost first.
-/

namespace WasmTree

inductive Cause where
  | malformedBinary
  | malformedText
  | offsetTooLarge
  | component
  | version (number : Nat)
  | typeIndex (index : UInt32)
  | valueType (t : WireType)
  | tagImport
  | tagSection
  | expressionSegment
  | undeclaredBody (index : Nat)
  | bodyCount (declared bodies : Nat)
  | tooManyLocals (total limit : Nat)
  | openBlock
  | afterEnd
  | elseOutsideIf
  | handlerOutsideTry
  | endWithoutBlock
  | blockType (index : UInt32)
  | blockParameters
  | exceptionsDisabled (op : Operator)
  | reservedTag (index : UInt32)
  | callTable (index : UInt32)
  | memoryIndex (index : UInt32)
  | accessMemory (index : UInt32)
  | alignment (exponent : Nat)
  | unsupported
  | notConstant (op : Operator)
  deriving DecidableEq

def Cause.message : Cause → String
  | malformedBinary => "malformed binary"
  | malformedText => "malformed text"
  | offsetTooLarge => "out of range integral type conversion attempted"
  | component => "components are not supported"
  | version number => "unknown binary version " ++ toString number
  | typeIndex index => "type index " ++ toString index ++ " out of range"
  | valueType t => "unsupported value type " ++ t.outline
  | tagImport => "exception handling is disabled: tag import"
  | tagSection => "exception handling is disabled: tag section"
  | expressionSegment => "expression-based element segments not supported"
  | undeclaredBody index => "code entry " ++ toString index ++ " has no function declaration"
  | bodyCount declared bodies =>
    "function and code section counts differ (" ++ toString declared ++ " vs " ++ toString bodies ++ ")"
  | tooManyLocals total limit => "too many locals (" ++ toString total ++ " > " ++ toString limit ++ ")"
  | openBlock => "function body ends inside an open block"
  | afterEnd => "operator after the final `end`"
  | elseOutsideIf => "`else` outside of `if`"
  | handlerOutsideTry => "handler outside of `try`"
  | endWithoutBlock => "`end` without an open block"
  | blockType index => "block type " ++ toString index ++ " out of range"
  | blockParameters => "block parameters not supported"
  | exceptionsDisabled op => "exception handling is disabled: " ++ op.outline
  | reservedTag index => "catch tag index " ++ toString index ++ " is reserved"
  | callTable index => "call_indirect on table " ++ toString index ++ " not supported"
  | memoryIndex index => "multi-memory not supported (memory=" ++ toString index ++ ")"
  | accessMemory index => "multi-memory access not supported (memory=" ++ toString index ++ ")"
  | alignment exponent => "alignment exponent " ++ toString exponent ++ " too large"
  | unsupported => "unsupported operator"
  | notConstant op => "unsupported constant expression operator: " ++ op.outline

inductive Activity where
  | readingBinary
  | readingText
  | parsingText
  | parsingPayload
  | readingType
  | readingImport
  | readingImportOf (moduleName fieldName : String)
  | readingFunction
  | readingTable
  | readingMemory
  | readingTag
  | readingGlobal
  | readingInitializer
  | readingExport
  | readingElement
  | readingElementOffset
  | readingData
  | readingDataOffset
  | readingBody (index : Nat)
  | readingLocals
  | readingLocal
  | readingOperator
  | translating (op : Operator) (offset : Nat)
  | memoryOffset
  | readingConstant
  | readingNames
  | readingSubsection
  | readingFunctionName
  | readingLocalNames
  | readingLocalName
  | decoding (loc : Location)
  deriving DecidableEq

def Activity.text : Activity → String
  | readingBinary => "failed to read WebAssembly binary"
  | readingText => "failed to read WebAssembly text"
  | parsingText => "parsing module text"
  | parsingPayload => "parsing wasm payload"
  | readingType => "reading function type"
  | readingImport => "reading import"
  | readingImportOf moduleName fieldName => "reading import " ++ moduleName ++ "." ++ fieldName
  | readingFunction => "reading function type index"
  | readingTable => "reading table type"
  | readingMemory => "reading memory type"
  | readingTag => "reading tag"
  | readingGlobal => "reading global"
  | readingInitializer => "reading global initializer"
  | readingExport => "reading export"
  | readingElement => "reading element segment"
  | readingElementOffset => "reading element offset"
  | readingData => "reading data segment"
  | readingDataOffset => "reading data offset"
  | readingBody index => "reading body of function " ++ toString index
  | readingLocals => "getting locals reader"
  | readingLocal => "reading local"
  | readingOperator => "reading operator"
  | translating op offset =>
    "translating operator " ++ op.outline ++ " at " ++ Location.hexadecimal offset
  | memoryOffset => "64-bit memory offset"
  | readingConstant => "reading constant expression"
  | readingNames => "reading name section"
  | readingSubsection => "reading name subsection"
  | readingFunctionName => "reading function name"
  | readingLocalNames => "reading local names"
  | readingLocalName => "reading local name"
  | decoding loc => "decoding module at " ++ loc.display

structure ReadError where
  during : List Activity
  cause : Cause
  deriving DecidableEq

namespace ReadError

def ofCause (c : Cause) : ReadError := ⟨[], c⟩

def within (a : Activity) (e : ReadError) : ReadError := { e with during := a :: e.during }

def links (e : ReadError) : List String := e.during.map Activity.text ++ [e.cause.message]

end ReadError

abbrev Reading := Except ReadError

namespace Reading

def fail {α : Type} (c : Cause) : Reading α := .error (.ofCause c)

def within {α : Type} (a : Activity) (r : Reading α) : Reading α := r.mapError (ReadError.within a)

end Reading

end WasmTree
