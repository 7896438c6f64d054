import WasmTree.Folding
import WasmTree.Module.Field

/-!
The contents of a binary as its sections hand them over, in the order of the file and without any
check against each other.
-/

namespace WasmTree

/-- Items that were decoded one after the other; unless `complete`, something malformed follows them. -/
structure Batch (α : Type) where
  items : List α
  complete : Bool

structure WireSignature where
  params : List WireType
  results : List WireType

inductive WireImportKind where
  | func (type : UInt32)
  | table (limits : Limits)
  | memory (limits : Limits)
  | global (type : WireType) (mutable : Bool)
  | tag (type : UInt32)

structure WireImport where
  moduleName : String
  fieldName : String
  kind : WireImportKind

structure WireGlobal where
  type : WireType
  mutable : Bool
  init : List (Located Operator)

structure WireExport where
  name : String
  kind : ExternalKind
  index : UInt32

inductive ElementItems where
  | funcs (indices : List UInt32)
  | expressions

/-- Segments that are not active leave no trace in a module. -/
inductive WireElement where
  | active (table : Option UInt32) (offset : List (Located Operator)) (items : ElementItems)
  | inactive

inductive WireData where
  | active (memory : UInt32) (offset : List (Located Operator)) (bytes : List UInt8)
  | passive

/-- The locals of a body are missing when not even their number can be read. -/
structure WireBody where
  locals : Option (Batch (UInt32 × WireType))
  operators : Batch (Located Operator)

abbrev NameList := Batch (UInt32 × String)

inductive NameSubsection where
  | module (name : String)
  | functions (names : NameList)
  | locals (functions : Batch (UInt32 × NameList))
  | other

inductive Payload where
  | header (version : Nat) (component : Bool)
  | types (start : Nat) (entries : Batch WireSignature)
  | imports (entries : Batch (Located WireImport))
  | functions (entries : Batch (Located UInt32))
  | tables (entries : Batch (Located Limits))
  | memories (entries : Batch (Located Limits))
  | tags (entries : Batch (Located UInt32))
  | globals (entries : Batch (Located WireGlobal))
  | exports (entries : Batch (Located WireExport))
  | start (offset : Nat) (func : UInt32)
  | elements (entries : Batch (Located WireElement))
  | datas (entries : Batch (Located WireData))
  | body (b : WireBody)
  | names (subsections : Batch NameSubsection)
  | skipped

end WasmTree
