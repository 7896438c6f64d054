import WasmTree.Func
import WasmTree.Limits

/-!
The fields of a module, and the entities that can be imported as well as defined.
-/

namespace WasmTree

structure Table where
  name : Option String
  limits : Limits
  deriving DecidableEq

structure Memory where
  name : Option String
  limits : Limits
  deriving DecidableEq

/-- The initializer of an imported global is empty. -/
structure Global where
  name : Option String
  type : ValueType
  mutable : Bool
  init : List Expr

structure Exception where
  name : Option String
  params : List ValueType
  deriving DecidableEq

inductive ExternalKind where
  | func | table | memory | global | except
  deriving DecidableEq

def ExternalKind.text : ExternalKind → String
  | func => "func"
  | table => "table"
  | memory => "memory"
  | global => "global"
  | except => "except"

inductive Entity where
  | func (f : Func)
  | table (t : Table)
  | memory (m : Memory)
  | global (g : Global)
  | except (e : Exception)

namespace Entity

def kind : Entity → ExternalKind
  | func _ => .func
  | table _ => .table
  | memory _ => .memory
  | global _ => .global
  | except _ => .except

def name : Entity → Option String
  | func f => f.name
  | table t => t.name
  | memory m => m.name
  | global g => g.name
  | except e => e.name

def func? : Entity → Option Func
  | func f => some f
  | _ => none

def table? : Entity → Option Table
  | table t => some t
  | _ => none

def memory? : Entity → Option Memory
  | memory m => some m
  | _ => none

def global? : Entity → Option Global
  | global g => some g
  | _ => none

def except? : Entity → Option Exception
  | except e => some e
  | _ => none

def mapFunc? (r : Func → Func) : Entity → Option Entity
  | func f => some (func (r f))
  | _ => none

def mapGlobal? (r : Global → Global) : Entity → Option Entity
  | global g => some (global (r g))
  | _ => none

end Entity

structure Import where
  moduleName : String
  fieldName : String
  entity : Entity

structure Export where
  name : String
  kind : ExternalKind
  var : Var
  deriving DecidableEq

/-- References written into a table when the module is instantiated. -/
structure ElemSegment where
  table : Var
  offset : List Expr
  funcs : List Var

/-- Bytes written into a memory when the module is instantiated. -/
structure DataSegment where
  memory : Var
  offset : List Expr
  bytes : List UInt8

inductive FieldContent where
  | entity (e : Entity)
  | imported (i : Import)
  | exported (x : Export)
  | type (t : FuncType)
  | elem (s : ElemSegment)
  | data (s : DataSegment)
  | start (v : Var)

structure Field where
  loc : Location
  content : FieldContent

namespace Field

def keyword (f : Field) : String :=
  match f.content with
  | .entity e => e.kind.text
  | .imported _ => "import"
  | .exported _ => "export"
  | .type _ => "type"
  | .elem _ => "elem"
  | .data _ => "data"
  | .start _ => "start"

/-- The entity a field brings into the module, by its own definition or from outside. -/
def entity? (f : Field) : Option Entity :=
  match f.content with
  | .entity e => some e
  | .imported i => some i.entity
  | _ => none

def func? (f : Field) : Option Func := f.entity?.bind Entity.func?

def table? (f : Field) : Option Table := f.entity?.bind Entity.table?

def memory? (f : Field) : Option Memory := f.entity?.bind Entity.memory?

def global? (f : Field) : Option Global := f.entity?.bind Entity.global?

def except? (f : Field) : Option Exception := f.entity?.bind Entity.except?

def import? (f : Field) : Option Import :=
  match f.content with
  | .imported i => some i
  | _ => none

def export? (f : Field) : Option Export :=
  match f.content with
  | .exported x => some x
  | _ => none

def type? (f : Field) : Option FuncType :=
  match f.content with
  | .type t => some t
  | _ => none

def elem? (f : Field) : Option ElemSegment :=
  match f.content with
  | .elem s => some s
  | _ => none

def data? (f : Field) : Option DataSegment :=
  match f.content with
  | .data s => some s
  | _ => none

def start? (f : Field) : Option Var :=
  match f.content with
  | .start v => some v
  | _ => none

/-- The field with its entity rewritten, if it has one that `r` rewrites. -/
def mapEntity? (r : Entity → Option Entity) (f : Field) : Option Field :=
  match f.content with
  | .entity e => (r e).map fun e => { f with content := .entity e }
  | .imported i => (r i.entity).map fun e => { f with content := .imported { i with entity := e } }
  | _ => none

def mapFunc? (r : Func → Func) (f : Field) : Option Field := f.mapEntity? (Entity.mapFunc? r)

def mapGlobal? (r : Global → Global) (f : Field) : Option Field := f.mapEntity? (Entity.mapGlobal? r)

end Field

end WasmTree
