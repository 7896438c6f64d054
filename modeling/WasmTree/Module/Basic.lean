import WasmTree.Module.Space

/-!
Modules: a list of fields in the order they were declared, and the index spaces derived from it. Both
grow in one step, so that they cannot disagree.
-/

namespace WasmTree

structure Module where
  loc : Location
  name : Option String
  fields : Array Field
  spaces : Spaces
  startField : Option Nat

namespace Module

def empty : Module := ⟨.unknown, none, #[], .empty, none⟩

def space (m : Module) (k : SpaceKind) : Space := m.spaces.get k

/-- A later start field replaces an earlier one. -/
def append : Module → Field → Module
  | ⟨loc, name, fields, spaces, startField⟩, f =>
    let position := fields.size
    ⟨loc, name, fields.push f, spaces.enter position f,
      if f.start?.isSome then some position else startField⟩

def appendAll (m : Module) (fs : List Field) : Module := fs.foldl append m

def size (m : Module) (k : SpaceKind) : Nat := (m.space k).positions.size

def importCount (m : Module) (k : ExternalKind) : Nat := (m.space k.space).imported

def bindings (m : Module) (k : SpaceKind) : BindingTable := (m.space k).bindings

def entry? (m : Module) (k : SpaceKind) (i : Nat) : Option Field :=
  (m.space k).positions[i]?.bind fun p => m.fields[p]?

def entries (m : Module) (k : SpaceKind) : List Field :=
  (m.space k).positions.toList.filterMap fun p => m.fields[p]?

def funcs (m : Module) : List Func := (m.entries .funcs).filterMap Field.func?

def tables (m : Module) : List Table := (m.entries .tables).filterMap Field.table?

def memories (m : Module) : List Memory := (m.entries .memories).filterMap Field.memory?

def globals (m : Module) : List Global := (m.entries .globals).filterMap Field.global?

def excepts (m : Module) : List Exception := (m.entries .excepts).filterMap Field.except?

def types (m : Module) : List FuncType := (m.entries .types).filterMap Field.type?

def exports (m : Module) : List Export := (m.entries .exports).filterMap Field.export?

def imports (m : Module) : List Import := (m.entries .imports).filterMap Field.import?

def elems (m : Module) : List ElemSegment := (m.entries .elems).filterMap Field.elem?

def datas (m : Module) : List DataSegment := (m.entries .datas).filterMap Field.data?

def func? (m : Module) (i : Nat) : Option Func := (m.entry? .funcs i).bind Field.func?

def table? (m : Module) (i : Nat) : Option Table := (m.entry? .tables i).bind Field.table?

def memory? (m : Module) (i : Nat) : Option Memory := (m.entry? .memories i).bind Field.memory?

def global? (m : Module) (i : Nat) : Option Global := (m.entry? .globals i).bind Field.global?

def except? (m : Module) (i : Nat) : Option Exception := (m.entry? .excepts i).bind Field.except?

def type? (m : Module) (i : Nat) : Option FuncType := (m.entry? .types i).bind Field.type?

def export? (m : Module) (i : Nat) : Option Export := (m.entry? .exports i).bind Field.export?

def import? (m : Module) (i : Nat) : Option Import := (m.entry? .imports i).bind Field.import?

def elem? (m : Module) (i : Nat) : Option ElemSegment := (m.entry? .elems i).bind Field.elem?

def data? (m : Module) (i : Nat) : Option DataSegment := (m.entry? .datas i).bind Field.data?

def start? (m : Module) : Option Var :=
  (m.startField.bind fun p => m.fields[p]?).bind Field.start?

end Module

end WasmTree
