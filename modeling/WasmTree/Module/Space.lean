import WasmTree.Module.Field

/-!
Index spaces. A space lists the positions of the fields that belong to it, in the order of the fields;
imported entities stand in the space of their kind like defined ones.
-/

namespace WasmTree

inductive SpaceKind where
  | funcs | tables | memories | globals | excepts | types | exports | imports | elems | datas
  deriving DecidableEq

def ExternalKind.space : ExternalKind → SpaceKind
  | func => .funcs
  | table => .tables
  | memory => .memories
  | global => .globals
  | except => .excepts

structure Membership where
  space : SpaceKind
  name : Option String
  imported : Bool
  deriving DecidableEq

/-- The spaces a field belongs to and the name it binds in each. -/
def Field.memberships (f : Field) : List Membership :=
  match f.content with
  | .entity e => [⟨e.kind.space, e.name, false⟩]
  | .imported i => [⟨i.entity.kind.space, i.entity.name, true⟩, ⟨.imports, none, false⟩]
  | .exported x => [⟨.exports, some x.name, false⟩]
  | .type t => [⟨.types, t.name, false⟩]
  | .elem _ => [⟨.elems, none, false⟩]
  | .data _ => [⟨.datas, none, false⟩]
  | .start _ => []

structure Space where
  positions : Array Nat
  bindings : BindingTable
  imported : Nat

namespace Space

def empty : Space := ⟨#[], ∅, 0⟩

/-- Enters the field at `position`; its name is bound to the index it gets here. -/
def enter (position : Nat) (loc : Location) (x : Membership) : Space → Space
  | ⟨positions, bindings, imported⟩ =>
    let index := positions.size
    ⟨positions.push position, bindings.insertIfNamed x.name ⟨loc, index⟩, imported + x.imported.toNat⟩

end Space

structure Spaces where
  funcs : Space
  tables : Space
  memories : Space
  globals : Space
  excepts : Space
  types : Space
  exports : Space
  imports : Space
  elems : Space
  datas : Space

namespace Spaces

def empty : Spaces := ⟨.empty, .empty, .empty, .empty, .empty, .empty, .empty, .empty, .empty, .empty⟩

def get (s : Spaces) : SpaceKind → Space
  | .funcs => s.funcs
  | .tables => s.tables
  | .memories => s.memories
  | .globals => s.globals
  | .excepts => s.excepts
  | .types => s.types
  | .exports => s.exports
  | .imports => s.imports
  | .elems => s.elems
  | .datas => s.datas

def modify (s : Spaces) (k : SpaceKind) (r : Space → Space) : Spaces :=
  match k with
  | .funcs => { s with funcs := r s.funcs }
  | .tables => { s with tables := r s.tables }
  | .memories => { s with memories := r s.memories }
  | .globals => { s with globals := r s.globals }
  | .excepts => { s with excepts := r s.excepts }
  | .types => { s with types := r s.types }
  | .exports => { s with exports := r s.exports }
  | .imports => { s with imports := r s.imports }
  | .elems => { s with elems := r s.elems }
  | .datas => { s with datas := r s.datas }

/-- Enters a field, which is at `position` among all fields, into every space it belongs to. -/
def enter (s : Spaces) (position : Nat) (f : Field) : Spaces :=
  f.memberships.foldl (fun s x => s.modify x.space (Space.enter position f.loc x)) s

end Spaces

end WasmTree
