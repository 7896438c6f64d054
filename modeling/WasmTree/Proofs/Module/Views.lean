import WasmTree.Proofs.Module.Consistency

/-! The count, the list and the accessor of a space are three views of one list of items. -/

namespace WasmTree

namespace Field

def nameIn (f : Field) : SpaceKind → Option (Option String)
  | .funcs => f.func?.map Func.name
  | .tables => f.table?.map Table.name
  | .memories => f.memory?.map Memory.name
  | .globals => f.global?.map Global.name
  | .excepts => f.except?.map Exception.name
  | .types => f.type?.map FuncType.name
  | .exports => f.export?.map fun x => some x.name
  | .imports => f.import?.map fun _ => none
  | .elems => f.elem?.map fun _ => none
  | .datas => f.data?.map fun _ => none

lemma nameIn_eq (f : Field) (k : SpaceKind) : f.nameIn k = (f.membership? k).map Membership.name := by
  rcases f with ⟨loc, content⟩
  cases content with
  | entity e => cases e <;> cases k <;> rfl
  | imported i =>
    rcases i with ⟨m, n, e⟩
    cases e <;> cases k <;> rfl
  | _ => cases k <;> rfl

def importOf (k : ExternalKind) (f : Field) : Bool := f.import?.any fun i => i.entity.kind = k

lemma importedIn_space (k : ExternalKind) : importedIn k.space = importOf k := by
  funext ⟨loc, content⟩
  cases content with
  | entity e => cases e <;> cases k <;> rfl
  | imported i =>
    rcases i with ⟨m, n, e⟩
    cases e <;> cases k <;> rfl
  | _ => cases k <;> rfl

end Field

namespace Module

structure View {α : Type} (m : Module) (k : SpaceKind) (part? : Field → Option α) (items : List α)
    (item? : Nat → Option α) : Prop where
  items_eq : items = m.fields.toList.filterMap part?
  length_eq : items.length = m.size k
  item?_eq : ∀ i, item? i = items[i]?
  eq_none_iff : ∀ i, item? i = none ↔ m.size k ≤ i

/-- Everything a module tells about its fields is read off the list of them. -/
structure Projected (m : Module) : Prop where
  funcs : m.View .funcs Field.func? m.funcs m.func?
  tables : m.View .tables Field.table? m.tables m.table?
  memories : m.View .memories Field.memory? m.memories m.memory?
  globals : m.View .globals Field.global? m.globals m.global?
  excepts : m.View .excepts Field.except? m.excepts m.except?
  types : m.View .types Field.type? m.types m.type?
  exports : m.View .exports Field.export? m.exports m.export?
  imports : m.View .imports Field.import? m.imports m.import?
  elems : m.View .elems Field.elem? m.elems m.elem?
  datas : m.View .datas Field.data? m.datas m.data?
  importCount_eq : ∀ k, m.importCount k = m.fields.toList.countP (Field.importOf k)
  start?_eq : m.start? = (m.fields.toList.filterMap Field.start?).getLast?

/-- The part of a field that a space is about, with the name it has there. -/
def IsPart {α : Type} (k : SpaceKind) (part? : Field → Option α) (name : α → Option String) : Prop :=
  ∀ f, (part? f).map name = (f.membership? k).map Membership.name

lemma IsPart.isSome {α : Type} {k : SpaceKind} {part? : Field → Option α} {name : α → Option String}
    (h : IsPart k part? name) (f : Field) : (part? f).isSome = f.belongs k := by
  have hs := congrArg Option.isSome (h f)
  simpa only [Field.belongs, Option.isSome_map] using hs

namespace Consistent

variable {m : Module} {α : Type} {k : SpaceKind} {part? : Field → Option α} {name : α → Option String}

lemma view (h : m.Consistent) (hp : IsPart k part? name) :
    m.View k part? ((m.entries k).filterMap part?) fun i => (m.entry? k i).bind part? := by
  have hm := h.map_positions hp.isSome
  have hi : (m.entries k).filterMap part? = m.fields.toList.filterMap part? := by
    rw [Module.entries, List.filterMap_filterMap, filterMap_of_map_some hm]
  have hl := h.length_filterMap hp.isSome
  have hg (i : Nat) : (m.entry? k i).bind part? = (m.fields.toList.filterMap part?)[i]? := by
    rw [Module.entry?, Option.bind_assoc, ← getElem?_bind_of_map_some hm, Array.getElem?_toList]
  refine ⟨hi, hi ▸ hl, fun i => hi ▸ hg i, fun i => ?_⟩
  rw [hg, List.getElem?_eq_none_iff, hl]

lemma projected (h : m.Consistent) : m.Projected where
  funcs := h.view fun f => f.nameIn_eq .funcs
  tables := h.view fun f => f.nameIn_eq .tables
  memories := h.view fun f => f.nameIn_eq .memories
  globals := h.view fun f => f.nameIn_eq .globals
  excepts := h.view fun f => f.nameIn_eq .excepts
  types := h.view fun f => f.nameIn_eq .types
  exports := h.view fun f => f.nameIn_eq .exports
  imports := h.view fun f => f.nameIn_eq .imports
  elems := h.view fun f => f.nameIn_eq .elems
  datas := h.view fun f => f.nameIn_eq .datas
  importCount_eq k := by
    rw [Module.importCount, h.imported, Field.importedIn_space]
  start?_eq := h.start?_eq

end Consistent

end Module

end WasmTree
