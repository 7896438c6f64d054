import WasmTree.Proofs.Binding
import WasmTree.Proofs.Module.Changes

/-! What the references to the entries of a space lead to, in a module grown field after field. -/

namespace WasmTree

def Field.label? (k : SpaceKind) (f : Field) : Option Label := (f.membership? k).map fun x => ⟨x.name, f.loc⟩

lemma Field.isSome_label? (k : SpaceKind) (f : Field) : (f.label? k).isSome = f.belongs k := by
  simp only [label?, belongs, Option.isSome_map]

namespace Module

def Labelled (m : Module) : Prop :=
  ∀ k, m.bindings k = BindingTable.ofLabels (m.fields.toList.filterMap (Field.label? k))

variable {m : Module}

lemma append_bindings (m : Module) (f : Field) (k : SpaceKind) :
    (m.append f).bindings k =
      (f.label? k).elim (m.bindings k) fun l => (m.bindings k).insertIfNamed l.name ⟨l.loc, m.size k⟩ := by
  rw [bindings, bindings, Field.label?, append_space]
  cases f.membership? k <;> rfl

lemma labelled_empty : empty.Labelled := fun k => by cases k <;> rfl

namespace Labelled

lemma append (h : m.Labelled) (hc : m.Consistent) (f : Field) : (m.append f).Labelled := by
  intro k
  have hs := hc.length_filterMap (Field.isSome_label? k)
  rw [append_bindings, append_fields, Array.toList_push, List.filterMap_append, h k, ← hs]
  cases hl : f.label? k with
  | none => simp [hl]
  | some l =>
    have hf : [f].filterMap (Field.label? k) = [l] := by simp [hl]
    rw [hf, BindingTable.ofLabels_concat]
    rfl

lemma appendAll (h : m.Labelled) (hc : m.Consistent) (fs : List Field) : (m.appendAll fs).Labelled := by
  unfold Module.appendAll
  induction fs generalizing m with
  | nil => exact h
  | cons f fs ih => exact ih (h.append hc f) (hc.append f)

end Labelled

lemma labelled_grown (gs : List Growth) : (grown gs).Labelled := by
  induction gs using List.reverseRecOn with
  | nil => exact labelled_empty
  | append_singleton gs g ih =>
    have hc := consistent_grown gs
    rw [grown_concat, grow_eq_appendAll hc]
    exact ih.appendAll hc _

/-- A name leads to the first item that carries it, and an index within the space to itself. -/
structure Namespace {α : Type} (m : Module) (fs : List Field) (k : SpaceKind) (part? : Field → Option α)
    (name : α → Option String) : Prop where
  of_name : ∀ loc n, m.index? k ⟨loc, .name n⟩ = (fs.filterMap part?).findIdx? fun x => name x = some n
  of_index : ∀ loc i,
    m.index? k ⟨loc, .index i⟩ = if i.toNat < (fs.filterMap part?).length then some i.toNat else none
  duplicates : (m.bindings k).duplicates.toList =
    BindingTable.repeated (fs.filterMap fun f => (part? f).map fun x => ⟨name x, f.loc⟩)

/-- A reference leads to the item at its index, which exists if the index does. -/
structure Finds {α : Type} (m : Module) (fs : List Field) (k : SpaceKind) (part? : Field → Option α) (v : Var)
    (found : Option α) : Prop where
  eq_bind : found = (m.index? k v).bind fun i => (fs.filterMap part?)[i]?
  isSome_eq : found.isSome = (m.index? k v).isSome

structure Resolved (m : Module) (fs : List Field) : Prop where
  funcs : m.Namespace fs .funcs Field.func? Func.name
  tables : m.Namespace fs .tables Field.table? Table.name
  memories : m.Namespace fs .memories Field.memory? Memory.name
  globals : m.Namespace fs .globals Field.global? Global.name
  excepts : m.Namespace fs .excepts Field.except? Exception.name
  types : m.Namespace fs .types Field.type? FuncType.name
  exports : m.Namespace fs .exports Field.export? fun x => some x.name
  getFunc? : ∀ v, m.Finds fs .funcs Field.func? v (m.getFunc? v)
  getTable? : ∀ v, m.Finds fs .tables Field.table? v (m.getTable? v)
  getMemory? : ∀ v, m.Finds fs .memories Field.memory? v (m.getMemory? v)
  getGlobal? : ∀ v, m.Finds fs .globals Field.global? v (m.getGlobal? v)
  getExcept? : ∀ v, m.Finds fs .excepts Field.except? v (m.getExcept? v)
  getType? : ∀ v, m.Finds fs .types Field.type? v (m.getType? v)
  getExport? : ∀ loc n, m.Finds fs .exports Field.export? ⟨loc, .name n⟩ (m.getExport? n)

lemma index?_index (m : Module) (k : SpaceKind) (loc : Location) (i : UInt32) :
    m.index? k ⟨loc, .index i⟩ = if i.toNat < m.size k then some i.toNat else none := by
  have hr : m.index? k ⟨loc, .index i⟩ = (some i.toNat).filter (· < m.size k) := rfl
  by_cases hi : i.toNat < m.size k <;> simp [hr, hi, Option.filter]

lemma lt_of_index? {k : SpaceKind} {v : Var} {i : Nat} (h : m.index? k v = some i) : i < m.size k := by
  rw [index?] at h
  obtain ⟨-, hi⟩ := Option.filter_eq_some_iff.mp h
  exact of_decide_eq_true hi

variable {α : Type} {k : SpaceKind} {part? : Field → Option α} {name : α → Option String}

lemma View.finds {items : List α} {item? : Nat → Option α} (h : m.View k part? items item?) (v : Var) :
    m.Finds m.fields.toList k part? v ((m.index? k v).bind item?) where
  eq_bind := by
    rw [← h.items_eq]
    exact congrArg _ (funext h.item?_eq)
  isSome_eq := by
    cases hi : m.index? k v with
    | none => rfl
    | some i =>
      have hn : item? i ≠ none := fun hn => Nat.not_le.mpr (lt_of_index? hi) ((h.eq_none_iff i).mp hn)
      exact Option.isSome_iff_ne_none.mpr hn

lemma IsPart.labels_eq (hp : IsPart k part? name) (fs : List Field) :
    fs.filterMap (Field.label? k) = fs.filterMap fun f => (part? f).map fun x => ⟨name x, f.loc⟩ := by
  congr 1
  funext f
  have hf := congrArg (Option.map fun n => Label.mk n f.loc) (hp f)
  rw [Option.map_map, Option.map_map] at hf
  exact hf.symm

namespace Labelled

lemma map_find? (h : m.Labelled) (hp : IsPart k part? name) (n : String) :
    ((m.bindings k).find? n).map Binding.index =
      (m.fields.toList.filterMap part?).findIdx? fun x => name x = some n := by
  have hn : ((m.fields.toList.filterMap (Field.label? k)).map Label.name) =
      (m.fields.toList.filterMap part?).map name := by
    rw [hp.labels_eq, List.map_filterMap, List.map_filterMap]
    simp only [Option.map_map, Function.comp_def]
  have hi := congrArg (List.findIdx? (· = some n)) hn
  rw [h k, BindingTable.find?_ofLabels]
  simpa only [List.findIdx?_map, Function.comp_def] using hi

lemma index?_name (h : m.Labelled) (hc : m.Consistent) (hp : IsPart k part? name) (loc : Location) (n : String) :
    m.index? k ⟨loc, .name n⟩ = ((m.bindings k).find? n).map Binding.index := by
  have hr : m.index? k ⟨loc, .name n⟩ = (((m.bindings k).find? n).map Binding.index).filter (· < m.size k) := rfl
  have hf := h.map_find? hp n
  rw [hr]
  cases hi : ((m.bindings k).find? n).map Binding.index with
  | none => rfl
  | some i =>
    have hlt := (List.findIdx?_eq_some_iff_findIdx_eq.mp (hf.symm.trans hi)).1
    rw [hc.length_filterMap hp.isSome] at hlt
    simp [Option.filter, hlt]

lemma resolves (h : m.Labelled) (hc : m.Consistent) (hp : IsPart k part? name) :
    m.Namespace m.fields.toList k part? name where
  of_name loc n := (h.index?_name hc hp loc n).trans (h.map_find? hp n)
  of_index loc i := by
    rw [hc.length_filterMap hp.isSome]
    exact index?_index m k loc i
  duplicates := by
    rw [h k, BindingTable.duplicates_ofLabels, hp.labels_eq]

lemma getExport?_eq (h : m.Labelled) (hc : m.Consistent) (loc : Location) (n : String) :
    m.getExport? n = (m.index? .exports ⟨loc, .name n⟩).bind m.export? := by
  rw [h.index?_name hc (fun f => f.nameIn_eq .exports), Option.bind_map]
  rfl

lemma resolved (h : m.Labelled) (hc : m.Consistent) : m.Resolved m.fields.toList where
  funcs := h.resolves hc fun f => f.nameIn_eq .funcs
  tables := h.resolves hc fun f => f.nameIn_eq .tables
  memories := h.resolves hc fun f => f.nameIn_eq .memories
  globals := h.resolves hc fun f => f.nameIn_eq .globals
  excepts := h.resolves hc fun f => f.nameIn_eq .excepts
  types := h.resolves hc fun f => f.nameIn_eq .types
  exports := h.resolves hc fun f => f.nameIn_eq .exports
  getFunc? := hc.projected.funcs.finds
  getTable? := hc.projected.tables.finds
  getMemory? := hc.projected.memories.finds
  getGlobal? := hc.projected.globals.finds
  getExcept? := hc.projected.excepts.finds
  getType? := hc.projected.types.finds
  getExport? loc n := h.getExport?_eq hc loc n ▸ hc.projected.exports.finds ⟨loc, .name n⟩

end Labelled

/-- However a module was grown, names and indices lead into the fields that were appended to it. -/
theorem resolved_grown (gs : List Growth) :
    (grown gs).Resolved (appended gs) ∧ ((appended gs).length < 0x100000000 →
      ∀ k loc, (grown gs).index? k ⟨loc, .index invalidIndex⟩ = none) := by
  have hc := consistent_grown gs
  have hf := fields_grown gs
  refine ⟨hf ▸ (labelled_grown gs).resolved hc, fun hl k loc => ?_⟩
  have hs : (grown gs).size k ≤ (appended gs).length := by
    rw [← hc.length_filterMap (Field.isSome_label? k), hf]
    exact List.length_filterMap_le _ _
  have hi : invalidIndex.toNat = 0xFFFFFFFF := rfl
  rw [index?_index, hi, if_neg (by omega)]

def twoTables : List Growth :=
  [.append ⟨.binary 10, .imported ⟨"env", "table", .table ⟨some "t", ⟨1, none, false⟩⟩⟩⟩,
    .append ⟨.binary 20, .entity (.table ⟨some "t", ⟨2, none, false⟩⟩)⟩]

theorem resolved_twoTables :
    (appended twoTables).length < 0x100000000 ∧
      (grown twoTables).index? .tables (.ofName "t") = some 0 ∧
      (grown twoTables).index? .tables (.ofIndex 1) = some 1 ∧
      ((grown twoTables).bindings .tables).duplicates.toList = [("t", ⟨.binary 20, 1⟩)] ∧
      (grown twoTables).index? .memories (.ofName "t") = none ∧
      (grown twoTables).index? .tables (.ofIndex invalidIndex) = none := by
  have hl : (appended twoTables).length < 0x100000000 := by decide
  obtain ⟨hr, hi⟩ := resolved_grown twoTables
  exact ⟨hl, hr.tables.of_name .unknown "t", hr.tables.of_index .unknown 1, hr.tables.duplicates,
    hr.memories.of_name .unknown "t", hi hl .tables .unknown⟩

end Module

end WasmTree
