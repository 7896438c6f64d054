import Mathlib.Data.List.Basic
import WasmTree.Proofs.Module.Appending

/-! Each space of a module is the projection of the fields that belong to it, and stays so. -/

namespace WasmTree

section Selection

variable {α β : Type} {p : α → Bool} {l : List α}

lemma map_getElem?_findIdxs : (l.findIdxs p).map (l[·]?) = (l.filter p).map some := by
  apply List.ext_getElem
  · simp [List.countP_eq_length_filter]
  · intro i hi hj
    rw [List.getElem_map, List.getElem_map]
    rw [List.getElem_filter_eq_getElem_getElem_findIdxs, List.getElem?_eq_getElem]

lemma map_filter_of_isSome {g : α → Option β} (h : ∀ a, (g a).isSome = p a) :
    (l.filter p).map g = (l.filterMap g).map some := by
  induction l with
  | nil => rfl
  | cons a l ih =>
    have ha := h a
    cases hg : g a with
    | none => simp_all
    | some b => simp_all

lemma map_findIdxs_of_isSome {g : α → Option β} (h : ∀ a, (g a).isSome = p a) :
    (l.findIdxs p).map (fun i => l[i]?.bind g) = (l.filterMap g).map some := by
  rw [← map_filter_of_isSome h]
  have he := congrArg (List.map (Option.bind · g)) (@map_getElem?_findIdxs α p l)
  simpa only [List.map_map, Function.comp_def, Option.bind_some] using he

lemma findIdxs_concat (a : α) :
    (l ++ [a]).findIdxs p = l.findIdxs p ++ if p a then [l.length] else [] := by
  rw [List.findIdxs_append, List.findIdxs_singleton, Nat.zero_add]

lemma map_set_eq_self {q : α → β} {i : Nat} {a b : α} (hi : l[i]? = some a) (hq : q b = q a) :
    (l.set i b).map q = l.map q := by
  have hm : (l.map q)[i]? = some (q b) := by
    rw [List.getElem?_map, hi, Option.map_some, hq]
  obtain ⟨hl, he⟩ := List.getElem?_eq_some_iff.mp hm
  rw [List.map_set, ← he, List.set_getElem_self]

lemma findIdxs_set {i : Nat} {a b : α} (hi : l[i]? = some a) (hp : p b = p a) :
    (l.set i b).findIdxs p = l.findIdxs p := by
  have h := congrArg (List.findIdxs id) (map_set_eq_self hi hp)
  simpa only [List.findIdxs_map, Function.id_comp] using h

lemma countP_set_eq_self {i : Nat} {a b : α} (hi : l[i]? = some a) (hp : p b = p a) :
    (l.set i b).countP p = l.countP p := by
  have h := congrArg (List.countP id) (map_set_eq_self hi hp)
  simpa only [List.countP_map, Function.id_comp] using h

section Total

variable {l' : List β} {g : α → Option β} (h : l.map g = l'.map some)

include h

lemma filterMap_of_map_some : l.filterMap g = l' := by
  have he := congrArg (List.filterMap id) h
  simpa only [List.filterMap_map, Function.id_comp, List.filterMap_some] using he

lemma getElem?_bind_of_map_some (i : Nat) : l[i]?.bind g = l'[i]? := by
  have he := congrArg (fun xs => xs[i]?.bind id) h
  simpa only [List.getElem?_map, Option.bind_map, Function.id_comp, Option.bind_fun_some] using he

lemma getLast?_bind_of_map_some : l.getLast?.bind g = l'.getLast? := by
  have he := congrArg (fun xs => xs.getLast?.bind id) h
  simpa only [List.getLast?_map, Option.bind_map, Function.id_comp, Option.bind_fun_some] using he

end Total

end Selection

namespace Module

structure Consistent (m : Module) : Prop where
  positions : ∀ k, (m.space k).positions.toList = m.fields.toList.findIdxs (Field.belongs k)
  imported : ∀ k, (m.space k).imported = m.fields.toList.countP (Field.importedIn k)
  startField : m.startField = (m.fields.toList.findIdxs fun f => f.start?.isSome).getLast?

lemma consistent_empty : empty.Consistent where
  positions k := by cases k <;> rfl
  imported k := by cases k <;> rfl
  startField := rfl

namespace Consistent

variable {m : Module}

lemma append (h : m.Consistent) (f : Field) : (m.append f).Consistent where
  positions k := by
    have hp := h.positions k
    rw [append_space, append_fields, Array.toList_push, findIdxs_concat, Array.length_toList, ← hp]
    cases hk : f.membership? k with
    | none => simp [Field.belongs, hk]
    | some x => simp [Field.belongs, hk]
  imported k := by
    have hi := h.imported k
    rw [append_space, append_fields, Array.toList_push, List.countP_append, List.countP_singleton, ← hi]
    cases hk : f.membership? k with
    | none => simp [Field.importedIn, hk]
    | some x => cases hx : x.imported <;> simp [Field.importedIn, hk, hx]
  startField := by
    rw [append_startField, append_fields, Array.toList_push, findIdxs_concat, Array.length_toList]
    by_cases hs : f.start?.isSome
    · simp [hs]
    · simp [hs, h.startField]

lemma setField (h : m.Consistent) {p : Nat} {f g : Field} (hp : m.fields[p]? = some f) (hr : f.Rewrites g) :
    Consistent { m with fields := m.fields.setIfInBounds p g } := by
  have hf : m.fields.toList[p]? = some f := by simpa using hp
  refine ⟨fun k => ?_, fun k => ?_, ?_⟩
  · rw [Array.toList_setIfInBounds, findIdxs_set hf (hr.belongs k)]
    exact h.positions k
  · rw [Array.toList_setIfInBounds, countP_set_eq_self hf (hr.importedIn k)]
    exact h.imported k
  · rw [Array.toList_setIfInBounds, findIdxs_set hf (congrArg Option.isSome hr.start)]
    exact h.startField

variable {α : Type} {part? : Field → Option α}

lemma map_positions (h : m.Consistent) {k : SpaceKind} (hp : ∀ f : Field, (part? f).isSome = f.belongs k) :
    (m.space k).positions.toList.map (fun i => m.fields[i]?.bind part?) =
      (m.fields.toList.filterMap part?).map some := by
  rw [h.positions k, ← map_findIdxs_of_isSome hp]
  simp only [Array.getElem?_toList]

lemma length_filterMap (h : m.Consistent) {k : SpaceKind} (hp : ∀ f : Field, (part? f).isSome = f.belongs k) :
    (m.fields.toList.filterMap part?).length = m.size k := by
  have hs := congrArg List.length (h.map_positions hp)
  rw [List.length_map, List.length_map, Array.length_toList] at hs
  exact hs.symm

lemma start?_eq (h : m.Consistent) : m.start? = (m.fields.toList.filterMap Field.start?).getLast? := by
  have hm := map_findIdxs_of_isSome (l := m.fields.toList) fun f : Field => Eq.refl f.start?.isSome
  rw [← getLast?_bind_of_map_some hm]
  rw [Module.start?, h.startField, Option.bind_assoc]
  simp only [Array.getElem?_toList]

end Consistent

end Module

end WasmTree
