import Mathlib.Data.List.Basic
import Mathlib.Data.List.Induction
import Mathlib.Tactic.Lemma
import Std.Data.TreeMap.Lemmas
import WasmTree.Binding

/-! A table filled from a list of labels resolves each name to the first label that carries it. -/

namespace WasmTree

structure Label where
  name : Option String
  loc : Location

/-- What is recorded of a label whose name is carried by an earlier one. -/
def Label.again? (earlier : List Label) (l : Label) : Option (String × Binding) :=
  (l.name.filter fun n => earlier.any (·.name = some n)).map fun n => (n, ⟨l.loc, earlier.length⟩)

namespace BindingTable

def ofLabels (ls : List Label) : BindingTable :=
  ls.zipIdx.foldl (fun t (l, i) => t.insertIfNamed l.name ⟨l.loc, i⟩) ∅

def repeated (ls : List Label) : List (String × Binding) :=
  ls.zipIdx.filterMap fun (l, i) => l.again? (ls.take i)

lemma find?_empty (n : String) : (∅ : BindingTable).find? n = none := Std.TreeMap.getElem?_emptyc

lemma find?_insert (t : BindingTable) (n n' : String) (b : Binding) :
    (t.insert n b).find? n' = (t.find? n').or (if n = n' then some b else none) := by
  rw [insert]
  by_cases hn : n = n'
  · subst hn
    cases h : t.find? n with
    | some b' => exact h.trans (by simp)
    | none => simp [find?]
  · rw [if_neg hn, Option.or_none]
    cases h : t.find? n with
    | some b' => rfl
    | none => simp [find?, Std.TreeMap.getElem?_insert, hn]

lemma duplicates_insert (t : BindingTable) (n : String) (b : Binding) :
    (t.insert n b).duplicates.toList = t.duplicates.toList ++ if (t.find? n).isSome then [(n, b)] else [] := by
  rw [insert]
  cases h : t.find? n with
  | some b' => simp
  | none => simp

def insertAll (t : BindingTable) (bs : List (String × Binding)) : BindingTable :=
  bs.foldl (fun t x => t.insert x.1 x.2) t

lemma find?_insertAll (t : BindingTable) (bs : List (String × Binding)) (n : String) :
    (t.insertAll bs).find? n = (t.find? n).or ((bs.find? (·.1 = n)).map (·.2)) := by
  induction bs generalizing t with
  | nil => simp [insertAll]
  | cons x bs ih =>
    have hc : t.insertAll (x :: bs) = (t.insert x.1 x.2).insertAll bs := rfl
    rw [hc, ih, find?_insert, Option.or_assoc]
    by_cases hn : x.1 = n
    · simp [hn]
    · simp [hn]

lemma insertAll_concat (t : BindingTable) (bs : List (String × Binding)) (b : String × Binding) :
    t.insertAll (bs ++ [b]) = (t.insertAll bs).insert b.1 b.2 := by
  rw [insertAll, List.foldl_append]
  rfl

/-- The binding is kept for the name, or recorded because an earlier one is. -/
def Holds (t : BindingTable) (x : String × Binding) : Prop := t.find? x.1 = some x.2 ∨ x ∈ t.duplicates.toList

lemma holds_insert (t : BindingTable) (n : String) (b : Binding) (x : String × Binding) :
    (t.insert n b).Holds x ↔ t.Holds x ∨ x = (n, b) := by
  rw [Holds, Holds, find?_insert, duplicates_insert, Prod.ext_iff]
  by_cases hn : n = x.1
  · subst hn
    cases t.find? x.1 with
    | some b' => simp [Prod.ext_iff, or_assoc]
    | none => simp [or_comm, eq_comm]
  · cases t.find? n <;> simp [hn, Ne.symm hn, Prod.ext_iff]

lemma holds_insertAll (bs : List (String × Binding)) (x : String × Binding) :
    ((∅ : BindingTable).insertAll bs).Holds x ↔ x ∈ bs := by
  induction bs using List.reverseRecOn with
  | nil =>
    have hd : (∅ : BindingTable).duplicates.toList = [] := rfl
    simp [insertAll, Holds, find?_empty, hd]
  | append_singleton bs b ih =>
    rw [insertAll_concat, holds_insert, ih, List.mem_append, List.mem_singleton]

/-- Of the bindings that are given to one name, all but the first are recorded, in their order. -/
lemma filter_duplicates_insertAll (bs : List (String × Binding)) (n : String) :
    ((∅ : BindingTable).insertAll bs).duplicates.toList.filter (·.1 = n) = (bs.filter (·.1 = n)).tail := by
  induction bs using List.reverseRecOn with
  | nil => rfl
  | append_singleton bs b ih =>
    rw [insertAll_concat, duplicates_insert, List.filter_append, ih, List.filter_append, find?_insertAll,
      find?_empty, Option.none_or, Option.isSome_map]
    by_cases hn : b.1 = n
    · subst hn
      rw [← List.head?_filter]
      cases hb : bs.filter fun x => x.1 = b.1 <;> simp
    · cases bs.find? fun x => decide (x.1 = b.1) <;> simp [hn]

lemma mem_duplicates_insertAll (bs : List (String × Binding)) (b : String × Binding) :
    b ∈ ((∅ : BindingTable).insertAll bs).duplicates.toList ↔ b ∈ (bs.filter (·.1 = b.1)).tail := by
  rw [← filter_duplicates_insertAll, List.mem_filter, decide_eq_true_eq, and_iff_left rfl]

lemma ofLabels_concat (ls : List Label) (l : Label) :
    ofLabels (ls ++ [l]) = (ofLabels ls).insertIfNamed l.name ⟨l.loc, ls.length⟩ := by
  rw [ofLabels, List.zipIdx_append, List.foldl_append, Nat.zero_add]
  rfl

lemma find?_ofLabels (ls : List Label) (n : String) :
    ((ofLabels ls).find? n).map Binding.index = ls.findIdx? (·.name = some n) := by
  induction ls using List.reverseRecOn with
  | nil => exact congrArg (Option.map Binding.index) (find?_empty n)
  | append_singleton ls l ih =>
    rw [ofLabels_concat, List.findIdx?_append, ← ih, insertIfNamed]
    cases hl : l.name with
    | none => simp [hl]
    | some n' =>
      rw [Option.elim_some, find?_insert, Option.map_or]
      by_cases hn : n' = n
      · simp [hl, hn]
      · simp [hl, hn]

lemma repeated_concat (ls : List Label) (l : Label) :
    repeated (ls ++ [l]) = repeated ls ++ (l.again? ls).toList := by
  rw [repeated, repeated, List.zipIdx_append, List.filterMap_append]
  congr 1
  · apply List.filterMap_congr
    rintro ⟨l', i⟩ hi
    have hlt := (List.mem_zipIdx hi).2.1
    have ht : (ls ++ [l]).take i = ls.take i := List.take_append_of_le_length (by omega)
    simp only [ht]
  · cases h : l.again? ls <;> simp [h]

lemma duplicates_ofLabels (ls : List Label) : (ofLabels ls).duplicates.toList = repeated ls := by
  induction ls using List.reverseRecOn with
  | nil => rfl
  | append_singleton ls l ih =>
    rw [ofLabels_concat, repeated_concat, ← ih, insertIfNamed]
    cases hl : l.name with
    | none => simp [Label.again?, hl]
    | some n =>
      have hf := congrArg Option.isSome (find?_ofLabels ls n)
      rw [Option.isSome_map, List.findIdx?_isSome] at hf
      rw [Option.elim_some, duplicates_insert, hf]
      by_cases hn : ls.any (·.name = some n)
      · simp [Label.again?, hl, hn, Option.filter]
      · simp [Label.again?, hl, hn, Option.filter]

lemma holds_insertIfNamed (t : BindingTable) (name : Option String) (b : Binding) (x : String × Binding) :
    (t.insertIfNamed name b).Holds x ↔ t.Holds x ∨ name = some x.1 ∧ x.2 = b := by
  cases name with
  | none => simp [insertIfNamed]
  | some n => exact (holds_insert t n b x).trans (by simp [Prod.ext_iff, eq_comm])

lemma getElem?_concat_eq_some {α : Type} {l : List α} {a b : α} {i : Nat} :
    (l ++ [a])[i]? = some b ↔ l[i]? = some b ∨ i = l.length ∧ a = b := by
  rw [List.getElem?_append]
  split
  · rename_i hi
    simp [Nat.ne_of_lt hi]
  · rename_i hi
    rw [List.getElem?_eq_none (Nat.not_lt.mp hi), List.getElem?_singleton]
    have hz : i - l.length = 0 ↔ i = l.length := by omega
    simp [hz]

/-- What a table holds are the labels with a name, each under its position. -/
lemma holds_ofLabels (ls : List Label) (x : String × Binding) :
    (ofLabels ls).Holds x ↔ ∃ l, ls[x.2.index]? = some l ∧ l.name = some x.1 ∧ l.loc = x.2.loc := by
  induction ls using List.reverseRecOn with
  | nil =>
    have hd : (ofLabels []).duplicates.toList = [] := rfl
    have he : (ofLabels []).find? x.1 = none := find?_empty x.1
    simp [Holds, he, hd]
  | append_singleton ls l ih =>
    rw [ofLabels_concat, holds_insertIfNamed, ih]
    simp only [getElem?_concat_eq_some, or_and_right, exists_or]
    refine or_congr_right ⟨?_, ?_⟩
    · rintro ⟨hn, hb⟩
      exact ⟨l, ⟨congrArg Binding.index hb, rfl⟩, hn, (congrArg Binding.loc hb).symm⟩
    · rintro ⟨_, ⟨hi, rfl⟩, hn, hl⟩
      exact ⟨hn, by rw [hl, ← hi]⟩

lemma again?_eq_some_iff {earlier : List Label} {l : Label} {x : String × Binding} :
    l.again? earlier = some x ↔
      (l.name = some x.1 ∧ ∃ l' ∈ earlier, l'.name = some x.1) ∧ x.2 = ⟨l.loc, earlier.length⟩ := by
  rw [Label.again?, Option.map_eq_some_iff]
  constructor
  · rintro ⟨n, hn, rfl⟩
    obtain ⟨hn, he⟩ := Option.filter_eq_some_iff.mp hn
    exact ⟨⟨hn, by simpa using he⟩, rfl⟩
  · rintro ⟨⟨hn, he⟩, hx⟩
    refine ⟨x.1, Option.filter_eq_some_iff.mpr ⟨hn, by simpa using he⟩, ?_⟩
    rw [← hx]

lemma mem_repeated {ls : List Label} {x : String × Binding} :
    x ∈ repeated ls ↔ ∃ l, ls[x.2.index]? = some l ∧ l.name = some x.1 ∧ l.loc = x.2.loc ∧
      ∃ l' ∈ ls.take x.2.index, l'.name = some x.1 := by
  have hlen {i : Nat} {l : Label} (h : ls[i]? = some l) : (ls.take i).length = i :=
    List.length_take_of_le (Nat.le_of_lt (List.getElem?_eq_some_iff.mp h).1)
  rw [repeated, List.mem_filterMap]
  constructor
  · rintro ⟨⟨l, i⟩, hm, ha⟩
    have hl := List.mem_zipIdx_iff_getElem?.mp hm
    obtain ⟨⟨hn, he⟩, hx⟩ := again?_eq_some_iff.mp ha
    obtain rfl : i = x.2.index := by rw [hx, hlen hl]
    exact ⟨l, hl, hn, (congrArg Binding.loc hx).symm, he⟩
  · rintro ⟨l, hl, hn, hx, he⟩
    refine ⟨(l, x.2.index), List.mem_zipIdx_iff_getElem?.mpr hl, again?_eq_some_iff.mpr ⟨⟨hn, he⟩, ?_⟩⟩
    rw [hlen hl, hx]

lemma pairwise_repeated (ls : List Label) : (repeated ls).Pairwise fun x y => x.2.index < y.2.index := by
  induction ls using List.reverseRecOn with
  | nil => exact .nil
  | append_singleton ls l ih =>
    rw [repeated_concat]
    refine List.pairwise_append.mpr ⟨ih, ?_, ?_⟩
    · cases l.again? ls <;> simp
    · intro x hx y hy
      obtain ⟨l', hl', -⟩ := mem_repeated.mp hx
      obtain ⟨-, hy⟩ := again?_eq_some_iff.mp (Option.mem_toList.mp hy)
      rw [hy]
      exact (List.getElem?_eq_some_iff.mp hl').1

end BindingTable

end WasmTree
