import Mathlib.Tactic.Lemma

/-!
Line breaks. They add up where texts are put together, and as long as no line has one of its own a text
falls apart into the lines it was made of.
-/

namespace WasmTree.Text

def breaks (s : String) : Nat := s.toList.count '\n'

/-- What stands before, between and after the line breaks of a text. -/
def pieces (s : String) : List String := (s.split '\n').toList.map String.Slice.copy

@[simp]
lemma breaks_append (s t : String) : breaks (s ++ t) = breaks s + breaks t := by
  rw [breaks, String.toList_append, List.count_append, breaks, breaks]

lemma breaks_ofList (cs : List Char) : breaks (String.ofList cs) = cs.count '\n' := by
  rw [breaks, String.toList_ofList]

lemma breaks_eq_zero_iff {s : String} : breaks s = 0 ↔ '\n' ∉ s.toList := List.count_eq_zero

@[simp]
lemma breaks_repr (n : Nat) : breaks n.repr = 0 := by
  rw [Nat.repr_eq_ofList_toDigits, breaks_ofList, List.count_eq_zero]
  intro h
  have hd := Nat.isDigit_of_mem_toDigits (by decide) (by decide) h
  exact absurd hd (by decide)

@[simp]
lemma breaks_uint32 (i : UInt32) : breaks (toString i) = 0 := breaks_repr i.toNat

@[simp]
lemma breaks_uint64 (i : UInt64) : breaks (toString i) = 0 := breaks_repr i.toNat

section Joined

variable {α : Type}

lemma breaks_join_eq_zero_iff {l : List String} : breaks (String.join l) = 0 ↔ ∀ s ∈ l, '\n' ∉ s.toList := by
  rw [breaks_eq_zero_iff, String.toList_join]
  simp only [List.mem_flatMap, not_exists, not_and]

lemma breaks_join_map {f : α → String} (hf : ∀ a, breaks (f a) = 0) (l : List α) :
    breaks (String.join (l.map f)) = 0 := by
  rw [breaks_join_eq_zero_iff]
  intro s hs
  obtain ⟨a, -, rfl⟩ := List.mem_map.mp hs
  exact breaks_eq_zero_iff.mp (hf a)

lemma breaks_join_mapIdx {f : Nat → α → String} {g : α → List String}
    (h : ∀ i a, breaks (f i a) = breaks (String.join (g a))) (l : List α) :
    breaks (String.join (l.mapIdx f)) = breaks (String.join (l.flatMap g)) := by
  induction l generalizing f with
  | nil => rfl
  | cons a l ih =>
    have hl := ih fun i => h (i + 1)
    rw [List.mapIdx_cons, List.flatMap_cons, String.join_cons, String.join_append, breaks_append, breaks_append,
      h, hl]

lemma breaks_intercalate {separator : String} (hs : breaks separator = 0) (l : List String) :
    breaks (separator.intercalate l) = breaks (String.join l) := by
  induction l with
  | nil => rfl
  | cons s l ih =>
    cases l with
    | nil => simp
    | cons t l =>
      rw [String.intercalate_cons_cons, breaks_append, breaks_append, hs, ih, Nat.add_zero, ← breaks_append,
        ← String.join_cons]

lemma breaks_terminated (l : List String) :
    breaks (String.join (l.map (· ++ "\n"))) = l.length + breaks (String.join l) := by
  have hb : breaks "\n" = 1 := rfl
  induction l with
  | nil => rfl
  | cons s l ih =>
    simp only [List.map_cons, String.join_cons, breaks_append, ih, hb, List.length_cons]
    omega

end Joined

lemma pieces_eq (s : String) : pieces s = (s.toList.splitOn '\n').map String.ofList := String.toList_split_char

lemma length_splitOn (cs : List Char) : (cs.splitOn '\n').length = cs.count '\n' + 1 := by
  induction cs with
  | nil => rfl
  | cons c cs ih =>
    rw [List.splitOn_cons_eq_if_modifyHead, List.count_cons]
    split
    · rw [List.length_cons, ih]
    · rw [List.length_modifyHead, ih, Nat.add_zero]

lemma length_pieces (s : String) : (pieces s).length = breaks s + 1 := by
  rw [pieces_eq, List.length_map, length_splitOn, breaks]

lemma pieces_append {s : String} (h : '\n' ∉ s.toList) (t : String) : pieces (s ++ "\n" ++ t) = s :: pieces t := by
  have hl : (s ++ "\n" ++ t).toList = s.toList ++ '\n' :: t.toList := by simp
  rw [pieces_eq, hl, List.splitOn_append_cons_self_of_not_mem h, List.map_cons, String.ofList_toList, ← pieces_eq]

lemma pieces_terminated {l : List String} (h : ∀ s ∈ l, '\n' ∉ s.toList) :
    pieces (String.join (l.map (· ++ "\n"))) = l ++ [""] := by
  induction l with
  | nil => exact pieces_eq ""
  | cons s l ih =>
    obtain ⟨hs, hl⟩ := List.forall_mem_cons.mp h
    rw [List.map_cons, String.join_cons, pieces_append hs, ih hl, List.cons_append]

end WasmTree.Text
