import Mathlib.Data.List.Induction
import Mathlib.Data.List.Nodup
import Mathlib.Tactic.Lemma
import Std.Data.TreeMap.Lemmas
import WasmTree.Func

/-! The names of the slots of a function are the inverse of looking a name up, in whatever order they are entered. -/

namespace WasmTree

section Entries

variable {count i : Nat} {es es' : List (String × Binding)}

lemma slotNames_concat (count : Nat) (es : List (String × Binding)) (e : String × Binding) :
    slotNames count (es ++ [e]) = (slotNames count es).setIfInBounds e.2.index e.1 := by
  rw [slotNames, List.foldl_append]
  rfl

lemma size_slotNames (count : Nat) (es : List (String × Binding)) : (slotNames count es).size = count := by
  induction es using List.reverseRecOn with
  | nil => exact Array.size_replicate
  | append_singleton es e ih => rw [slotNames_concat, Array.size_setIfInBounds, ih]

lemma length_toList_slotNames (count : Nat) (es : List (String × Binding)) :
    (slotNames count es).toList.length = count := size_slotNames count es

lemma getElem?_slotNames (hi : i < count) (es : List (String × Binding)) :
    (slotNames count es)[i]? = some ((es.reverse.find? (·.2.index = i)).elim "" Prod.fst) := by
  induction es using List.reverseRecOn with
  | nil => simp [slotNames, hi]
  | append_singleton es e ih =>
    rw [slotNames_concat, Array.getElem?_setIfInBounds, size_slotNames, ih, List.reverse_concat, List.find?_cons]
    by_cases he : e.2.index = i
    · simp [he, hi]
    · simp [he]

lemma getElem?_slotNames_iff (hn : (es.map (·.2.index)).Nodup) (hi : i < count) {n : String} :
    (slotNames count es)[i]? = some n ↔
      (∃ b, (n, b) ∈ es ∧ b.index = i) ∨ n = "" ∧ ∀ x ∈ es, x.2.index ≠ i := by
  rw [getElem?_slotNames hi, Option.some.injEq]
  cases hf : es.reverse.find? (·.2.index = i) with
  | none =>
    have hx : ∀ x ∈ es, x.2.index ≠ i := by simpa using hf
    refine ⟨fun h => .inr ⟨h.symm, hx⟩, ?_⟩
    rintro (⟨b, hb, hbi⟩ | ⟨rfl, -⟩)
    · exact absurd hbi (hx _ hb)
    · rfl
  | some x =>
    have hx : x ∈ es := List.mem_reverse.mp (List.mem_of_find?_eq_some hf)
    have hxi : x.2.index = i := by simpa using List.find?_some hf
    constructor
    · rintro rfl
      exact .inl ⟨x.2, hx, hxi⟩
    · rintro (⟨b, hb, hbi⟩ | ⟨-, hne⟩)
      · exact congrArg Prod.fst (List.inj_on_of_nodup_map hn hx hb (hxi.trans hbi.symm))
      · exact absurd hxi (hne x hx)

lemma slotNames_perm (hp : es.Perm es') (hn : (es.map (·.2.index)).Nodup) (count : Nat) :
    slotNames count es = slotNames count es' := by
  apply hp.foldl_eq'
  intro x hx y hy names
  by_cases hxy : x = y
  · rw [hxy]
  · apply Array.setIfInBounds_comm
    intro hi
    exact hxy (List.inj_on_of_nodup_map hn hx hy hi)

lemma slotNames_filter (count : Nat) (es : List (String × Binding)) :
    slotNames count (es.filter (·.2.index < count)) = slotNames count es := by
  induction es using List.reverseRecOn with
  | nil => rfl
  | append_singleton es e ih =>
    rw [List.filter_append, slotNames_concat]
    by_cases he : e.2.index < count
    · rw [List.filter_singleton, decide_eq_true he, cond_true, slotNames_concat, ih]
    · have hs : (slotNames count es).size ≤ e.2.index := by
        rw [size_slotNames]
        exact Nat.not_lt.mp he
      rw [List.filter_singleton, decide_eq_false he, cond_false, List.append_nil, ih,
        Array.setIfInBounds_eq_of_size_le hs]

end Entries

namespace BindingTable

variable {t : BindingTable}

lemma mem_toList {n : String} {b : Binding} : (n, b) ∈ t.toList ↔ t.find? n = some b :=
  Std.TreeMap.mem_toList_iff_getElem?_eq_some

lemma nodup_of_separates (h : t.separates) : (t.toList.map (·.2.index)).Nodup := of_decide_eq_true h

variable {count i : Nat} {n : String}

lemma getElem?_slotNames_toList (h : t.separates) (hi : i < count) :
    (slotNames count t.toList).toList[i]? = some n ↔
      (∃ b, t.find? n = some b ∧ b.index = i) ∨ n = "" ∧ ∀ x ∈ t.toList, x.2.index ≠ i := by
  rw [Array.getElem?_toList, getElem?_slotNames_iff (nodup_of_separates h) hi]
  simp only [mem_toList]

lemma getElem?_slotNames_of_ne (h : t.separates) (hi : i < count) (hn : n ≠ "") :
    (slotNames count t.toList).toList[i]? = some n ↔ ∃ b, t.find? n = some b ∧ b.index = i := by
  rw [getElem?_slotNames_toList h hi]
  simp [hn]

lemma getElem?_slotNames_of_find? (h : t.separates) {b : Binding} (hb : t.find? n = some b) (hi : b.index < count) :
    (slotNames count t.toList).toList[b.index]? = some n :=
  (getElem?_slotNames_toList h hi).mpr (.inl ⟨b, hb, rfl⟩)

end BindingTable

namespace Func

variable {f : Func}

/-- The names of all slots when the tables list their entries in these orders. -/
def slotNamesBy (f : Func) (ps ls : List (String × Binding)) : List String :=
  (WasmTree.slotNames f.params.length ps).toList ++ (WasmTree.slotNames f.locals.length ls).toList

/-- Whether the binding that a name is found by leads to a slot of its own table. -/
def leadsInside (f : Func) (n : String) : Bool :=
  match f.paramBindings.find? n with
  | some b => b.index < f.params.length
  | none => (f.localBindings.find? n).any (·.index < f.locals.length)

structure SlotsNamed (f : Func) (names : List String) : Prop where
  length_eq : names.length = f.slotCount
  param_iff : ∀ i < f.params.length, ∀ n ≠ "",
    names[i]? = some n ↔ ∃ b, f.paramBindings.find? n = some b ∧ b.index = i
  local_iff : ∀ j < f.locals.length, ∀ n ≠ "",
    names[f.params.length + j]? = some n ↔ ∃ b, f.localBindings.find? n = some b ∧ b.index = j
  found : ∀ loc i, ∀ n ≠ "", names[i]? = some n → (f.params.length ≤ i → f.paramBindings.find? n = none) →
    f.localIndex? ⟨loc, .name n⟩ = some i
  named : ∀ loc n i, f.localIndex? ⟨loc, .name n⟩ = some i → f.leadsInside n → names[i]? = some n

lemma slotNamesBy_perm (hp : f.paramBindings.separates) (hl : f.localBindings.separates)
    {ps ls : List (String × Binding)} (hps : ps.Perm f.paramBindings.toList) (hls : ls.Perm f.localBindings.toList) :
    f.slotNamesBy ps ls = f.slotNames := by
  have hp' := BindingTable.nodup_of_separates hp
  have hl' := BindingTable.nodup_of_separates hl
  rw [slotNamesBy, ← slotNames_perm hps.symm hp', ← slotNames_perm hls.symm hl']
  rfl

lemma getElem?_slotNames_param (f : Func) {i : Nat} (hi : i < f.params.length) :
    f.slotNames[i]? = (WasmTree.slotNames f.params.length f.paramBindings.toList).toList[i]? := by
  have hs : i < (WasmTree.slotNames f.params.length f.paramBindings.toList).toList.length := by
    rwa [length_toList_slotNames]
  rw [slotNames, List.getElem?_append_left hs]

lemma getElem?_slotNames_local (f : Func) (j : Nat) :
    f.slotNames[f.params.length + j]? = (WasmTree.slotNames f.locals.length f.localBindings.toList).toList[j]? := by
  have hs := length_toList_slotNames f.params.length f.paramBindings.toList
  rw [slotNames, List.getElem?_append_right (by omega), hs, Nat.add_sub_cancel_left]

lemma length_slotNames (f : Func) : f.slotNames.length = f.slotCount := by
  rw [slotNames, List.length_append, length_toList_slotNames, length_toList_slotNames, slotCount]

lemma slotsNamed (hp : f.paramBindings.separates) (hl : f.localBindings.separates) : f.SlotsNamed f.slotNames where
  length_eq := f.length_slotNames
  param_iff i hi n hn := by
    rw [f.getElem?_slotNames_param hi]
    exact BindingTable.getElem?_slotNames_of_ne hp hi hn
  local_iff j hj n hn := by
    rw [f.getElem?_slotNames_local]
    exact BindingTable.getElem?_slotNames_of_ne hl hj hn
  found loc i n hn h hi := by
    have hlt : i < f.slotCount := f.length_slotNames ▸ (List.getElem?_eq_some_iff.mp h).1
    rcases Nat.lt_or_ge i f.params.length with hi' | hi'
    · rw [f.getElem?_slotNames_param hi'] at h
      obtain ⟨b, hb, rfl⟩ := (BindingTable.getElem?_slotNames_of_ne hp hi' hn).mp h
      simp only [localIndex?, hb]
    · obtain ⟨j, rfl⟩ := Nat.exists_eq_add_of_le hi'
      rw [f.getElem?_slotNames_local] at h
      have hj : j < f.locals.length := by
        rw [slotCount] at hlt
        omega
      obtain ⟨b, hb, rfl⟩ := (BindingTable.getElem?_slotNames_of_ne hl hj hn).mp h
      simp only [localIndex?, hi hi', hb, Option.map_some]
  named loc n i h hi := by
    simp only [localIndex?, leadsInside] at h hi
    cases hb : f.paramBindings.find? n with
    | some b =>
      simp only [hb, Option.some.injEq, decide_eq_true_eq] at h hi
      subst h
      rw [f.getElem?_slotNames_param hi]
      exact BindingTable.getElem?_slotNames_of_find? hp hb hi
    | none =>
      simp only [hb] at h hi
      obtain ⟨b, hb, rfl⟩ := Option.map_eq_some_iff.mp h
      rw [hb, Option.any_some, decide_eq_true_eq] at hi
      rw [f.getElem?_slotNames_local]
      exact BindingTable.getElem?_slotNames_of_find? hl hb hi

/-- If no table has two names for one index, the names of the slots do not depend on the order of the entries
nor on entries past the end, and undo the lookup of a name. -/
theorem slotNames_inverse {ps ls : List (String × Binding)} (hp : f.paramBindings.separates)
    (hl : f.localBindings.separates) (hps : ps.Perm f.paramBindings.toList)
    (hls : ls.Perm f.localBindings.toList) :
    f.slotNamesBy ps ls = f.slotNames ∧
      f.slotNamesBy (ps.filter (·.2.index < f.params.length)) (ls.filter (·.2.index < f.locals.length)) =
        f.slotNames ∧
      f.SlotsNamed f.slotNames := by
  have ho := slotNamesBy_perm hp hl hps hls
  refine ⟨ho, ?_, slotsNamed hp hl⟩
  rw [← ho, slotNamesBy, slotNamesBy, slotNames_filter, slotNames_filter]

/-- One of the locals has the name of a parameter, and a binding leads past the locals. -/
def hiddenLocal : Func where
  name := none
  decl := .inline ⟨[.i32, .i64], [.f32]⟩
  locals := [.f64, .i32]
  paramBindings := ((∅ : BindingTable).insert "$a" ⟨.unknown, 0⟩).insert "$b" ⟨.unknown, 1⟩
  localBindings :=
    (((∅ : BindingTable).insert "$tmp" ⟨.unknown, 1⟩).insert "$far" ⟨.unknown, 10⟩).insert "$b" ⟨.unknown, 0⟩
  body := []

theorem slotNames_hiddenLocal : hiddenLocal.paramBindings.separates ∧ hiddenLocal.localBindings.separates ∧
    hiddenLocal.slotNamesBy hiddenLocal.paramBindings.toList.reverse hiddenLocal.localBindings.toList.reverse =
      ["$a", "$b", "$b", "$tmp"] ∧
    hiddenLocal.localIndex? (.ofName "$tmp") = some 3 ∧ hiddenLocal.localIndex? (.ofName "$b") = some 1 := by
  have hp : hiddenLocal.paramBindings.separates := by decide +kernel
  have hl : hiddenLocal.localBindings.separates := by decide +kernel
  have hs : hiddenLocal.slotNames = ["$a", "$b", "$b", "$tmp"] := by decide +kernel
  obtain ⟨ho, -, hn⟩ := slotNames_inverse hp hl (List.reverse_perm _) (List.reverse_perm _)
  refine ⟨hp, hl, ho.trans hs, hn.found .unknown 3 "$tmp" (by decide) (hs ▸ rfl) fun _ => ?_,
    hn.found .unknown 1 "$b" (by decide) (hs ▸ rfl) fun hi => ?_⟩
  · decide +kernel
  · exact absurd hi (by decide)

end Func

end WasmTree
