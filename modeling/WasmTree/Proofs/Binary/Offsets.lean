import Mathlib.Tactic.Lemma
import WasmTree.Binary.Section

/-! The operators of a body stand at growing offsets of the binary. -/

namespace WasmTree.Binary

section Exhaust

variable {α : Type} {d : UInt8 → Decoder α}

lemma exhaust_offsets (d : UInt8 → Decoder α) (c : Cursor) (done : Array (Located α)) :
    ∃ xs, (exhaust d c done).items = done.toList ++ xs ∧ (∀ x ∈ xs, c.position ≤ x.offset) ∧
      xs.Pairwise fun x y => x.offset < y.offset := by
  fun_induction exhaust d c done with
  | case1 => exact ⟨[], by simp, by simp, .nil⟩
  | case2 => exact ⟨[], by simp, by simp, .nil⟩
  | case3 p b bs done a c h hd hl ih =>
    obtain ⟨xs, hi, hp, hx⟩ := ih
    have hc : p + 1 ≤ c.position := h.position
    refine ⟨⟨p, a⟩ :: xs, by simp [hi], ?_, .cons ?_ hx⟩
    · rintro x (_ | ⟨_, hm⟩)
      · exact Nat.le_refl p
      · have hle := hp x hm
        exact Nat.le_of_succ_le (Nat.le_trans hc hle)
    · intro x hm
      exact Nat.lt_of_lt_of_le hc (hp x hm)

end Exhaust

/-- The operators of a body are listed in the order in which they stand. -/
def Ordered (b : WireBody) : Prop := b.operators.items.Pairwise fun x y => x.offset < y.offset

lemma ordered_body (c : Cursor) : Ordered (body c) := by
  unfold body Ordered
  split
  · exact .nil
  · rename_i n c' hc h
    cases he : (items localEntry n c' #[]).2 with
    | none => simp [he]
    | some c'' =>
      obtain ⟨xs, hi, -, hx⟩ := exhaust_offsets Decoder.operator c'' #[]
      simpa [he, hi] using hx

lemma payload?_ne_body {id : UInt8} {c : Cursor} {b : WireBody} : payload? id c ≠ some (.body b) := by
  intro h
  unfold payload? at h
  split at h
  case h_1 =>
    obtain ⟨r, -, hp⟩ := Option.map_eq_some_iff.mp h
    split at hp <;> cases hp
  case h_14 => cases h
  all_goals
    obtain ⟨r, -, hp⟩ := Option.map_eq_some_iff.mp h
    cases hp

lemma ordered_sectionPayloads {id : UInt8} {size : Nat} {c : Cursor} {b : WireBody}
    (h : .body b ∈ (sectionPayloads id size c).items) : Ordered b := by
  simp only [sectionPayloads] at h
  split at h
  · simp only [bodies] at h
    split at h
    · cases h
    · obtain ⟨x, -, hx⟩ := List.mem_map.mp h
      cases hx
      exact ordered_body x.value
  · split at h
    · rename_i p hp
      obtain rfl := List.mem_singleton.mp h
      exact absurd (Option.ite_none_right_eq_some.mp hp).2 payload?_ne_body
    · cases h

lemma forall_mem_sections {P : Payload → Prop} (hP : ∀ id size c, ∀ p ∈ (sectionPayloads id size c).items, P p)
    (c : Cursor) (done : Array Payload) (hd : ∀ p ∈ done.toList, P p) : ∀ p ∈ (sections c done).items, P p := by
  have happend {done : Array Payload} (hd : ∀ p ∈ done.toList, P p) (id : UInt8) (size : Nat) (c : Cursor) :
      ∀ p ∈ (done ++ (sectionPayloads id size c).items.toArray).toList, P p := by
    intro p hp
    rw [Array.toList_append] at hp
    rcases List.mem_append.mp hp with hp | hp
    · exact hd p hp
    · exact hP id size c p hp
  fun_induction sections c done with
  | case1 => exact hd
  | case2 => exact hd
  | case3 p id bs done size c h hs hl b done' hc ih => exact ih (happend hd id size c)
  | case4 p id bs done size c h hs hl b done' hc => exact happend hd id size c

lemma ordered_of_mem_payloads {bytes : List UInt8} {b : WireBody} (h : .body b ∈ (payloads bytes).items) :
    Ordered b := by
  rw [payloads] at h
  split at h
  · cases h
  · rename_i version component c _ _
    refine forall_mem_sections (P := fun p => ∀ b, p = .body b → Ordered b) ?_ c _ ?_ (.body b) h b rfl
    · rintro id size c p hp b rfl
      exact ordered_sectionPayloads hp
    · rintro p hp b rfl
      simp at hp

end WasmTree.Binary
