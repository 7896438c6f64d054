import Mathlib.Tactic.Lemma
import WasmTree.Binary.Section
import WasmTree.Proofs.Reading.Layout

/-!
Every item of a binary takes up a byte at least, so that a binary cannot declare and import more
functions than it has bytes.
-/

namespace WasmTree.Binary

namespace Decoder

variable {α β : Type}

/-- A value is not found without reading on. -/
def Progresses (d : Decoder α) : Prop := ∀ c r, d c = some r → r.1.2.rest.length < c.rest.length

lemma progresses_byte : Progresses byte := by
  rintro ⟨p, _ | ⟨b, bs⟩⟩ r h
  · cases h
  · cases h
    simp

namespace Progresses

variable {d : Decoder α}

lemma bind (h : Progresses d) (f : α → Decoder β) : Progresses (d >>= f) := by
  intro c r hr
  obtain ⟨a, ha, b, -, hb⟩ := bind_eq_some hr
  rw [← hb]
  exact Nat.lt_of_le_of_lt b.2.rest_length (h c a ha)

lemma map (h : Progresses d) (g : α → β) : Progresses (g <$> d) := h.bind (pure ∘ g)

end Progresses

lemma progresses_unsigned (bits : Nat) : Progresses (unsigned bits) := by
  rw [unsigned]
  exact progresses_byte.bind _

lemma progresses_u32 : Progresses u32 := (progresses_unsigned 32).map _

lemma progresses_name : Progresses name :=
  (((progresses_unsigned 32).bind _).bind _).bind _

lemma progresses_importEntry : Progresses importEntry := progresses_name.bind _

end Decoder

open Decoder

section Items

variable {α : Type} {d : Decoder α}

lemma length_items_le (hd : Progresses d) (n : Nat) (c : Cursor) (done : Array (Located α)) :
    (items d n c done).1.length ≤ done.size + c.rest.length := by
  induction n generalizing c done with
  | zero => simp [items]
  | succ n ih =>
    rw [items]
    split
    · simp
    · rename_i a c' hc h
      have hl : c'.rest.length < c.rest.length := hd c _ h
      refine Nat.le_trans (ih c' _) ?_
      rw [Array.size_push]
      omega

lemma length_counted?_le (hd : Progresses d) {c : Cursor} {b : Batch (Located α)} (h : counted? d c = some b) :
    b.items.length ≤ c.rest.length := by
  obtain ⟨⟨⟨n, c'⟩, hc⟩, -, rfl⟩ := Option.map_eq_some_iff.mp h
  refine Nat.le_trans (length_items_le hd n c' #[]) ?_
  have hl := hc.rest_length
  simpa using hl

end Items

def functionCount (ps : List Payload) : Nat :=
  (ps.flatMap Payload.entries).countP fun e => e.isFunction || e.importsFunction

lemma functionCount_append (ps qs : List Payload) : functionCount (ps ++ qs) = functionCount ps + functionCount qs := by
  simp [functionCount]

def listed : Payload → Nat
  | .imports b => b.items.length
  | .functions b => b.items.length
  | _ => 0

lemma functionCount_le_listed (p : Payload) : functionCount [p] ≤ listed p := by
  cases p with
  | imports b => simpa [functionCount, Payload.entries, listed] using List.countP_le_length
  | functions b => simpa [functionCount, Payload.entries, listed] using List.countP_le_length
  | _ => simp [functionCount, Payload.entries, listed, Entry.isFunction, Entry.importsFunction]

lemma listed_payload?_le {id : UInt8} {c : Cursor} {p : Payload} (h : payload? id c = some p) :
    listed p ≤ c.rest.length := by
  unfold payload? at h
  split at h
  case h_1 =>
    obtain ⟨r, -, rfl⟩ := Option.map_eq_some_iff.mp h
    split <;> exact Nat.zero_le _
  case h_3 =>
    obtain ⟨b, hb, rfl⟩ := Option.map_eq_some_iff.mp h
    exact length_counted?_le progresses_importEntry hb
  case h_4 =>
    obtain ⟨b, hb, rfl⟩ := Option.map_eq_some_iff.mp h
    exact length_counted?_le progresses_u32 hb
  case h_14 =>
    cases h
    exact Nat.zero_le _
  all_goals
    obtain ⟨b, -, rfl⟩ := Option.map_eq_some_iff.mp h
    exact Nat.zero_le _

lemma functionCount_bodies (c : Cursor) : functionCount (bodies c).items = 0 := by
  rw [bodies]
  cases counted? block c with
  | none => rfl
  | some b =>
    refine List.countP_eq_zero.mpr fun e he => ?_
    simp only [List.flatMap_map, Payload.entries, List.mem_flatMap, List.mem_singleton] at he
    obtain ⟨x, -, rfl⟩ := he
    exact Bool.false_ne_true

lemma functionCount_sectionPayloads_le (id : UInt8) (size : Nat) (c : Cursor) :
    functionCount (sectionPayloads id size c).items ≤ min size c.rest.length := by
  simp only [sectionPayloads]
  split
  · rw [functionCount_bodies]
    exact Nat.zero_le _
  · split
    · rename_i p h
      have hp : payload? id ⟨c.position, c.rest.take size⟩ = some p := (Option.ite_none_right_eq_some.mp h).2
      have hl := Nat.le_trans (functionCount_le_listed p) (listed_payload?_le hp)
      rwa [List.length_take] at hl
    · exact Nat.zero_le _

lemma functionCount_sections_le (c : Cursor) (done : Array Payload) :
    functionCount (sections c done).items ≤ functionCount done.toList + c.rest.length := by
  have happend (done : Array Payload) (ps : List Payload) :
      functionCount (done ++ ps.toArray).toList = functionCount done.toList + functionCount ps := by
    rw [Array.toList_append, functionCount_append]
  fun_induction sections c done with
  | case1 => exact Nat.le_add_right _ _
  | case2 => exact Nat.le_add_right _ _
  | case3 p id bs done size c h hs hl b done' hc ih =>
    have hb : functionCount b.items ≤ min size c.rest.length := functionCount_sectionPayloads_le id size c
    have ht : (c.advance size).rest.length = c.rest.length - size := List.length_drop
    rw [happend, ht] at ih
    rw [List.length_cons]
    omega
  | case4 p id bs done size c h hs hl b done' hc =>
    have hb : functionCount b.items ≤ min size c.rest.length := functionCount_sectionPayloads_le id size c
    rw [happend, List.length_cons]
    omega

lemma functionCount_payloads_le (bytes : List UInt8) : functionCount (payloads bytes).items ≤ bytes.length := by
  rw [payloads]
  split
  · exact Nat.zero_le _
  · rename_i version component c hc h
    have hs := functionCount_sections_le c #[.header version component]
    have hl : c.rest.length ≤ bytes.length := hc.rest_length
    have hz : functionCount [.header version component] = 0 := rfl
    rw [hz, Nat.zero_add] at hs
    exact Nat.le_trans hs hl

lemma size_funcs_le {o : ReadOptions} {bytes : List UInt8} {m : Module} (h : readPayloads o (payloads bytes) = .ok m) :
    m.size .funcs ≤ bytes.length := by
  obtain ⟨hm, hl⟩ := layout_of_readPayloads h
  rw [hl.size_funcs hm]
  exact functionCount_payloads_le bytes

end WasmTree.Binary
