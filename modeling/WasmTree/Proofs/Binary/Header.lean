import Mathlib.Tactic.Lemma
import WasmTree.Binary.Section

/-! A binary that has a header begins with the magic bytes. -/

namespace WasmTree.Binary

namespace Decoder

lemma repeatFrom_byte {origin : Cursor} (n : Nat) {c : Cursor} (hc : origin.Reaches c) (done : Array UInt8) {r}
    (h : repeatFrom byte origin n c hc done = some r) : r.1.1.toList = done.toList ++ c.rest.take n := by
  induction n generalizing c done with
  | zero =>
    cases h
    simp
  | succ n ih =>
    rcases c with ⟨p, _ | ⟨b, bs⟩⟩
    · cases h
    · have hr := ih (hc.trans (Cursor.reaches_tail p b bs)) (done.push b) h
      simpa using hr

lemma replicate_byte {n : Nat} {c : Cursor} {r} (h : replicate n byte c = some r) : r.1.1 = c.rest.take n := by
  obtain ⟨a, ha, rfl⟩ := Option.map_eq_some_iff.mp h
  simpa using repeatFrom_byte n (.refl c) #[] ha

end Decoder

open Decoder

lemma magic_prefix_of_header {bytes : List UInt8} {r} (h : header ⟨0, bytes⟩ = some r) : magic <+: bytes := by
  obtain ⟨start, hs, r', hr, -⟩ := bind_eq_some h
  obtain ⟨u, hu, -⟩ := bind_eq_some hr
  have hm : start.1.1 = magic := of_decide_eq_true (require_eq_some hu)
  exact hm ▸ replicate_byte hs ▸ List.take_prefix 4 bytes

/-- Without the magic bytes nothing is handed over but the news of a fault. -/
lemma complete_payloads_of_not_prefix {bytes : List UInt8} (h : ¬ magic <+: bytes) :
    (payloads bytes).complete = false := by
  cases hh : header ⟨0, bytes⟩ with
  | none => rw [payloads, hh]
  | some r => exact absurd (magic_prefix_of_header hh) h

end WasmTree.Binary
