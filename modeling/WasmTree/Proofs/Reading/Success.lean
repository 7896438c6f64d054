import Mathlib.Tactic.Lemma
import WasmTree.ReadError

/-! When a reading in several steps succeeds: each step does, and the steps give the result. -/

namespace WasmTree.Reading

variable {α β : Type}

@[simp] lemma bind_eq_ok {r : Reading α} {f : α → Reading β} {b : β} :
    (r >>= f) = .ok b ↔ ∃ a, r = .ok a ∧ f a = .ok b := by
  cases r <;> simp [bind, Except.bind]

@[simp] lemma pure_eq_ok {a b : α} : (pure a : Reading α) = .ok b ↔ a = b := by
  simp [pure, Except.pure]

@[simp] lemma map_eq_ok {r : Reading α} {f : α → β} {b : β} :
    (f <$> r) = .ok b ↔ ∃ a, r = .ok a ∧ f a = b := by
  cases r <;> simp [Functor.map, Except.map]

@[simp] lemma fail_ne_ok {c : Cause} {a : α} : (fail c : Reading α) ≠ .ok a := by
  simp [fail]

lemma within_ok {during : Activity} {a : α} : within during (.ok a) = .ok a := rfl

lemma within_error {during : Activity} {e : ReadError} :
    (within during (.error e) : Reading α) = .error (e.within during) := rfl

@[simp] lemma within_eq_ok {during : Activity} {r : Reading α} {a : α} :
    r.within during = .ok a ↔ r = .ok a := by
  cases r with
  | error e => simp [within_error]
  | ok b => rw [within_ok]

lemma within_eq_error {during : Activity} {r : Reading α} {e : ReadError} :
    r.within during = .error e ↔ ∃ e', r = .error e' ∧ e = e'.within during := by
  cases r with
  | error e' => simp [within_error, eq_comm]
  | ok b => simp [within_ok]

lemma toOption_eq_some {r : Reading α} {a : α} : r.toOption = some a ↔ r = .ok a := by
  cases r <;> simp [Except.toOption]

lemma foldlM_eq_ok {σ : Type} {f : σ → α → Reading σ} {p : α → Prop} {g : σ → α → σ}
    (hf : ∀ s a s', f s a = .ok s' ↔ p a ∧ g s a = s') {l : List α} {s s' : σ} :
    l.foldlM f s = .ok s' ↔ (∀ a ∈ l, p a) ∧ l.foldl g s = s' := by
  induction l generalizing s with
  | nil => simp
  | cons a l ih =>
    simp only [List.foldlM_cons, bind_eq_ok, hf, ih, List.forall_mem_cons, List.foldl_cons]
    constructor
    · rintro ⟨_, ⟨ha, rfl⟩, hl, hs⟩
      exact ⟨⟨ha, hl⟩, hs⟩
    · rintro ⟨⟨ha, hl⟩, hs⟩
      exact ⟨_, ⟨ha, rfl⟩, hl, hs⟩

end WasmTree.Reading
