import Mathlib.Tactic.Lemma
import WasmTree.Constant

/-!
Literals by their type and bits, and the classes of NaNs by the fields of a float: the exponent is all
ones, and the fraction is its highest bit, alone or with any bits below it.
-/

namespace WasmTree

lemma and_ones (x k j : Nat) :
    x &&& (Nat.pow 2 k - 1) * Nat.pow 2 j = x / Nat.pow 2 j % Nat.pow 2 k * Nat.pow 2 j := by
  apply Nat.eq_of_testBit_eq
  intro i
  rw [Nat.testBit_and]
  simp only [Nat.pow_eq, Nat.testBit_mul_two_pow, Nat.testBit_two_pow_sub_one, Nat.testBit_mod_two_pow,
    Nat.testBit_div_two_pow]
  by_cases hi : j ≤ i
  · simp only [hi, Nat.sub_add_cancel hi]
    rw [decide_true, Bool.true_and, Bool.true_and, Bool.and_comm]
  · simp [hi]

lemma mod_two_mul_eq_iff {p t : Nat} (hp : 0 < p) : t % (2 * p) = 2 * p - 1 ↔ t / 2 % p = p - 1 ∧ t % 2 = 1 := by
  have hm : t % (2 * p) = t % 2 + 2 * (t / 2 % p) := Nat.mod_mul
  omega

lemma mod_mul_eq_iff {q m k n : Nat} (hq : 0 < q) : n % (q * m) = k * q ↔ n % q = 0 ∧ n / q % m = k := by
  have hr : n % q < q := Nat.mod_lt n hq
  rw [Nat.mod_mul]
  constructor
  · intro h
    have h0 : n % q = 0 := by
      have hd := congrArg (· % q) h
      simpa [Nat.mod_eq_of_lt hr] using hd
    rw [h0, Nat.zero_add, Nat.mul_comm] at h
    exact ⟨h0, Nat.eq_of_mul_eq_mul_right hq h⟩
  · rintro ⟨h0, rfl⟩
    rw [h0, Nat.zero_add, Nat.mul_comm]

lemma le_mod_mul_two_iff {q n : Nat} (hq : 0 < q) : q ≤ n % (q * 2) ↔ n / q % 2 = 1 := by
  have hr : n % q < q := Nat.mod_lt n hq
  rw [Nat.mod_mul]
  rcases Nat.mod_two_eq_zero_or_one (n / q) with h | h
  · rw [h]
    omega
  · rw [h]
    omega

namespace FloatFormat

/-- The highest bit of a fraction. -/
def quiet (f : FloatFormat) : Nat := Nat.pow 2 (f.fractionBits - 1)

/-- The exponent of infinities and NaNs. -/
def topExponent (f : FloatFormat) : Nat := Nat.pow 2 f.exponentBits - 1

/-- The exponent and the highest bit of the fraction, all of them set. -/
def quietMask (f : FloatFormat) : Nat := (Nat.pow 2 (f.exponentBits + 1) - 1) * f.quiet

/-- Everything but the sign. -/
def magnitudeMask (f : FloatFormat) : Nat := Nat.pow 2 (f.exponentBits + f.fractionBits) - 1

variable {f : FloatFormat} {n : Nat}

lemma quiet_pos : 0 < f.quiet := Nat.pow_pos (by decide)

lemma pow_exponentBits_pos : 0 < Nat.pow 2 f.exponentBits := Nat.pow_pos (by decide)

lemma pow_fractionBits (hf : 0 < f.fractionBits) : Nat.pow 2 f.fractionBits = f.quiet * 2 := by
  obtain ⟨k, hk⟩ := Nat.exists_eq_succ_of_ne_zero (Nat.ne_of_gt hf)
  rw [quiet, hk]
  rfl

lemma pow_exponentBits_succ : Nat.pow 2 (f.exponentBits + 1) = 2 * Nat.pow 2 f.exponentBits := Nat.mul_comm _ _

lemma exponent_and_quiet_iff (hf : 0 < f.fractionBits) :
    n / f.quiet % Nat.pow 2 (f.exponentBits + 1) = Nat.pow 2 (f.exponentBits + 1) - 1 ↔
      f.exponent n = f.topExponent ∧ n / f.quiet % 2 = 1 := by
  rw [pow_exponentBits_succ, mod_two_mul_eq_iff pow_exponentBits_pos, Nat.div_div_eq_div_mul,
    ← pow_fractionBits hf]
  rfl

lemma quiet_le_fraction_iff (hf : 0 < f.fractionBits) : f.quiet ≤ f.fraction n ↔ n / f.quiet % 2 = 1 := by
  rw [fraction, pow_fractionBits hf, le_mod_mul_two_iff quiet_pos]

lemma fraction_eq_quiet_iff (hf : 0 < f.fractionBits) :
    f.fraction n = f.quiet ↔ n % f.quiet = 0 ∧ n / f.quiet % 2 = 1 := by
  rw [fraction, pow_fractionBits hf, ← mod_mul_eq_iff quiet_pos, Nat.one_mul]

lemma and_quietMask_iff (hf : 0 < f.fractionBits) :
    n &&& f.quietMask = f.quietMask ↔ f.exponent n = f.topExponent ∧ f.quiet ≤ f.fraction n := by
  rw [quiet_le_fraction_iff hf, ← exponent_and_quiet_iff hf, quietMask, quiet, and_ones, ← quiet]
  exact ⟨Nat.eq_of_mul_eq_mul_right quiet_pos, congrArg (· * f.quiet)⟩

lemma and_magnitudeMask_iff (hf : 0 < f.fractionBits) :
    n &&& f.magnitudeMask = f.quietMask ↔ f.exponent n = f.topExponent ∧ f.fraction n = f.quiet := by
  have hp : Nat.pow 2 (f.exponentBits + f.fractionBits) = f.quiet * Nat.pow 2 (f.exponentBits + 1) := by
    rw [pow_exponentBits_succ, ← Nat.mul_assoc, ← pow_fractionBits hf, Nat.mul_comm]
    exact Nat.pow_add 2 _ _
  rw [magnitudeMask, Nat.pow_eq, Nat.and_two_pow_sub_one_eq_mod, ← Nat.pow_eq, hp, quietMask, mod_mul_eq_iff quiet_pos,
    exponent_and_quiet_iff hf, fraction_eq_quiet_iff hf]
  exact and_left_comm

end FloatFormat

namespace Literal

lemma eq_of_type_of_bits {l l' : Literal} (ht : l.type = l'.type) (hb : l.bits = l'.bits) : l = l' := by
  cases l with
  | i32 b =>
    cases l' with
    | i32 b' => exact congrArg i32 (UInt32.toNat_inj.mp hb)
    | _ => cases ht
  | i64 b =>
    cases l' with
    | i64 b' => exact congrArg i64 (UInt64.toNat_inj.mp hb)
    | _ => cases ht
  | f32 b =>
    cases l' with
    | f32 b' => exact congrArg f32 (UInt32.toNat_inj.mp hb)
    | _ => cases ht
  | f64 b =>
    cases l' with
    | f64 b' => exact congrArg f64 (UInt64.toNat_inj.mp hb)
    | _ => cases ht

def format? : Literal → Option FloatFormat
  | f32 _ => some .single
  | f64 _ => some .double
  | i32 _ | i64 _ => none

lemma isCanonicalNan_iff {l : Literal} : l.isCanonicalNan = true ↔
    ∃ f, l.format? = some f ∧ f.exponent l.bits = f.topExponent ∧ f.fraction l.bits = f.quiet := by
  cases l with
  | i32 b | i64 b => simp [isCanonicalNan, format?]
  | f32 b =>
    simp only [isCanonicalNan, beq_iff_eq, ← UInt32.toNat_inj, UInt32.toNat_and, format?, Option.some.injEq,
      exists_eq_left']
    exact FloatFormat.and_magnitudeMask_iff (f := .single) (by decide)
  | f64 b =>
    simp only [isCanonicalNan, beq_iff_eq, ← UInt64.toNat_inj, UInt64.toNat_and, format?, Option.some.injEq,
      exists_eq_left']
    exact FloatFormat.and_magnitudeMask_iff (f := .double) (by decide)

lemma isArithmeticNan_iff {l : Literal} : l.isArithmeticNan = true ↔
    ∃ f, l.format? = some f ∧ f.exponent l.bits = f.topExponent ∧ f.quiet ≤ f.fraction l.bits := by
  cases l with
  | i32 b | i64 b => simp [isArithmeticNan, format?]
  | f32 b =>
    simp only [isArithmeticNan, beq_iff_eq, ← UInt32.toNat_inj, UInt32.toNat_and, format?, Option.some.injEq,
      exists_eq_left']
    exact FloatFormat.and_quietMask_iff (f := .single) (by decide)
  | f64 b =>
    simp only [isArithmeticNan, beq_iff_eq, ← UInt64.toNat_inj, UInt64.toNat_and, format?, Option.some.injEq,
      exists_eq_left']
    exact FloatFormat.and_quietMask_iff (f := .double) (by decide)

end Literal

end WasmTree
