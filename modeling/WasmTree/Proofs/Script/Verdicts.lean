import WasmTree.Proofs.Constant
import WasmTree.Script.Command

/-!
The verdict of a command on results, against what it asserts about them. Results that are as expected are
NaNs of a class exactly when the expected ones are, and canonical NaNs are arithmetic ones.
-/

namespace WasmTree

/-- Position by position the same type and the same bits. -/
def Coincide (expected actual : List Constant) : Prop :=
  expected.length = actual.length ∧ ∀ (i : Nat) (x y : Constant), expected[i]? = some x → actual[i]? = some y →
    x.value.type = y.value.type ∧ x.value.bits = y.value.bits

lemma coincide_iff {expected actual : List Constant} :
    Coincide expected actual ↔ expected.map Constant.value = actual.map Constant.value := by
  constructor
  · rintro ⟨hl, hs⟩
    refine List.ext_getElem (by simpa using hl) fun i hi hi' => ?_
    rw [List.length_map] at hi hi'
    obtain ⟨ht, hb⟩ := hs i _ _ (List.getElem?_eq_getElem hi) (List.getElem?_eq_getElem hi')
    rw [List.getElem_map, List.getElem_map]
    exact Literal.eq_of_type_of_bits ht hb
  · intro h
    refine ⟨by simpa using congrArg List.length h, fun i x y hx hy => ?_⟩
    have hv : (expected.map Constant.value)[i]? = (actual.map Constant.value)[i]? := by rw [h]
    rw [List.getElem?_map, List.getElem?_map, hx, hy] at hv
    have hv : x.value = y.value := Option.some.inj hv
    rw [hv]
    exact ⟨rfl, rfl⟩

namespace Nan

/-- A float of either sign whose exponent is all ones, and whose fraction has its highest bit; if the NaN is
canonical, that bit alone. -/
def Admits (n : Nan) (l : Literal) : Prop :=
  ∃ f, l.format? = some f ∧ f.exponent l.bits = f.topExponent ∧
    match n with
    | canonical => f.fraction l.bits = f.quiet
    | arithmetic => f.quiet ≤ f.fraction l.bits

lemma matches_iff {n : Nan} {l : Literal} : n.matches l = true ↔ n.Admits l := by
  cases n with
  | canonical => exact Literal.isCanonicalNan_iff
  | arithmetic => exact Literal.isArithmeticNan_iff

lemma Admits.arithmetic {l : Literal} (h : canonical.Admits l) : arithmetic.Admits l := by
  obtain ⟨f, hf, he, hq⟩ := h
  exact ⟨f, hf, he, Nat.le_of_eq hq.symm⟩

end Nan

def CommandKind.onResults : List CommandKind := [assertReturn, assertNan .canonical, assertNan .arithmetic]

namespace Command

/-- The results are as the command asserts. -/
inductive Accepts (actual : List Constant) : Command → Prop
  | coincide {expected} (a : Action) : Coincide expected actual → Accepts actual (.assertReturn a expected)
  | nan {n} (a : Action) : actual ≠ [] → (∀ x ∈ actual, n.Admits x.value) → Accepts actual (.assertNan n a)

variable {c : Command} {actual : List Constant} {a : Action} {n : Nan}

lemma accepts_assertReturn_iff {expected : List Constant} :
    (assertReturn a expected).Accepts actual ↔ Coincide expected actual := by
  constructor
  · rintro ⟨⟩
    assumption
  · exact .coincide a

lemma accepts_assertNan_iff :
    (assertNan n a).Accepts actual ↔ actual ≠ [] ∧ ∀ x ∈ actual, n.Admits x.value := by
  constructor
  · rintro ⟨⟩
    exact ⟨‹_›, ‹_›⟩
  · rintro ⟨hn, ha⟩
    exact .nan a hn ha

lemma checkReturn_eq_true_iff : c.checkReturn actual = some true ↔ c.Accepts actual := by
  cases c with
  | assertReturn a expected =>
    rw [checkReturn, Option.some.injEq, beq_iff_eq, accepts_assertReturn_iff, coincide_iff]
  | assertNan n a =>
    simp only [checkReturn, Option.some.injEq, Bool.and_eq_true, Bool.not_eq_true', List.isEmpty_eq_false_iff,
      List.all_eq_true, Nan.matches_iff, accepts_assertNan_iff]
  | _ =>
    constructor
    · rintro ⟨⟩
    · rintro ⟨⟩

lemma checkReturn_eq_none_iff : c.checkReturn actual = none ↔ c.kind ∉ CommandKind.onResults := by
  cases c with
  | assertNan n a => cases n <;> simp [checkReturn, kind, CommandKind.onResults]
  | _ => simp [checkReturn, kind, CommandKind.onResults]

lemma checkReturn_eq_false_iff :
    c.checkReturn actual = some false ↔ c.kind ∈ CommandKind.onResults ∧ ¬ c.Accepts actual := by
  have hk : c.kind ∈ CommandKind.onResults ↔ c.checkReturn actual ≠ none := by
    rw [Ne, checkReturn_eq_none_iff, Decidable.not_not]
  rw [← checkReturn_eq_true_iff, hk]
  cases c.checkReturn actual with
  | none => simp
  | some v => cases v <;> simp

lemma checkReturn_assertNan (n : Nan) (a : Action) (actual : List Constant) : (assertNan n a).checkReturn actual =
    some (!(actual.map Constant.value).isEmpty && (actual.map Constant.value).all n.matches) := by
  rw [checkReturn, List.isEmpty_map, List.all_map]
  rfl

/-- A command gives a verdict exactly when it asserts something about results, and approves of those that
are as it asserts. Canonical NaNs pass for arithmetic ones, and NaNs are found in results that are as
expected exactly when they are among what is expected. -/
theorem checkReturn_decides (c : Command) (actual : List Constant) :
    (c.checkReturn actual = some true ↔ c.Accepts actual) ∧
      (c.checkReturn actual = some false ↔ c.kind ∈ CommandKind.onResults ∧ ¬ c.Accepts actual) ∧
      (c.checkReturn actual = none ↔ c.kind ∉ CommandKind.onResults) ∧
      (∀ a b, (assertNan .canonical a).checkReturn actual = some true →
        (assertNan .arithmetic b).checkReturn actual = some true) ∧
      ∀ a expected, (assertReturn a expected).checkReturn actual = some true →
        ∀ n b, (assertNan n b).checkReturn actual = (assertNan n b).checkReturn expected := by
  refine ⟨checkReturn_eq_true_iff, checkReturn_eq_false_iff, checkReturn_eq_none_iff, fun a b h => ?_,
    fun a expected h n b => ?_⟩
  · obtain ⟨hn, hc⟩ := accepts_assertNan_iff.mp (checkReturn_eq_true_iff.mp h)
    exact checkReturn_eq_true_iff.mpr (.nan b hn fun x hx => (hc x hx).arithmetic)
  · have hv := coincide_iff.mp (accepts_assertReturn_iff.mp (checkReturn_eq_true_iff.mp h))
    rw [checkReturn_assertNan, checkReturn_assertNan, hv]

end Command

end WasmTree
