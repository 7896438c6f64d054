import WasmTree.Proofs.Folding.Nesting

/-!
Exceptions as a switch. A body that is folded without them has no node that is about exceptions, and is
folded the same way with them.
-/

namespace WasmTree

def Tag.needsExceptions : Tag → Bool
  | .tryCatch | .reference .throw | .reference .rethrow => true
  | _ => false

/-- No node, at whatever depth, is about exceptions. -/
def NoExceptions (l : List Expr) : Prop :=
  ∀ n ∈ (Expr.treeNodes l).toList, n.2.tag.needsExceptions = false

def FoldSetting.withExceptions (s : FoldSetting) : FoldSetting := { s with exceptions := true }

variable {s : FoldSetting} {loc : Location}

namespace PlainOperator

variable {op : PlainOperator}

lemma exceptions_of_tag? (h : op.Admissible s) {t : Tag} (ht : op.tag? = some t) (hn : t.needsExceptions = true) :
    s.exceptions = true := by
  cases op with
  | reference r index =>
    cases ht
    apply h
    cases r with
    | throw | rethrow => rfl
    | _ => cases hn
  | extension e => cases ht
  | _ =>
    cases ht
    cases hn

lemma Yields.withExceptions {i : Instr} (h : op.Yields s loc i) : op.Yields s.withExceptions loc i := by
  cases h with
  | bare b => exact .bare b
  | reference index hr => exact .reference index fun _ => rfl
  | callIndirect type => exact .callIndirect type
  | brTable targets fallback => exact .brTable targets fallback
  | memory f => exact .memory f
  | const l => exact .const l
  | numeric n => exact .numeric n
  | access m ha => exact .access m ha

end PlainOperator

namespace Operator

variable {op : Operator}

lemma exceptions_of_tag? (h : op.Admissible s) {t : Tag} (ht : op.tag? = some t) (hn : t.needsExceptions = true) :
    s.exceptions = true := by
  cases op with
  | tryBody type => exact h.1
  | plain op => exact PlainOperator.exceptions_of_tag? h ht hn
  | block | ifThen =>
    cases ht
    cases hn
  | elseBranch | catchTag | catchAll | finish => cases ht

lemma Yields.withExceptions {x : Flat} (h : op.Yields s loc x) : op.Yields s.withExceptions loc x := by
  cases h with
  | block form ht => exact .block form ht
  | ifThen ht => exact .ifThen ht
  | elseBranch => exact .elseBranch
  | tryBody hs ht => exact .tryBody rfl ht
  | catchTag hs ht => exact .catchTag rfl ht
  | catchAll hs => exact .catchAll rfl
  | finish => exact .finish
  | plain hi => exact .plain hi.withExceptions

end Operator

namespace Folding

variable {ops : List (Location × Operator)} {l : List Expr}

lemma admissible_of_fold (h : fold s ops = .ok l) : ∀ p ∈ ops, p.2.Admissible s := by
  obtain ⟨xs, hxs, -⟩ := fold_eq_ok.mp h
  exact exists_forall_resolves.mp ⟨xs, hxs⟩

theorem noExceptions_of_fold (h : fold s ops = .ok l) (hs : s.exceptions = false) : NoExceptions l := by
  intro n hn
  obtain ⟨p, hp, ht⟩ := tag_mem h hn
  by_contra he
  have he := Operator.exceptions_of_tag? (admissible_of_fold h p hp) ht (Bool.of_not_eq_false he)
  rw [hs] at he
  cases he

theorem fold_withExceptions (h : fold s ops = .ok l) : fold s.withExceptions ops = .ok l := by
  obtain ⟨xs, hxs, hr⟩ := fold_eq_ok.mp h
  refine fold_eq_ok.mpr ⟨xs, hxs.imp fun p x hx => ?_, hr⟩
  exact Operator.resolve_eq_ok.mpr (Operator.resolve_eq_ok.mp hx).withExceptions

end Folding

end WasmTree
