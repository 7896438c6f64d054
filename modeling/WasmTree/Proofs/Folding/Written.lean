import WasmTree.Proofs.Folding.Admission
import WasmTree.Proofs.Folding.Consumed

/-! A folded body can be written out again as the operators it was read from. -/

namespace WasmTree

/-- What is left of an operator when its block type is spelled out as results, and the marks that
divide and close have no place of their own. -/
inductive Written where
  | opening (o : Opening) (loc : Location) (results : List ValueType)
  | otherwise
  | catchTag (loc : Location) (tag : UInt32)
  | catchAll (loc : Location)
  | close
  | plain (loc : Location) (op : PlainOperator)
  deriving DecidableEq

def Operator.written (types : Array Signature) (loc : Location) : Operator → Written
  | block form type => .opening (.block form) loc (type.resultTypes types)
  | ifThen type => .opening .ifThen loc (type.resultTypes types)
  | elseBranch => .otherwise
  | tryBody type => .opening .tryBody loc (type.resultTypes types)
  | catchTag tag => .catchTag loc tag
  | catchAll => .catchAll loc
  | finish => .close
  | plain op => .plain loc op

namespace Instr

def operator? : Instr → Option PlainOperator
  | bare b => some (.bare b)
  | reference r v => v.index?.map (.reference r)
  | callIndirect v => v.index?.map (.callIndirect · 0)
  | brTable targets fallback => do return .brTable (← targets.mapM Var.index?) (← fallback.index?)
  | memory f => some (.memory f 0)
  | const c => some (.const c.value)
  | numeric f (.numeric op) => if f = op.form then some (.numeric op) else none
  | access f (.memory op) align offset =>
    if f = op.form then some (.access op ⟨align.toNat.log2, offset.toUInt64, 0⟩) else none
  | _ => none

def Anchored (loc : Location) : Instr → Prop
  | reference _ v | callIndirect v => v.loc = loc
  | brTable targets fallback => (∀ v ∈ targets, v.loc = loc) ∧ fallback.loc = loc
  | const c => c.loc = loc
  | _ => True

end Instr

namespace Flat

def written? : Flat → Option Written
  | opening o loc sig => some (.opening o loc sig)
  | otherwise => some .otherwise
  | handler loc var =>
    if (⟨loc, var, []⟩ : Handler Expr).catchesAll then some (.catchAll loc) else var.index?.map (.catchTag loc)
  | close => some .close
  | plain loc i => i.operator?.map (.plain loc)

def Anchored : Flat → Prop
  | handler loc var => var.loc = loc
  | plain loc i => i.Anchored loc
  | _ => True

end Flat

/-- The operators of a body, unless it holds a name or an opcode out of place. -/
def Expr.written? (l : List Expr) : Option (List Written) := (flatBody l).mapM Flat.written?

namespace Folding

lemma index_withLoc (i : UInt32) (loc : Location) : ((Var.ofIndex i).withLoc loc).index? = some i := rfl

lemma mapM_index_withLoc (loc : Location) (targets : List UInt32) :
    (targets.map fun i => (Var.ofIndex i).withLoc loc).mapM Var.index? = some targets := by
  induction targets with
  | nil => rfl
  | cons i targets ih => simp [ih, index_withLoc]

lemma log2_align {k : Nat} (h : k < 32) : (UInt32.ofNat (Nat.pow 2 k)).toNat.log2 = k := by
  have hk : Nat.pow 2 k < UInt32.size := Nat.pow_lt_pow_right (by decide) h
  rw [UInt32.toNat_ofNat_of_lt' hk]
  exact Nat.log2_two_pow

lemma toUInt32_toUInt64 {a : UInt64} (h : a.toNat < 0x100000000) : a.toUInt32.toUInt64 = a := by
  apply UInt64.toNat_inj.mp
  simp [Nat.mod_eq_of_lt h]

lemma operator_of_yields {s : FoldSetting} {loc : Location} {op : PlainOperator} {i : Instr}
    (h : op.Yields s loc i) : i.operator? = some op ∧ i.Anchored loc := by
  cases h with
  | brTable targets fallback =>
    refine ⟨?_, ?_, rfl⟩
    · simp only [Instr.operator?, mapM_index_withLoc, index_withLoc]
      rfl
    · intro v hv
      obtain ⟨j, _, rfl⟩ := List.mem_map.mp hv
      rfl
  | numeric n => exact ⟨by simp [Instr.operator?], trivial⟩
  | @access m arg ha =>
    obtain ⟨hm, he, ho⟩ := ha
    refine ⟨?_, trivial⟩
    simp only [Instr.operator?, if_true, log2_align he, toUInt32_toUInt64 ho, ← hm]
  | reference | callIndirect | const => exact ⟨rfl, rfl⟩
  | bare | memory => exact ⟨rfl, trivial⟩

lemma written_of_yields {s : FoldSetting} {loc : Location} {op : Operator} {x : Flat} (h : op.Yields s loc x) :
    x.written? = some (op.written s.types loc) ∧ x.Anchored := by
  cases h with
  | @catchTag tag _ ht =>
    refine ⟨?_, rfl⟩
    have hc : (⟨loc, (Var.ofIndex tag).withLoc loc, []⟩ : Handler Expr).catchesAll = false := by
      simpa [Handler.catchesAll, Var.ofIndex, Var.withLoc] using ht
    simp [Flat.written?, hc, index_withLoc, Operator.written]
  | plain hi =>
    obtain ⟨ho, ha⟩ := operator_of_yields hi
    exact ⟨by simp [Flat.written?, ho, Operator.written], ha⟩
  | catchAll => exact ⟨rfl, rfl⟩
  | block | ifThen | elseBranch | tryBody | finish => exact ⟨rfl, trivial⟩

lemma written_of_forall {s : FoldSetting} {ops : List (Location × Operator)} {xs : List Flat}
    (h : List.Forall₂ (Resolves s) ops xs) :
    xs.mapM Flat.written? = some (ops.map fun p => p.2.written s.types p.1) ∧ ∀ x ∈ xs, x.Anchored := by
  induction h with
  | nil => exact ⟨rfl, by simp⟩
  | cons hx _ ih =>
    obtain ⟨hw, ha⟩ := written_of_yields (Operator.resolve_eq_ok.mp hx)
    refine ⟨by simp [hw, ih.1], ?_⟩
    intro y hy
    rcases List.mem_cons.mp hy with rfl | hy
    · exact ha
    · exact ih.2 y hy

/-- Folding loses nothing but the spelling of block types and the places of the marks that divide and
close: the tree is written out as the operators it was read from, and every reference and constant in
it stands where its operator did. -/
theorem written_of_fold {s : FoldSetting} {ops : List (Location × Operator)} {l : List Expr}
    (h : fold s ops = .ok l) :
    Expr.written? l = some (ops.map fun p => p.2.written s.types p.1) ∧
      ∀ x ∈ Expr.flatBody l, x.Anchored := by
  obtain ⟨xs, hxs, hr⟩ := fold_eq_ok.mp h
  obtain rfl := flatBody_of_addsAll hr
  exact written_of_forall hxs

def handlersBody : List (Location × Operator) :=
  [(.binary 1, .tryBody (.func 0)), (.binary 2, .ifThen .empty), (.binary 3, .elseBranch),
    (.binary 4, .finish), (.binary 5, .catchTag 3),
    (.binary 6, .plain (.access .i64Load ⟨3, 0xFFFFFFFF, 0⟩)), (.binary 7, .catchAll),
    (.binary 8, .plain (.brTable [1, 0] 2)), (.binary 9, .finish), (.binary 10, .finish)]

def handlersTree : List Expr :=
  [.tryCatch (.binary 1) ⟨none, [.i32, .f64]⟩
    [.ifElse (.binary 2) ⟨none, []⟩ [] (some [])]
    [⟨.binary 5, ⟨.binary 5, .index 3⟩,
        [.plain (.binary 6) (.access .load (.memory .i64Load) 8 0xFFFFFFFF)]⟩,
      ⟨.binary 7, ⟨.binary 7, .index invalidIndex⟩,
        [.plain (.binary 8) (.brTable [⟨.binary 8, .index 1⟩, ⟨.binary 8, .index 0⟩] ⟨.binary 8, .index 2⟩)]⟩]]

theorem written_handlersTree :
    fold ⟨#[⟨[], [.i32, .f64]⟩], true⟩ handlersBody = .ok handlersTree ∧
      Expr.written? handlersTree =
        some (handlersBody.map fun p => p.2.written #[⟨[], [.i32, .f64]⟩] p.1) ∧
      ∀ x ∈ Expr.flatBody handlersTree, x.Anchored :=
  have h : fold ⟨#[⟨[], [.i32, .f64]⟩], true⟩ handlersBody = .ok handlersTree := rfl
  ⟨h, written_of_fold h⟩

end Folding

end WasmTree
