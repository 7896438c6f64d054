import WasmTree.ConstExpr
import WasmTree.Proofs.Folding.Transitions

/-!
Constant expressions as function bodies. Whatever is read as the one folds as the other, into the same
expressions at the same places.
-/

namespace WasmTree

def Located.placed (op : Located Operator) : Location × Operator := (.binary op.offset, op.value)

def ended (ops : List (Located Operator)) (offset : Nat) : List (Located Operator) := ops ++ [⟨offset, .finish⟩]

def Operator.IsConstant (op : Operator) : Prop :=
  (∃ l, op = .plain (.const l)) ∨ ∃ index, op = .plain (.reference .getGlobal index)

/-- The node that an operator of a constant expression becomes. All parts of it are where the operator is. -/
inductive Becomes : Located Operator → Expr → Prop
  | const (offset : Nat) (l : Literal) :
    Becomes ⟨offset, .plain (.const l)⟩ (.plain (.binary offset) (.const ⟨.binary offset, l⟩))
  | getGlobal (offset : Nat) (index : UInt32) :
    Becomes ⟨offset, .plain (.reference .getGlobal index)⟩
      (.plain (.binary offset) (.reference .getGlobal ⟨.binary offset, .index index⟩))

lemma exists_becomes_iff {op : Located Operator} : (∃ e, Becomes op e) ↔ op.value.IsConstant := by
  rcases op with ⟨offset, op⟩
  constructor
  · rintro ⟨_, h⟩
    cases h with
    | const _ l => exact .inl ⟨l, rfl⟩
    | getGlobal _ index => exact .inr ⟨index, rfl⟩
  · rintro (⟨l, rfl⟩ | ⟨index, rfl⟩)
    · exact ⟨_, .const offset l⟩
    · exact ⟨_, .getGlobal offset index⟩

lemma exists_forall_becomes_iff {ops : List (Located Operator)} :
    (∃ es, List.Forall₂ Becomes ops es) ↔ ∀ op ∈ ops, op.value.IsConstant := by
  induction ops with
  | nil => exact ⟨fun _ => List.forall_mem_nil _, fun _ => ⟨[], .nil⟩⟩
  | cons op ops ih =>
    rw [List.forall_mem_cons, ← ih, ← exists_becomes_iff]
    constructor
    · rintro ⟨_, h⟩
      cases h with
      | cons he hes => exact ⟨⟨_, he⟩, _, hes⟩
    · rintro ⟨⟨e, he⟩, es, hes⟩
      exact ⟨e :: es, .cons he hes⟩

lemma becomes_plain_iff {offset : Nat} {p : PlainOperator} {e : Expr} :
    Becomes ⟨offset, .plain p⟩ e ↔
      ∃ i, p.constant? (.binary offset) = some i ∧ e = .plain (.binary offset) i := by
  constructor
  · intro h
    cases h with
    | const => exact ⟨_, rfl, rfl⟩
    | getGlobal => exact ⟨_, rfl, rfl⟩
  · rintro ⟨i, hi, rfl⟩
    cases p with
    | const l =>
      cases hi
      exact .const offset l
    | reference r index =>
      cases r with
      | getGlobal =>
        cases hi
        exact .getGlobal offset index
      | _ => cases hi
    | _ => cases hi

lemma readConstant_eq_ok {done : Array Expr} {ops rest : List (Located Operator)} {offset : Nat} {l : List Expr}
    (h : ∀ op ∈ ops, op.value ≠ .finish) :
    readConstant done (ops ++ ⟨offset, .finish⟩ :: rest) = .ok l ↔
      ∃ es, List.Forall₂ Becomes ops es ∧ l = done.toList ++ es := by
  induction ops generalizing done with
  | nil =>
    rw [List.nil_append, readConstant, Except.ok.injEq]
    constructor
    · rintro rfl
      exact ⟨[], .nil, (List.append_nil _).symm⟩
    · rintro ⟨_, ⟨⟩, rfl⟩
      exact (List.append_nil _).symm
  | cons op ops ih =>
    obtain ⟨ho, hops⟩ := List.forall_mem_cons.mp h
    rcases op with ⟨place, op⟩
    -- Neither side holds for an operator that is not plain: only the end is read without a node.
    cases op with
    | finish => exact absurd rfl ho
    | plain p =>
      cases hp : p.constant? (.binary place) with
      | none =>
        have hb (e : Expr) : ¬ Becomes ⟨place, .plain p⟩ e := by simp [becomes_plain_iff, hp]
        simp only [List.cons_append, readConstant, hp, Reading.fail_ne_ok, false_iff]
        rintro ⟨_, ⟨⟩ | ⟨he, _⟩, -⟩
        exact hb _ he
      | some i =>
        simp only [List.cons_append, readConstant, hp, ih hops, Array.toList_push, List.append_assoc]
        constructor
        · rintro ⟨es, hes, rfl⟩
          exact ⟨_, .cons (becomes_plain_iff.mpr ⟨i, hp, rfl⟩) hes, rfl⟩
        · rintro ⟨_, ⟨⟩ | ⟨he, hes⟩, rfl⟩
          obtain ⟨j, hj, rfl⟩ := becomes_plain_iff.mp he
          obtain rfl := Option.some.inj (hp.symm.trans hj)
          exact ⟨_, hes, rfl⟩
    | _ =>
      simp only [List.cons_append, readConstant, Reading.fail_ne_ok, false_iff]
      rintro ⟨_, ⟨⟩ | ⟨⟨⟩, _⟩, -⟩

namespace Folding

variable {s : FoldSetting}

lemma step_of_becomes {op : Located Operator} {e : Expr} (h : Becomes op e) (top : Frame) (below : List Frame)
    (finished : Option (List Expr)) :
    step s ⟨top :: below, finished⟩ op.placed.2 op.placed.1 = .ok ⟨top.push e :: below, finished⟩ := by
  cases h <;> rfl

lemma run_of_becomes {ops : List (Located Operator)} {es : List Expr} (h : List.Forall₂ Becomes ops es)
    (top : Frame) (below : List Frame) (finished : Option (List Expr)) :
    run s (ops.map Located.placed) ⟨top :: below, finished⟩ = .ok ⟨es.foldl Frame.push top :: below, finished⟩ := by
  induction h generalizing top with
  | nil => rfl
  | cons he _ ih =>
    rw [List.map_cons, run, List.foldlM_cons, step_of_becomes he]
    exact ih (top.push _)

lemma foldl_push (es : List Expr) (kind : FrameKind) (loc : Location) (sig : List ValueType) (done : Array Expr) :
    es.foldl Frame.push ⟨kind, loc, sig, done⟩ = ⟨kind, loc, sig, done ++ es.toArray⟩ := by
  induction es generalizing done with
  | nil => simp
  | cons e es ih =>
    have hp : Frame.push ⟨kind, loc, sig, done⟩ e = ⟨kind, loc, sig, done.push e⟩ := rfl
    rw [List.foldl_cons, hp, ih]
    simp

lemma fold_of_becomes {ops : List (Located Operator)} {es : List Expr} (h : List.Forall₂ Becomes ops es)
    (offset : Nat) : fold s ((ended ops offset).map Located.placed) = .ok es := by
  have hr : run s (ops.map Located.placed) start = .ok ⟨[⟨.body, .unknown, [], #[] ++ es.toArray⟩], none⟩ := by
    rw [start, Frame.start, run_of_becomes h, foldl_push]
  have hf : run s [(.binary offset, .finish)] ⟨[⟨.body, .unknown, [], #[] ++ es.toArray⟩], none⟩ = .ok ⟨[], some es⟩ := by
    simp [run, step, Operator.resolve, add, close, Frame.node?]
  rw [fold, Reading.bind_eq_ok]
  refine ⟨⟨[], some es⟩, ?_, rfl⟩
  rw [ended, run, List.map_append, List.foldlM_append]
  exact Reading.bind_eq_ok.mpr ⟨_, hr, hf⟩

end Folding

/-- A sequence of operators up to its first end is a constant expression exactly when the others are
constants or refer to globals. Each becomes a node, and as a body of a function they all become the same. -/
theorem readConstant_fold {ops : List (Located Operator)} {offset : Nat} (h : ∀ op ∈ ops, op.value ≠ .finish) :
    ((∃ l, readConstant #[] (ended ops offset) = .ok l) ↔ ∀ op ∈ ops, op.value.IsConstant) ∧
      ∀ l, readConstant #[] (ended ops offset) = .ok l → List.Forall₂ Becomes ops l ∧
        ∀ s, Folding.fold s ((ended ops offset).map Located.placed) = .ok l := by
  have hr (l : List Expr) : readConstant #[] (ended ops offset) = .ok l ↔ List.Forall₂ Becomes ops l := by
    rw [ended, readConstant_eq_ok h]
    simp
  simp only [hr, exists_forall_becomes_iff, true_and]
  exact fun l hl => ⟨hl, fun s => Folding.fold_of_becomes hl offset⟩

/-- A signaling NaN, the least integer and a reference to a global. -/
def mixed : List (Located Operator) :=
  [⟨10, .plain (.const (.f32 0xFFA00001))⟩, ⟨15, .plain (.const (.i32 0x80000000))⟩,
    ⟨21, .plain (.reference .getGlobal 3)⟩]

theorem readConstant_mixed : ∃ l, (∀ op ∈ mixed, op.value ≠ .finish) ∧
    readConstant #[] (ended mixed 23) = .ok l ∧
    List.Forall₂ Becomes mixed l ∧ ∀ s, Folding.fold s ((ended mixed 23).map Located.placed) = .ok l := by
  have h : ∀ op ∈ mixed, op.value ≠ .finish := by decide
  obtain ⟨l, hl⟩ : ∃ l, readConstant #[] (ended mixed 23) = .ok l := ⟨_, rfl⟩
  obtain ⟨-, hs⟩ := readConstant_fold h
  exact ⟨l, h, hl, hs l hl⟩

end WasmTree
