import WasmTree.Proofs.Folding.Transitions

/-! The condition each operator has to meet on its own, whatever surrounds it, and what it becomes
then. -/

namespace WasmTree

namespace BlockType

def Admissible (types : Array Signature) : BlockType → Prop
  | empty => True
  | value t => ∃ v, t = .number v
  | func index => ∃ sig, types[index.toNat]? = some sig ∧ sig.params = []

/-- What a block type leaves on the stack, however it is spelled. -/
def resultTypes (types : Array Signature) : BlockType → List ValueType
  | empty => []
  | value t => t.number?.toList
  | func index => types[index.toNat]?.elim [] Signature.results

lemma results_eq_ok {s : FoldSetting} {t : BlockType} {r : List ValueType} :
    t.results s = .ok r ↔ t.Admissible s.types ∧ r = t.resultTypes s.types := by
  cases t with
  | empty => simp [results, Admissible, resultTypes, eq_comm]
  | value t =>
    cases t with
    | number v =>
      simp [results, Admissible, resultTypes, WireType.read, WireType.number?, eq_comm]
    | v128 => simp [results, Admissible, WireType.read, WireType.number?]
    | ref r => simp [results, Admissible, WireType.read, WireType.number?]
  | func index =>
    cases hs : s.types[index.toNat]? with
    | none => simp [results, Admissible, hs]
    | some sig =>
      by_cases hp : sig.params = []
      · simp [results, Admissible, resultTypes, hs, hp, eq_comm]
      · simp [results, Admissible, hs, hp]

end BlockType

namespace MemArg

def Admissible (a : MemArg) : Prop := a.memory = 0 ∧ a.exponent < 32 ∧ a.offset.toNat < 0x100000000

lemma resolve_eq_ok {a : MemArg} {p : UInt32 × UInt32} :
    a.resolve = .ok p ↔ a.Admissible ∧ p = (.ofNat (Nat.pow 2 a.exponent), a.offset.toUInt32) := by
  unfold resolve Admissible
  by_cases hm : a.memory = 0
  · by_cases he : 32 ≤ a.exponent
    · simp [hm, he, Nat.not_lt.mpr he]
    · by_cases ho : 0x100000000 ≤ a.offset.toNat
      · simp [hm, he, ho, Nat.not_lt.mpr ho]
      · simp [hm, he, ho, Nat.lt_of_not_le he, Nat.lt_of_not_le ho, eq_comm]
  · simp [hm]

end MemArg

lemma Operator.guard_eq_ok {s : FoldSetting} {op : Operator} {u : Unit} :
    op.guard s = .ok u ↔ s.exceptions = true := by
  cases he : s.exceptions <;> simp [guard, he]

namespace PlainOperator

def Admissible (s : FoldSetting) : PlainOperator → Prop
  | reference r _ => r.needsExceptions = true → s.exceptions = true
  | callIndirect _ table => table = 0
  | memory _ index => index = 0
  | access _ arg => arg.Admissible
  | extension _ => False
  | bare _ | brTable .. | const _ | numeric _ => True

inductive Yields (s : FoldSetting) (loc : Location) : PlainOperator → Instr → Prop
  | bare (b : Bare) : Yields s loc (.bare b) (.bare b)
  | reference {r : Role} (index : UInt32) : (r.needsExceptions = true → s.exceptions = true) →
    Yields s loc (.reference r index) (.reference r ((Var.ofIndex index).withLoc loc))
  | callIndirect (type : UInt32) :
    Yields s loc (.callIndirect type 0) (.callIndirect ((Var.ofIndex type).withLoc loc))
  | brTable (targets : List UInt32) (fallback : UInt32) :
    Yields s loc (.brTable targets fallback)
      (.brTable (targets.map fun i => (Var.ofIndex i).withLoc loc) ((Var.ofIndex fallback).withLoc loc))
  | memory (f : MemoryForm) : Yields s loc (.memory f 0) (.memory f)
  | const (l : Literal) : Yields s loc (.const l) (.const ⟨loc, l⟩)
  | numeric (n : NumericOp) : Yields s loc (.numeric n) (.numeric n.form (.numeric n))
  | access (m : MemoryOp) {arg : MemArg} : arg.Admissible →
    Yields s loc (.access m arg)
      (.access m.form (.memory m) (.ofNat (Nat.pow 2 arg.exponent)) arg.offset.toUInt32)

variable {s : FoldSetting} {loc : Location} {op : PlainOperator} {i : Instr}

lemma yields_of_instr (h : op.instr s loc = .ok i) : op.Yields s loc i := by
  cases op with
  | bare b =>
    cases h
    exact .bare b
  | reference r index =>
    by_cases hr : r.needsExceptions = true
    · simp only [instr, hr, if_true, Reading.bind_eq_ok, Reading.pure_eq_ok, Operator.guard_eq_ok] at h
      obtain ⟨_, hs, rfl⟩ := h
      exact .reference index fun _ => hs
    · simp only [instr, hr, Bool.false_eq_true, if_false, Reading.pure_eq_ok] at h
      obtain ⟨_, _, rfl⟩ := h
      exact .reference index fun hr' => absurd hr' hr
  | callIndirect type table =>
    by_cases ht : table = 0
    · simp only [instr, ht, ne_eq, not_true_eq_false, if_false, Except.ok.injEq] at h
      subst h ht
      exact .callIndirect type
    · simp [instr, ht] at h
  | brTable targets fallback =>
    cases h
    exact .brTable targets fallback
  | memory f index =>
    by_cases hi : index = 0
    · simp only [instr, hi, ne_eq, not_true_eq_false, if_false, Except.ok.injEq] at h
      subst h hi
      exact .memory f
    · simp [instr, hi] at h
  | const l =>
    cases h
    exact .const l
  | numeric n =>
    cases h
    exact .numeric n
  | access m arg =>
    simp only [instr, Reading.bind_eq_ok, Reading.pure_eq_ok, MemArg.resolve_eq_ok] at h
    obtain ⟨_, ⟨ha, rfl⟩, rfl⟩ := h
    exact .access m ha
  | extension e => simp [instr] at h

lemma instr_of_yields (h : op.Yields s loc i) : op.instr s loc = .ok i := by
  cases h with
  | @reference r index hr =>
    by_cases hn : r.needsExceptions = true
    · have hg : (Operator.plain (.reference r index)).guard s = .ok () := Operator.guard_eq_ok.mpr (hr hn)
      simp only [instr, hn, if_true, hg]
      rfl
    · simp only [instr, hn, Bool.false_eq_true, if_false]
      rfl
  | access m ha =>
    simp only [instr, MemArg.resolve_eq_ok.mpr ⟨ha, rfl⟩]
    rfl
  | _ => rfl

lemma instr_eq_ok : op.instr s loc = .ok i ↔ op.Yields s loc i := ⟨yields_of_instr, instr_of_yields⟩

lemma Yields.admissible (h : op.Yields s loc i) : op.Admissible s := by
  cases h with
  | reference index hr => exact hr
  | access m ha => exact ha
  | callIndirect | memory => rfl
  | bare | brTable | const | numeric => trivial

lemma exists_yields (loc : Location) (h : op.Admissible s) : ∃ i, op.Yields s loc i := by
  cases op with
  | bare b => exact ⟨_, .bare b⟩
  | reference r index => exact ⟨_, .reference index h⟩
  | callIndirect type table =>
    obtain rfl : table = 0 := h
    exact ⟨_, .callIndirect type⟩
  | brTable targets fallback => exact ⟨_, .brTable targets fallback⟩
  | memory f index =>
    obtain rfl : index = 0 := h
    exact ⟨_, .memory f⟩
  | const l => exact ⟨_, .const l⟩
  | numeric n => exact ⟨_, .numeric n⟩
  | access m arg => exact ⟨_, .access m h⟩
  | extension e => exact h.elim

end PlainOperator

namespace Operator

def Admissible (s : FoldSetting) : Operator → Prop
  | block _ type | ifThen type => type.Admissible s.types
  | tryBody type => s.exceptions = true ∧ type.Admissible s.types
  | catchTag tag => s.exceptions = true ∧ tag ≠ invalidIndex
  | catchAll => s.exceptions = true
  | elseBranch | finish => True
  | plain op => op.Admissible s

inductive Yields (s : FoldSetting) (loc : Location) : Operator → Flat → Prop
  | block (form : BlockForm) {type : BlockType} : type.Admissible s.types →
    Yields s loc (.block form type) (.opening (.block form) loc (type.resultTypes s.types))
  | ifThen {type : BlockType} : type.Admissible s.types →
    Yields s loc (.ifThen type) (.opening .ifThen loc (type.resultTypes s.types))
  | elseBranch : Yields s loc .elseBranch .otherwise
  | tryBody {type : BlockType} : s.exceptions = true → type.Admissible s.types →
    Yields s loc (.tryBody type) (.opening .tryBody loc (type.resultTypes s.types))
  | catchTag {tag : UInt32} : s.exceptions = true → tag ≠ invalidIndex →
    Yields s loc (.catchTag tag) (.handler loc ((Var.ofIndex tag).withLoc loc))
  | catchAll : s.exceptions = true →
    Yields s loc .catchAll (.handler loc ((Var.ofIndex invalidIndex).withLoc loc))
  | finish : Yields s loc .finish .close
  | plain {op : PlainOperator} {i : Instr} : op.Yields s loc i → Yields s loc (.plain op) (.plain loc i)

variable {s : FoldSetting} {loc : Location} {op : Operator} {x : Flat}

lemma yields_of_resolve (h : op.resolve s loc = .ok x) : op.Yields s loc x := by
  cases op with
  | block form type =>
    simp only [resolve, Reading.bind_eq_ok, Reading.pure_eq_ok, BlockType.results_eq_ok] at h
    obtain ⟨_, ⟨ht, rfl⟩, rfl⟩ := h
    exact .block form ht
  | ifThen type =>
    simp only [resolve, Reading.bind_eq_ok, Reading.pure_eq_ok, BlockType.results_eq_ok] at h
    obtain ⟨_, ⟨ht, rfl⟩, rfl⟩ := h
    exact .ifThen ht
  | elseBranch =>
    cases h
    exact .elseBranch
  | tryBody type =>
    simp only [resolve, Reading.bind_eq_ok, Reading.pure_eq_ok, guard_eq_ok, BlockType.results_eq_ok] at h
    obtain ⟨_, hs, _, ⟨ht, rfl⟩, rfl⟩ := h
    exact .tryBody hs ht
  | catchTag tag =>
    by_cases ht : tag = invalidIndex
    · simp [resolve, ht] at h
    · simp only [resolve, ht, if_false, Reading.bind_eq_ok, Reading.pure_eq_ok, guard_eq_ok] at h
      obtain ⟨_, hs, rfl⟩ := h
      exact .catchTag hs ht
  | catchAll =>
    simp only [resolve, Reading.bind_eq_ok, Reading.pure_eq_ok, guard_eq_ok] at h
    obtain ⟨_, hs, rfl⟩ := h
    exact .catchAll hs
  | finish =>
    cases h
    exact .finish
  | plain op =>
    simp only [resolve, Reading.bind_eq_ok, Reading.pure_eq_ok, PlainOperator.instr_eq_ok] at h
    obtain ⟨_, hi, rfl⟩ := h
    exact .plain hi

lemma resolve_of_yields (h : op.Yields s loc x) : op.resolve s loc = .ok x := by
  have hg (hs : s.exceptions = true) (op : Operator) : op.guard s = .ok () := guard_eq_ok.mpr hs
  cases h with
  | block form ht | ifThen ht =>
    simp only [resolve, BlockType.results_eq_ok.mpr ⟨ht, rfl⟩]
    rfl
  | tryBody hs ht =>
    simp only [resolve, hg hs, BlockType.results_eq_ok.mpr ⟨ht, rfl⟩]
    rfl
  | catchTag hs ht =>
    simp only [resolve, hg hs, ht, if_false]
    rfl
  | catchAll hs =>
    simp only [resolve, hg hs]
    rfl
  | plain hi =>
    simp only [resolve, PlainOperator.instr_eq_ok.mpr hi]
    rfl
  | elseBranch | finish => rfl

lemma resolve_eq_ok : op.resolve s loc = .ok x ↔ op.Yields s loc x := ⟨yields_of_resolve, resolve_of_yields⟩

lemma Yields.admissible (h : op.Yields s loc x) : op.Admissible s := by
  cases h with
  | block form ht => exact ht
  | ifThen ht => exact ht
  | tryBody hs ht => exact ⟨hs, ht⟩
  | catchTag hs ht => exact ⟨hs, ht⟩
  | catchAll hs => exact hs
  | plain hi => exact hi.admissible
  | elseBranch | finish => trivial

lemma exists_yields (loc : Location) (h : op.Admissible s) : ∃ x, op.Yields s loc x := by
  cases op with
  | block form type => exact ⟨_, .block form h⟩
  | ifThen type => exact ⟨_, .ifThen h⟩
  | elseBranch => exact ⟨_, .elseBranch⟩
  | tryBody type => exact ⟨_, .tryBody h.1 h.2⟩
  | catchTag tag => exact ⟨_, .catchTag h.1 h.2⟩
  | catchAll => exact ⟨_, .catchAll h⟩
  | finish => exact ⟨_, .finish⟩
  | plain op =>
    obtain ⟨i, hi⟩ := PlainOperator.exists_yields loc h
    exact ⟨_, .plain hi⟩

theorem exists_resolve (loc : Location) : (∃ x, op.resolve s loc = .ok x) ↔ op.Admissible s := by
  simp only [resolve_eq_ok]
  exact ⟨fun ⟨_, h⟩ => h.admissible, exists_yields loc⟩

end Operator

end WasmTree
