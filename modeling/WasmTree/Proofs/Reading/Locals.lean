import WasmTree.Proofs.Reading.Bodies

/-!
The locals of a body from the runs that declare them. The running total is a word of 64 bits, but cannot
wrap: it is kept within the limit, and one more run adds less than 32 bits hold.
-/

namespace WasmTree

def localCount : List (UInt32 × WireType) → Nat
  | [] => 0
  | run :: runs => run.1.toNat + localCount runs

/-- The types of the locals that runs declare, in order. -/
def expand (runs : List (UInt32 × WireType)) : List ValueType :=
  runs.flatMap fun run => run.2.number?.elim [] (List.replicate run.1.toNat)

section Runs

variable {runs before after : List (UInt32 × WireType)} {run : UInt32 × WireType}

lemma localCount_append : localCount (before ++ after) = localCount before + localCount after := by
  induction before with
  | nil => simp [localCount]
  | cons run before ih => rw [List.cons_append, localCount, localCount, ih, Nat.add_assoc]

lemma localCount_single : localCount [run] = run.1.toNat := rfl

lemma expand_append : expand (before ++ after) = expand before ++ expand after := List.flatMap_append

lemma expand_cons_number {n : UInt32} {t : ValueType} :
    expand ((n, .number t) :: runs) = List.replicate n.toNat t ++ expand runs := rfl

lemma expand_single {n : UInt32} {t : ValueType} : expand [(n, .number t)] = List.replicate n.toNat t :=
  List.append_nil _

lemma length_expand (h : ∀ run ∈ runs, ∃ t, run.2 = .number t) : (expand runs).length = localCount runs := by
  induction runs with
  | nil => rfl
  | cons run runs ih =>
    obtain ⟨⟨t, ht⟩, hruns⟩ := List.forall_mem_cons.mp h
    rcases run with ⟨n, _⟩
    obtain rfl := ht
    rw [expand_cons_number, List.length_append, List.length_replicate, ih hruns, localCount]

lemma getElem?_expand_iff (h : ∀ run ∈ runs, ∃ t, run.2 = .number t) {k : Nat} {t : ValueType} :
    (expand runs)[k]? = some t ↔ ∃ before n after, runs = before ++ (n, .number t) :: after ∧
      localCount before ≤ k ∧ k < localCount before + n.toNat := by
  induction runs generalizing k with
  | nil => simp [expand]
  | cons run runs ih =>
    obtain ⟨⟨u, hu⟩, hruns⟩ := List.forall_mem_cons.mp h
    rcases run with ⟨m, _⟩
    obtain rfl := hu
    rw [expand_cons_number, List.getElem?_append, List.length_replicate]
    split
    · rename_i hk
      rw [List.getElem?_replicate_of_lt hk, Option.some.injEq]
      constructor
      · rintro rfl
        exact ⟨[], m, runs, rfl, Nat.zero_le k, by simpa [localCount] using hk⟩
      · rintro ⟨before, n, after, hs, hle, -⟩
        cases before with
        | nil =>
          cases hs
          rfl
        | cons run before =>
          obtain ⟨rfl, -⟩ := List.cons_eq_cons.mp hs
          simp only [localCount] at hle
          omega
    · rename_i hk
      rw [ih hruns]
      constructor
      · rintro ⟨before, n, after, rfl, hle, hlt⟩
        refine ⟨(m, .number u) :: before, n, after, rfl, ?_⟩
        simp only [localCount]
        omega
      · rintro ⟨before, n, after, hs, hle, hlt⟩
        cases before with
        | nil =>
          cases hs
          simp only [localCount] at hlt
          omega
        | cons run before =>
          obtain ⟨rfl, rfl⟩ := List.cons_eq_cons.mp hs
          refine ⟨before, n, after, rfl, ?_⟩
          simp only [localCount] at hle hlt
          omega

end Runs

namespace Locals

structure Collects (runs : List (UInt32 × WireType)) (l : Locals) : Prop where
  total : l.total.toNat = localCount runs
  types : l.types.toList = expand runs
  number : ∀ run ∈ runs, ∃ t, run.2 = .number t
  le : localCount runs ≤ localLimit.toNat

variable {l l' : Locals} {before after runs : List (UInt32 × WireType)} {run : UInt32 × WireType}

lemma collects_nil : Collects [] ⟨0, #[]⟩ := ⟨rfl, rfl, List.forall_mem_nil _, Nat.zero_le _⟩

lemma exists_collects_iff :
    (∃ l, Collects runs l) ↔ (∀ run ∈ runs, ∃ t, run.2 = .number t) ∧ localCount runs ≤ localLimit.toNat := by
  constructor
  · rintro ⟨l, h⟩
    exact ⟨h.number, h.le⟩
  · rintro ⟨hn, hl⟩
    have hw : localCount runs < 18446744073709551616 := Nat.lt_of_le_of_lt hl (by decide)
    exact ⟨⟨.ofNat (localCount runs), (expand runs).toArray⟩, UInt64.toNat_ofNat_of_lt' hw, rfl, hn, hl⟩

namespace Collects

lemma eq (h : Collects runs l) (h' : Collects runs l') : l = l' := by
  rcases l with ⟨total, types⟩
  rcases l' with ⟨total', types'⟩
  obtain rfl : total = total' := UInt64.toNat_inj.mp (h.total.trans h'.total.symm)
  obtain rfl : types = types' := Array.toList_inj.mp (h.types.trans h'.types.symm)
  rfl

lemma size_eq (h : Collects runs l) : l.types.size = localCount runs := by
  rw [← Array.length_toList, h.types, length_expand h.number]

/-- One more run is added without a carry out of the word. -/
lemma toNat_add (h : Collects before l) (run : UInt32 × WireType) :
    (l.total + run.1.toUInt64).toNat = localCount before + run.1.toNat := by
  have hl : localCount before ≤ 50000 := h.le
  have hr : run.1.toNat < 4294967296 := run.1.toNat_lt
  rw [UInt64.toNat_add, UInt32.toNat_toUInt64, h.total]
  omega

lemma push (h : Collects before l) {n : UInt32} {t : ValueType} (hl : localCount before + n.toNat ≤ localLimit.toNat) :
    Collects (before ++ [(n, .number t)]) ⟨l.total + n.toUInt64, l.types ++ Array.replicate n.toNat t⟩ where
  total := by rw [localCount_append]; exact h.toNat_add (n, .number t)
  types := by rw [Array.toList_append, Array.toList_replicate, expand_append, expand_single, h.types]
  number := by
    intro run hr
    rcases List.mem_append.mp hr with hr | hr
    · exact h.number run hr
    · exact ⟨t, congrArg Prod.snd (List.mem_singleton.mp hr)⟩
  le := by rw [localCount_append]; exact hl

/-- A run beyond the limit is refused whatever its type. -/
lemma extend_eq_fail (h : Collects before l) (hl : localLimit.toNat < localCount before + run.1.toNat) :
    l.extend run = .fail (.tooManyLocals (localCount before + run.1.toNat) localLimit.toNat) := by
  rw [← h.toNat_add] at hl ⊢
  exact if_pos hl

lemma extend_eq_ok (h : Collects before l) : l.extend run = .ok l' ↔ Collects (before ++ [run]) l' := by
  rcases Nat.lt_or_ge localLimit.toNat (localCount before + run.1.toNat) with hl | hl
  · rw [h.extend_eq_fail hl]
    constructor
    · intro he
      simp at he
    · intro h'
      have hle := h'.le
      rw [localCount_append, localCount_single] at hle
      omega
  · have hlt : ¬ localLimit < l.total + run.1.toUInt64 := by
      rw [UInt64.lt_iff_toNat_lt, h.toNat_add]
      omega
    simp only [extend, hlt, if_false, Reading.bind_eq_ok, Reading.pure_eq_ok, WireSignature.readType_eq_ok]
    rcases run with ⟨n, w⟩
    constructor
    · rintro ⟨t, ht, rfl⟩
      cases w with
      | number u =>
        cases ht
        exact h.push hl
      | _ => cases ht
    · intro h'
      obtain ⟨t, rfl⟩ := h'.number (n, w) (by simp)
      exact ⟨t, rfl, (h.push hl).eq h'⟩

end Collects

lemma foldlM_extend_eq_ok (h : Collects before l) :
    runs.foldlM extend l = .ok l' ↔ Collects (before ++ runs) l' := by
  induction runs generalizing before l with
  | nil =>
    rw [List.foldlM_nil, Reading.pure_eq_ok, List.append_nil]
    constructor
    · rintro rfl
      exact h
    · exact h.eq
  | cons run runs ih =>
    have hs : before ++ run :: runs = (before ++ [run]) ++ runs := by simp
    rw [List.foldlM_cons, Reading.bind_eq_ok, hs]
    constructor
    · rintro ⟨m, hm, hr⟩
      exact (ih (h.extend_eq_ok.mp hm)).mp hr
    · intro h'
      have hn : ∀ x ∈ before ++ [run], ∃ t, x.2 = .number t := fun x hx => h'.number x (List.mem_append_left _ hx)
      have hl : localCount (before ++ [run]) ≤ localLimit.toNat := by
        have hle := h'.le
        rw [localCount_append] at hle
        omega
      obtain ⟨m, hm⟩ := exists_collects_iff.mpr ⟨hn, hl⟩
      exact ⟨m, h.extend_eq_ok.mpr hm, (ih hm).mpr h'⟩

lemma foldlM_extend_eq_fail {m : Locals} (h : before.foldlM extend l = .ok m) {e : ReadError}
    (he : m.extend run = .error e) : (before ++ run :: after).foldlM extend l = .error e := by
  rw [List.foldlM_append, h]
  simp only [bind, Except.bind, List.foldlM_cons, he]

end Locals

lemma Func.slotType?_add {f : Func} {k : Nat} : f.slotType? (f.params.length + k) = f.locals[k]? := by
  rw [slotType?, if_neg (by omega), Nat.add_sub_cancel_left]

namespace WireBody

variable {b : WireBody} {s : FoldSetting} {runs : List (UInt32 × WireType)} {body : List Expr}

lemma readLocals_eq_ok (hl : b.locals = some ⟨runs, true⟩) {types : List ValueType} :
    b.readLocals = .ok types ↔ (∃ l, Locals.Collects runs l) ∧ expand runs = types := by
  simp only [readLocals, hl, Reading.bind_eq_ok, Reading.pure_eq_ok, Batch.foldRead_eq_ok, true_and,
    Locals.foldlM_extend_eq_ok Locals.collects_nil, List.nil_append]
  constructor
  · rintro ⟨l, h, rfl⟩
    exact ⟨⟨l, h⟩, h.types.symm⟩
  · rintro ⟨⟨l, h⟩, rfl⟩
    exact ⟨l, h, h.types⟩

lemma read_eq_ok_iff (hl : b.locals = some ⟨runs, true⟩) (hb : b.readOperators s = .ok body)
    {code : List ValueType × List Expr} : b.read s = .ok code ↔
      ((∀ run ∈ runs, ∃ t, run.2 = .number t) ∧ localCount runs ≤ localLimit.toNat) ∧ code = (expand runs, body) := by
  rcases code with ⟨types, body'⟩
  rw [read_eq_ok, readLocals_eq_ok hl, Locals.exists_collects_iff, hb, Except.ok.injEq, and_assoc, Prod.mk.injEq,
    eq_comm (a := types), eq_comm (a := body')]

lemma read_eq_fail (hl : b.locals = some ⟨runs, true⟩) {e : ReadError}
    (he : runs.foldlM Locals.extend ⟨0, #[]⟩ = .error e) : b.read s = .error e := by
  simp only [read, readLocals, hl, Batch.foldRead, he]
  rfl

/-- A body that folds can be read exactly when its locals are numbers and the limit is kept. It then has the
locals of one run after the other. Until then no sum of counts wraps, and a run that exceeds the limit is
refused while there are no more locals than the limit allows. -/
theorem read_runs (hl : b.locals = some ⟨runs, true⟩) (hb : b.readOperators s = .ok body) :
    ((∃ code, b.read s = .ok code) ↔ (∀ run ∈ runs, ∃ t, run.2 = .number t) ∧ localCount runs ≤ 50000) ∧
      (∀ code, b.read s = .ok code → code = (expand runs, body) ∧ code.1.length = localCount runs ∧
        ∀ (f : Func) (k : Nat),
          (∀ t, (f.withCode code).slotType? (f.params.length + k) = some t ↔
            ∃ before n after, runs = before ++ (n, .number t) :: after ∧
              localCount before ≤ k ∧ k < localCount before + n.toNat) ∧
          ((f.withCode code).slotType? (f.params.length + k) = none ↔ localCount runs ≤ k)) ∧
      ∀ before run after l, runs = before ++ run :: after → before.foldlM Locals.extend ⟨0, #[]⟩ = .ok l →
        l.types.size = localCount before ∧ l.types.size ≤ 50000 ∧ l.total.toNat = localCount before ∧
          (l.total + run.1.toUInt64).toNat = localCount before + run.1.toNat ∧
          (50000 < localCount before + run.1.toNat →
            l.extend run = .fail (.tooManyLocals (localCount before + run.1.toNat) 50000) ∧
            b.read s = .fail (.tooManyLocals (localCount before + run.1.toNat) 50000)) := by
  refine ⟨?_, fun code h => ?_, fun before run after l hs h => ?_⟩
  · simp only [read_eq_ok_iff hl hb, exists_and_left, exists_eq, and_true]
    rfl
  · obtain ⟨⟨hn, -⟩, rfl⟩ := (read_eq_ok_iff hl hb).mp h
    refine ⟨rfl, length_expand hn, fun f k => ?_⟩
    have hk : (f.withCode (expand runs, body)).slotType? (f.params.length + k) = (expand runs)[k]? :=
      Func.slotType?_add
    rw [hk, List.getElem?_eq_none_iff, length_expand hn]
    exact ⟨fun t => getElem?_expand_iff hn, Iff.rfl⟩
  · have hc : Locals.Collects before l := (Locals.foldlM_extend_eq_ok Locals.collects_nil).mp h
    refine ⟨hc.size_eq, Nat.le_trans (Nat.le_of_eq hc.size_eq) hc.le, hc.total, hc.toNat_add run, fun hlt => ?_⟩
    have he := hc.extend_eq_fail hlt
    exact ⟨he, read_eq_fail hl (hs ▸ Locals.foldlM_extend_eq_fail h he)⟩

/-- Runs that reach the limit exactly; one of them declares nothing. -/
def toLimit : List (UInt32 × WireType) := [(0, .number .i64), (49999, .number .i32), (1, .number .f64)]

def limitBody : WireBody := ⟨some ⟨toLimit, true⟩, ⟨[⟨30, .finish⟩], true⟩⟩

theorem read_toLimit : limitBody.locals = some ⟨toLimit, true⟩ ∧ limitBody.readOperators ⟨#[], true⟩ = .ok [] ∧
    ∃ code, limitBody.read ⟨#[], true⟩ = .ok code ∧
      ∀ f : Func, (f.withCode code).slotType? (f.params.length + 49999) = some .f64 ∧
        (f.withCode code).slotType? (f.params.length + 50000) = none := by
  have hl : limitBody.locals = some ⟨toLimit, true⟩ := rfl
  have hb : limitBody.readOperators ⟨#[], true⟩ = .ok [] := rfl
  obtain ⟨hr, hs, -⟩ := read_runs hl hb
  obtain ⟨code, h⟩ := hr.mpr ⟨by simp [toLimit], by decide⟩
  obtain ⟨-, -, hk⟩ := hs code h
  refine ⟨hl, hb, code, h, fun f => ⟨?_, ?_⟩⟩
  · exact ((hk f 49999).1 .f64).mpr ⟨[(0, .number .i64), (49999, .number .i32)], 1, [], rfl, by decide, by decide⟩
  · exact (hk f 50000).2.mpr (by decide)

end WireBody

end WasmTree
