import Mathlib.Data.List.Forall2
import WasmTree.Folding
import WasmTree.Proofs.Reading.Success

/-! One transition of the open frames for each flat mark, and runs of them. -/

namespace WasmTree

namespace Frame

inductive Continues : Frame → Flat → Frame → Prop
  | otherwise {loc sig filled} :
    Continues ⟨.ifYes, loc, sig, filled⟩ .otherwise ⟨.ifNo filled.toList, loc, sig, #[]⟩
  | firstHandler {loc sig filled} (l : Location) (v : Var) :
    Continues ⟨.tryBody, loc, sig, filled⟩ (.handler l v) ⟨.handler filled.toList #[] l v, loc, sig, #[]⟩
  | nextHandler {loc sig filled body before l₀ v₀} (l : Location) (v : Var) :
    Continues ⟨.handler body before l₀ v₀, loc, sig, filled⟩ (.handler l v)
      ⟨.handler body (before.push ⟨l₀, v₀, filled.toList⟩) l v, loc, sig, #[]⟩
  | plain {f : Frame} (loc : Location) (i : Instr) : Continues f (.plain loc i) (f.push (.plain loc i))

lemma startElse_eq_ok {f g : Frame} : f.startElse = .ok g ↔ f.Continues .otherwise g := by
  rcases f with ⟨kind, loc, sig, filled⟩
  constructor
  · intro h
    cases kind <;> simp only [startElse, Reading.fail_ne_ok, Except.ok.injEq] at h
    exact h ▸ .otherwise
  · intro h
    cases h
    rfl

lemma startHandler_eq_ok {f g : Frame} {l : Location} {v : Var} :
    f.startHandler l v = .ok g ↔ f.Continues (.handler l v) g := by
  rcases f with ⟨kind, loc, sig, filled⟩
  constructor
  · intro h
    cases kind <;> simp only [startHandler, Reading.fail_ne_ok, Except.ok.injEq] at h
    case tryBody => exact h ▸ .firstHandler l v
    case handler => exact h ▸ .nextHandler l v
  · intro h
    cases h <;> rfl

end Frame

namespace Folding

/-- A mark that is accepted, with the frames before and after it. -/
inductive Adds : Folding → Flat → Folding → Prop
  | opening {frames finished} (o : Opening) (loc : Location) (sig : List ValueType) :
    Adds ⟨frames, finished⟩ (.opening o loc sig) ⟨.opened o loc sig :: frames, finished⟩
  | within {top below finished x top'} : top.Continues x top' →
    Adds ⟨top :: below, finished⟩ x ⟨top' :: below, finished⟩
  | closeBody {top below finished} : top.node? = none →
    Adds ⟨top :: below, finished⟩ .close ⟨below, some top.filled.toList⟩
  | closeNode {top next below finished e} : top.node? = some e →
    Adds ⟨top :: next :: below, finished⟩ .close ⟨next.push e :: below, finished⟩

lemma modifyTop_eq_ok {r : Frame → Reading Frame} {f g : Folding} :
    f.modifyTop r = .ok g ↔
      ∃ top below finished top', f = ⟨top :: below, finished⟩ ∧ r top = .ok top' ∧
        g = ⟨top' :: below, finished⟩ := by
  rcases f with ⟨_ | ⟨top, below⟩, finished⟩
  · simp [modifyTop]
  · simp only [modifyTop, Reading.bind_eq_ok, Reading.pure_eq_ok]
    constructor
    · rintro ⟨top', hr, rfl⟩
      exact ⟨top, below, finished, top', rfl, hr, rfl⟩
    · rintro ⟨_, _, _, top', h, hr, rfl⟩
      cases h
      exact ⟨top', hr, rfl⟩

lemma push_eq_ok {e : Expr} {f g : Folding} :
    push e f = .ok g ↔
      ∃ top below finished, f = ⟨top :: below, finished⟩ ∧ g = ⟨top.push e :: below, finished⟩ := by
  simp only [push, modifyTop_eq_ok]
  constructor
  · rintro ⟨top, below, finished, _, hf, ht, rfl⟩
    cases ht
    exact ⟨top, below, finished, hf, rfl⟩
  · rintro ⟨top, below, finished, hf, rfl⟩
    exact ⟨top, below, finished, _, hf, rfl, rfl⟩

lemma close_eq_ok {f g : Folding} : f.close = .ok g ↔ Adds f .close g := by
  rcases f with ⟨_ | ⟨top, below⟩, finished⟩
  · constructor
    · intro h
      simp [close] at h
    · intro h
      nomatch h
  · cases hn : top.node? with
    | none =>
      simp only [close, hn, Except.ok.injEq]
      constructor
      · rintro rfl
        exact .closeBody hn
      · intro h
        cases h with
        | within hc => nomatch hc
        | closeBody => rfl
        | closeNode he => simp [hn] at he
    | some e =>
      simp only [close, hn, push_eq_ok]
      constructor
      · rintro ⟨next, below', _, h, rfl⟩
        cases h
        exact .closeNode hn
      · intro h
        cases h with
        | within hc => nomatch hc
        | closeBody he => simp [hn] at he
        | closeNode he =>
          obtain rfl := Option.some.inj (hn.symm.trans he)
          exact ⟨_, _, _, rfl, rfl⟩

lemma adds_within_iff {f g : Folding} {x : Flat} (ho : ∀ o loc sig, x ≠ .opening o loc sig)
    (hc : x ≠ .close) :
    Adds f x g ↔ ∃ top below finished top', f = ⟨top :: below, finished⟩ ∧ top.Continues x top' ∧
      g = ⟨top' :: below, finished⟩ := by
  constructor
  · intro h
    cases h with
    | opening => exact absurd rfl (ho _ _ _)
    | within h => exact ⟨_, _, _, _, rfl, h, rfl⟩
    | closeBody => exact absurd rfl hc
    | closeNode => exact absurd rfl hc
  · rintro ⟨_, _, _, _, rfl, h, rfl⟩
    exact .within h

theorem add_eq_ok {f g : Folding} {x : Flat} : f.add x = .ok g ↔ Adds f x g := by
  cases x with
  | opening o loc sig =>
    constructor
    · rintro ⟨⟩
      exact .opening o loc sig
    · intro h
      cases h with
      | opening => rfl
      | within hc => nomatch hc
  | otherwise =>
    simp only [add, modifyTop_eq_ok, Frame.startElse_eq_ok]
    rw [adds_within_iff (by simp) (by simp)]
  | handler l v =>
    simp only [add, modifyTop_eq_ok, Frame.startHandler_eq_ok]
    rw [adds_within_iff (by simp) (by simp)]
  | close => exact close_eq_ok
  | plain loc i =>
    simp only [add, push_eq_ok]
    rw [adds_within_iff (by simp) (by simp)]
    constructor
    · rintro ⟨top, below, finished, hf, hg⟩
      exact ⟨top, below, finished, _, hf, .plain loc i, hg⟩
    · rintro ⟨top, below, finished, _, hf, hc, hg⟩
      cases hc
      exact ⟨top, below, finished, hf, hg⟩

inductive AddsAll : Folding → List Flat → Folding → Prop
  | nil {f} : AddsAll f [] f
  | cons {f g h x xs} : Adds f x g → AddsAll g xs h → AddsAll f (x :: xs) h

lemma AddsAll.single {f g : Folding} {x : Flat} (h : Adds f x g) : AddsAll f [x] g := .cons h .nil

lemma AddsAll.append {f g h : Folding} {xs ys : List Flat} (hx : AddsAll f xs g) (hy : AddsAll g ys h) :
    AddsAll f (xs ++ ys) h := by
  induction hx with
  | nil => exact hy
  | cons ha _ ih => exact .cons ha (ih hy)

lemma addsAll_cons_iff {f h : Folding} {x : Flat} {xs : List Flat} :
    AddsAll f (x :: xs) h ↔ ∃ g, Adds f x g ∧ AddsAll g xs h := by
  constructor
  · intro hr
    cases hr with
    | cons ha hr => exact ⟨_, ha, hr⟩
  · rintro ⟨g, ha, hr⟩
    exact .cons ha hr

def run (s : FoldSetting) (ops : List (Location × Operator)) (f : Folding) : Reading Folding :=
  ops.foldlM (fun f p => f.step s p.2 p.1) f

def fold (s : FoldSetting) (ops : List (Location × Operator)) : Reading (List Expr) := do
  (← run s ops .start).finish

def Resolves (s : FoldSetting) (p : Location × Operator) (x : Flat) : Prop := p.2.resolve s p.1 = .ok x

theorem run_eq_ok {s : FoldSetting} {ops : List (Location × Operator)} {f g : Folding} :
    run s ops f = .ok g ↔ ∃ xs, List.Forall₂ (Resolves s) ops xs ∧ AddsAll f xs g := by
  induction ops generalizing f with
  | nil =>
    constructor
    · rintro ⟨⟩
      exact ⟨[], .nil, .nil⟩
    · rintro ⟨_, ⟨⟩, ⟨⟩⟩
      rfl
  | cons p ops ih =>
    have hstep (g' : Folding) : f.step s p.2 p.1 = .ok g' ↔ ∃ x, Resolves s p x ∧ Adds f x g' := by
      simp only [step, Reading.bind_eq_ok, add_eq_ok, Resolves]
    rw [run, List.foldlM_cons, Reading.bind_eq_ok]
    constructor
    · rintro ⟨g', hs, hr⟩
      obtain ⟨x, hx, ha⟩ := (hstep g').mp hs
      obtain ⟨xs, hxs, hrun⟩ := ih.mp hr
      exact ⟨x :: xs, .cons hx hxs, .cons ha hrun⟩
    · rintro ⟨_, hf, hr⟩
      cases hf with
      | cons hx hxs =>
        obtain ⟨g', ha, hr⟩ := addsAll_cons_iff.mp hr
        exact ⟨g', (hstep g').mpr ⟨_, hx, ha⟩, ih.mpr ⟨_, hxs, hr⟩⟩

lemma finish_eq_ok {f : Folding} {l : List Expr} : f.finish = .ok l ↔ f = ⟨[], some l⟩ := by
  rcases f with ⟨_ | ⟨top, below⟩, _ | l'⟩ <;> simp [finish]

theorem fold_eq_ok {s : FoldSetting} {ops : List (Location × Operator)} {l : List Expr} :
    fold s ops = .ok l ↔
      ∃ xs, List.Forall₂ (Resolves s) ops xs ∧ AddsAll .start xs ⟨[], some l⟩ := by
  rw [fold, Reading.bind_eq_ok]
  constructor
  · rintro ⟨f, hr, hf⟩
    obtain rfl := finish_eq_ok.mp hf
    exact run_eq_ok.mp hr
  · intro h
    exact ⟨_, run_eq_ok.mpr h, rfl⟩

end Folding

end WasmTree
