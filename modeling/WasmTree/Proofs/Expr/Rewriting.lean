import WasmTree.Proofs.Expr.References

/-! What is left of a node, and in what order its references are taken, when a resolver rewrites them. -/

namespace WasmTree

section Refill

/-- The handlers with other references in turn; those that catch everything keep their mark. -/
def Handler.refill {α : Type} : List (Handler α) → List Var → List (Handler α)
  | [], _ => []
  | h :: hs, vs =>
    if h.catchesAll then h :: refill hs vs else { h with var := vs.headD h.var } :: refill hs vs.tail

def Instr.refill : Instr → List Var → Instr
  | .reference r v, vs => .reference r (vs.headD v)
  | .callIndirect v, vs => .callIndirect (vs.headD v)
  | .brTable _ fallback, vs => .brTable vs.dropLast (vs.getLastD fallback)
  | i, _ => i

def Expr.refill : Expr → List Var → Expr
  | .plain loc i, vs => .plain loc (i.refill vs)
  | .tryCatch loc heading body handlers, vs => .tryCatch loc heading body (Handler.refill handlers vs)
  | e, _ => e

variable {m : Type → Type} [Monad m] [LawfulMonad m] (f : Var → m Var)

lemma Instr.mapVarsM_eq (i : Instr) : i.mapVarsM f = i.refill <$> i.vars.mapM f := by
  cases i <;> simp [mapVarsM, vars, refill, List.mapM_append]

lemma Handler.mapM_mapVarM {α : Type} (hs : List (Handler α)) :
    hs.mapM (·.mapVarM f) = refill hs <$> ((hs.filter fun h => !h.catchesAll).map Handler.var).mapM f := by
  induction hs with
  | nil => simp [refill]
  | cons h hs ih =>
    rw [List.mapM_cons, ih]
    cases hc : h.catchesAll <;> simp [mapVarM, refill, hc]

lemma Expr.mapVarsM_eq (e : Expr) : e.mapVarsM f = e.refill <$> e.vars.mapM f := by
  cases e with
  | plain loc i =>
    rw [mapVarsM, Instr.mapVarsM_eq, bind_pure_comp, Functor.map_map]
    rfl
  | block => simp [mapVarsM, vars, refill]
  | ifElse => simp [mapVarsM, vars, refill]
  | tryCatch loc heading body handlers =>
    rw [mapVarsM, Handler.mapM_mapVarM, bind_pure_comp, Functor.map_map]
    rfl

end Refill

namespace Expr

def constant? : Expr → Option Constant
  | plain _ (.const c) => some c
  | _ => none

def access? : Expr → Option (UInt32 × UInt32)
  | plain _ (.access _ _ align offset) => some (align, offset)
  | _ => none

def heading? : Expr → Option Heading
  | plain .. => none
  | block _ _ heading _ | ifElse _ heading .. | tryCatch _ heading .. => some heading

/-- Two nodes differ in nothing but what they refer to. -/
structure Alike (e e' : Expr) : Prop where
  tag : e'.tag = e.tag
  loc : e'.loc = e.loc
  opcode? : e'.opcode? = e.opcode?
  constant? : e'.constant? = e.constant?
  access? : e'.access? = e.access?
  heading? : e'.heading? = e.heading?
  children : e'.children = e.children
  handlerLocs : e'.handlers.map Handler.loc = e.handlers.map Handler.loc
  catchAlls : e'.handlers.map (Option.guard Handler.catchesAll) = e.handlers.map (Option.guard Handler.catchesAll)

end Expr

namespace Handler

variable {α β : Type}

lemma map_refill {f : Handler α → β} (hf : ∀ h v, f { h with var := v } = f h) (hs : List (Handler α))
    (vs : List Var) : (refill hs vs).map f = hs.map f := by
  induction hs generalizing vs with
  | nil => rfl
  | cons h hs ih =>
    rw [refill]
    split <;> simp [ih, hf]

lemma catchesAll_of_ne {v : Var} (hv : v.target ≠ .index invalidIndex) (h : Handler α) :
    catchesAll { h with var := v } = false := by
  simpa [catchesAll] using hv

lemma refill_eq {hs : List (Handler α)} {vs : List Var} (hv : ∀ v ∈ vs, v.target ≠ .index invalidIndex)
    (hl : vs.length = (hs.filter fun h => !h.catchesAll).length) :
    ((refill hs vs).filter fun h => !h.catchesAll).map var = vs ∧
      (refill hs vs).map (Option.guard catchesAll) = hs.map (Option.guard catchesAll) := by
  induction hs generalizing vs with
  | nil =>
    obtain rfl := List.length_eq_zero_iff.mp hl
    exact ⟨rfl, rfl⟩
  | cons h hs ih =>
    rw [refill]
    cases hc : h.catchesAll with
    | true =>
      obtain ⟨hr, hg⟩ := ih hv (by simpa [hc] using hl)
      exact ⟨by simpa [hc] using hr, by simp [hg]⟩
    | false =>
      -- the reference put in is not taken for a mark, so the handler counts as it did
      cases vs with
      | nil => simp [hc] at hl
      | cons v vs =>
        obtain ⟨hv, hvs⟩ := List.forall_mem_cons.mp hv
        have hn := catchesAll_of_ne hv h
        obtain ⟨hr, hg⟩ := ih hvs (by simpa [hc] using hl)
        exact ⟨by simp [hn, hr], by simp [Option.guard, hn, hc, hg]⟩

lemma eq_of_maps {hs hs' : List (Handler α)} (hl : hs'.map loc = hs.map loc) (hv : hs'.map var = hs.map var)
    (hb : hs'.map body = hs.map body) : hs' = hs := by
  induction hs generalizing hs' with
  | nil => exact List.map_eq_nil_iff.mp hl
  | cons h hs ih =>
    cases hs' with
    | nil => cases hl
    | cons h' hs' =>
      rcases h with ⟨loc, var, body⟩
      rcases h' with ⟨loc', var', body'⟩
      simp only [List.map_cons, List.cons.injEq] at hl hv hb
      obtain ⟨rfl, hl⟩ := hl
      obtain ⟨rfl, hv⟩ := hv
      obtain ⟨rfl, hb⟩ := hb
      rw [ih hl hv hb]

end Handler

lemma Instr.vars_refill (i : Instr) {vs : List Var} (hl : vs.length = i.vars.length) : (i.refill vs).vars = vs := by
  cases i with
  | reference r v =>
    obtain ⟨w, rfl⟩ := List.length_eq_one_iff.mp hl
    rfl
  | callIndirect v =>
    obtain ⟨w, rfl⟩ := List.length_eq_one_iff.mp hl
    rfl
  | brTable targets fallback =>
    obtain rfl | ⟨ws, w, rfl⟩ := vs.eq_nil_or_concat
    · simp [vars] at hl
    · simp [vars, refill]
  | _ => exact (List.length_eq_zero_iff.mp hl).symm

namespace Expr

section

variable {e e' : Expr} {vs : List Var} (hv : ∀ v ∈ vs, v.target ≠ .index invalidIndex)
  (hl : vs.length = e.vars.length)

include hv hl

lemma vars_refill : (e.refill vs).vars = vs := by
  cases e with
  | plain loc i => exact i.vars_refill hl
  | block => exact (List.length_eq_zero_iff.mp hl).symm
  | ifElse => exact (List.length_eq_zero_iff.mp hl).symm
  | tryCatch => exact (Handler.refill_eq hv (by simpa [vars] using hl)).1

lemma alike_refill : e.Alike (e.refill vs) := by
  cases e with
  | plain loc i => cases i <;> constructor <;> rfl
  | block => constructor <;> rfl
  | ifElse => constructor <;> rfl
  | tryCatch loc heading body hs =>
    have hb : (Handler.refill hs vs).map Handler.body = hs.map Handler.body := Handler.map_refill (fun _ _ => rfl) hs vs
    have ho : (Handler.refill hs vs).map Handler.loc = hs.map Handler.loc := Handler.map_refill (fun _ _ => rfl) hs vs
    have hc := (Handler.refill_eq hv (by simpa [vars] using hl)).2
    exact ⟨rfl, rfl, rfl, rfl, rfl, rfl, congrArg (body :: ·) hb, ho, hc⟩

end

lemma Alike.instr_eq {loc loc' : Location} {i j : Instr} (h : (plain loc i).Alike (plain loc' j))
    (hw : (plain loc' j).written = (plain loc i).written) : j = i := by
  have ht : j.tag = i.tag := h.tag
  have ho := h.opcode?
  have hc := h.constant?
  have ha := h.access?
  cases i <;> cases j <;> simp_all [Instr.tag, written, Expr.opcode?, Expr.constant?, Expr.access?]

lemma Alike.eq_of_written {e e' : Expr} (h : e.Alike e') (hw : e'.written = e.written) : e' = e := by
  have ht := h.tag
  have hl := h.loc
  have hh := h.heading?
  have hc := h.children
  cases e with
  | plain loc i =>
    cases e' with
    | plain loc' j =>
      obtain rfl : loc' = loc := hl
      rw [h.instr_eq hw]
    | _ => cases hh
  | block loc form heading body =>
    cases e' with
    | block =>
      cases ht
      cases hl
      cases hh
      cases hc
      rfl
    | plain => cases hh
    | _ => cases ht
  | ifElse loc heading yes no =>
    cases e' with
    | ifElse loc' heading' yes' no' =>
      obtain ⟨rfl, hn⟩ := List.cons.inj hc
      cases hl
      cases hh
      have he : no' = no := by cases no <;> cases no' <;> simp_all
      rw [he]
    | plain => cases hh
    | _ => cases ht
  | tryCatch loc heading body handlers =>
    cases e' with
    | tryCatch loc' heading' body' handlers' =>
      obtain ⟨rfl, hb⟩ := List.cons.inj hc
      cases hl
      cases hh
      obtain rfl : handlers' = handlers := Handler.eq_of_maps h.handlerLocs hw hb
      rfl
    | plain => cases hh
    | _ => cases ht

end Expr

section Run

variable {σ α β : Type}

/-- The same action, with a record of what it is taken for. -/
def recorded (r : α → StateM σ β) (a : α) : StateM (List α × σ) β :=
  fun s => (((r a).run s.2).1, s.1 ++ [a], ((r a).run s.2).2)

lemma run_mapM_cons (r : α → StateM σ β) (a : α) (as : List α) (s : σ) :
    ((a :: as).mapM r).run s =
      (((r a).run s).1 :: ((as.mapM r).run ((r a).run s).2).1, ((as.mapM r).run ((r a).run s).2).2) := by
  rw [List.mapM_cons]
  rfl

lemma run_mapM_recorded (r : α → StateM σ β) (as calls : List α) (s : σ) :
    (as.mapM (recorded r)).run (calls, s) =
      (((as.mapM r).run s).1, calls ++ as, ((as.mapM r).run s).2) := by
  induction as generalizing calls s with
  | nil =>
    rw [List.append_nil]
    rfl
  | cons a as ih =>
    have hr : (recorded r a).run (calls, s) = (((r a).run s).1, calls ++ [a], ((r a).run s).2) := rfl
    rw [run_mapM_cons, run_mapM_cons, hr, ih, List.append_assoc]
    rfl

lemma run_mapM_forall {p : β → Prop} {r : α → StateM σ β} (hr : ∀ a s, p ((r a).run s).1) (as : List α) (s : σ) :
    ((as.mapM r).run s).1.length = as.length ∧ ∀ b ∈ ((as.mapM r).run s).1, p b := by
  induction as generalizing s with
  | nil => exact ⟨rfl, List.forall_mem_nil p⟩
  | cons a as ih =>
    obtain ⟨hl, hp⟩ := ih ((r a).run s).2
    rw [run_mapM_cons]
    exact ⟨congrArg (· + 1) hl, List.forall_mem_cons.mpr ⟨hr a s, hp⟩⟩

end Run

namespace Expr

/-- A rewriting is called for the references of a node as they stand, and puts its answers in their places. -/
structure Rewritten {σ : Type} (r : Var → StateM σ Var) (e : Expr) (s : σ) (e' : Expr) (s' : σ) : Prop where
  run_eq : (e.mapVarsM r).run s = (e', s')
  calls_eq : (e.mapVarsM (recorded r)).run ([], s) = (e', e.vars, s')
  answers_eq : (e.vars.mapM r).run s = (e'.vars, s')
  alike : e.Alike e'

lemma exists_rewritten {σ : Type} {r : Var → StateM σ Var}
    (hr : ∀ v s, ((r v).run s).1.target ≠ .index invalidIndex) (e : Expr) (s : σ) :
    ∃ e' s', e.Rewritten r s e' s' := by
  obtain ⟨hl, hv⟩ := run_mapM_forall (p := fun v : Var => v.target ≠ .index invalidIndex) hr e.vars s
  refine ⟨e.refill ((e.vars.mapM r).run s).1, ((e.vars.mapM r).run s).2, ?_, ?_, ?_, alike_refill hv hl⟩
  · rw [mapVarsM_eq]
    rfl
  · have hm : (e.mapVarsM (recorded r)).run ([], s) =
        (e.refill ((e.vars.mapM (recorded r)).run ([], s)).1, ((e.vars.mapM (recorded r)).run ([], s)).2) := by
      rw [mapVarsM_eq]
      rfl
    rw [hm, run_mapM_recorded, List.nil_append]
  · rw [vars_refill hv hl]
    rfl

lemma mapVars_eq (f : Var → Var) (e : Expr) : e.mapVars f = e.refill (e.vars.map f) := by
  have hm : e.vars.mapM (fun v => (pure (f v) : Id Var)) = pure (e.vars.map f) := List.mapM_pure
  rw [mapVars, mapVarsM_eq, hm]
  rfl

/-- Every reference of a tree is met once in a walk, and nothing written in a node is left out of account but
the marks of handlers that catch everything. A rewriting that puts in no such mark is called for the references
of a node in the order in which they are met, and changes nothing else. -/
theorem referred_and_rewritten {σ : Type} {r : Var → StateM σ Var}
    (hr : ∀ v s, ((r v).run s).1.target ≠ .index invalidIndex) :
    (∀ l, ∃ ks, Enumerates (Prod.Lex (· < ·) (· < ·)) (referenceAt? l) ks (references l)) ∧
      (∀ e e' : Expr, e.Alike e' → e'.written = e.written → e' = e) ∧
      (∀ e s, ∃ e' s', Rewritten r e s e' s') ∧
      ∀ f : Var → Var, (∀ v, (f v).target ≠ .index invalidIndex) →
        ∀ e : Expr, (e.mapVars f).vars = e.vars.map f ∧ e.Alike (e.mapVars f) := by
  refine ⟨exists_enumerates_references, fun e e' h hw => h.eq_of_written hw, exists_rewritten hr, fun f hf e => ?_⟩
  have hv : ∀ v ∈ e.vars.map f, v.target ≠ .index invalidIndex := List.forall_mem_map.mpr fun v _ => hf v
  have hl : (e.vars.map f).length = e.vars.length := List.length_map f
  rw [mapVars_eq]
  exact ⟨vars_refill hv hl, alike_refill hv hl⟩

/-- Numbers that go round long before they reach the mark. -/
def numbered (v : Var) : StateM UInt8 Var := fun n => (v.setIndex n.toUInt32, n + 1)

def guarded : Expr :=
  .tryCatch .unknown ⟨some "$l", []⟩ [.plain .unknown (.brTable [.ofName "$a", .ofName "$b"] (.ofName "$c"))]
    [⟨.unknown, .ofName "$e", []⟩, ⟨.unknown, default, [.plain .unknown (.reference .call (.ofName "$f"))]⟩,
      ⟨.unknown, .ofIndex 1, []⟩]

theorem rewritten_guarded : (∀ v n, ((numbered v).run n).1.target ≠ .index invalidIndex) ∧
    (∃ ks, Enumerates (Prod.Lex (· < ·) (· < ·)) (referenceAt? [guarded]) ks
      [.ofName "$e", .ofIndex 1, .ofName "$a", .ofName "$b", .ofName "$c", .ofName "$f"]) ∧
    ∃ e', Rewritten numbered guarded 254 e' 0 ∧ e'.vars = [.ofIndex 254, .ofIndex 255] := by
  have hn (v : Var) (n : UInt8) : ((numbered v).run n).1.target ≠ .index invalidIndex := by
    intro h
    have hi : n.toUInt32.toNat = 0xFFFFFFFF := congrArg UInt32.toNat (Target.index.inj h)
    have hlt := n.toNat_lt
    rw [UInt8.toNat_toUInt32] at hi
    omega
  obtain ⟨hr, -, hw, -⟩ := referred_and_rewritten hn
  have hs : references [guarded] = [.ofName "$e", .ofIndex 1, .ofName "$a", .ofName "$b", .ofName "$c", .ofName "$f"] := by
    rw [references, toList_treeNodes]
    decide +kernel
  obtain ⟨e', s', he⟩ := hw guarded 254
  have hv : ([.ofIndex 254, .ofIndex 255], 0) = (e'.vars, s') := he.answers_eq
  obtain ⟨ha, rfl⟩ := Prod.mk.inj hv
  exact ⟨hn, hs ▸ hr [guarded], e', he, ha.symm⟩

end Expr

end WasmTree
