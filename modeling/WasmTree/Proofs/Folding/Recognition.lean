import WasmTree.Proofs.Folding.Admission
import WasmTree.Proofs.Folding.Consumed
import WasmTree.Proofs.Folding.Grammar

/-! The folder accepts exactly the bodies of the grammar whose operators are admissible. -/

namespace WasmTree

namespace Frame

def TakesHandlers (f : Frame) : Prop :=
  f.kind = .tryBody ∨ ∃ body before loc var, f.kind = .handler body before loc var

lemma exists_node {f : Frame} (h : f.kind ≠ .body) : ∃ e, f.node? = some e := by
  rcases f with ⟨kind, loc, sig, filled⟩
  cases kind <;> simp [node?] at h ⊢

lemma TakesHandlers.continues {f : Frame} (h : f.TakesHandlers) (loc : Location) (var : Var) :
    ∃ g, f.Continues (.handler loc var) g ∧ g.TakesHandlers := by
  rcases f with ⟨kind, l, sig, filled⟩
  rcases h with rfl | ⟨body, before, l', v', rfl⟩
  · exact ⟨_, .firstHandler loc var, Or.inr ⟨_, _, _, _, rfl⟩⟩
  · exact ⟨_, .nextHandler loc var, Or.inr ⟨_, _, _, _, rfl⟩⟩

lemma TakesHandlers.kind_ne {f : Frame} (h : f.TakesHandlers) : f.kind ≠ .body := by
  rcases h with h | ⟨_, _, _, _, h⟩ <;> simp [h]

end Frame

namespace Folding

open Grammar

/-- Whatever is open, the marks take effect in the innermost frame and leave it open. -/
def Fills (xs : List Flat) : Prop :=
  ∀ top below finished, ∃ top', AddsAll ⟨top :: below, finished⟩ xs ⟨top' :: below, finished⟩ ∧
    top'.kind = top.kind

def Handles (xs : List Flat) : Prop :=
  ∀ top below finished, top.TakesHandlers →
    ∃ top', AddsAll ⟨top :: below, finished⟩ xs ⟨top' :: below, finished⟩ ∧ top'.TakesHandlers

def Accepts : Symbol → List Flat → Prop
  | .instr, xs | .instrs, xs => Fills xs
  | .handlers, xs => Handles xs
  | .body, xs => ∃ l, AddsAll .start xs ⟨[], some l⟩

lemma Fills.append {xs ys : List Flat} (hx : Fills xs) (hy : Fills ys) : Fills (xs ++ ys) := by
  intro top below finished
  obtain ⟨top₁, h₁, hk₁⟩ := hx top below finished
  obtain ⟨top₂, h₂, hk₂⟩ := hy top₁ below finished
  exact ⟨top₂, h₁.append h₂, hk₂.trans hk₁⟩

lemma fills_enclosed {o : Opening} {loc : Location} {sig : List ValueType} {xs : List Flat}
    (h : ∀ below finished, ∃ top, AddsAll ⟨.opened o loc sig :: below, finished⟩ xs ⟨top :: below, finished⟩ ∧
      top.kind ≠ .body) :
    Fills (.opening o loc sig :: xs ++ [.close]) := by
  intro top below finished
  obtain ⟨inner, hr, hk⟩ := h (top :: below) finished
  obtain ⟨e, he⟩ := Frame.exists_node hk
  exact ⟨top.push e, .cons (.opening o loc sig) (hr.append (.single (.closeNode he))), rfl⟩

lemma mark_eq_opening_iff {x : Flat} {o : Opening} :
    x.mark = .opening o ↔ ∃ loc sig, x = .opening o loc sig := by
  cases x <;> simp [Flat.mark]

lemma mark_eq_otherwise_iff {x : Flat} : x.mark = .otherwise ↔ x = .otherwise := by
  cases x <;> simp [Flat.mark]

lemma mark_eq_handler_iff {x : Flat} : x.mark = .handler ↔ ∃ loc var, x = .handler loc var := by
  cases x <;> simp [Flat.mark]

lemma mark_eq_close_iff {x : Flat} : x.mark = .close ↔ x = .close := by
  cases x <;> simp [Flat.mark]

lemma mark_eq_plain_iff {x : Flat} : x.mark = .plain ↔ ∃ loc i, x = .plain loc i := by
  cases x <;> simp [Flat.mark]

lemma map_mark_enclosed {xs : List Flat} {o : Opening} {ms : List Mark}
    (h : xs.map Flat.mark = .opening o :: ms ++ [.close]) :
    ∃ loc sig inner, xs = .opening o loc sig :: inner ++ [.close] ∧ inner.map Flat.mark = ms := by
  obtain ⟨front, last, rfl, hf, hl⟩ := List.map_eq_append_iff.mp h
  obtain ⟨x, inner, rfl, hx, hi⟩ := List.map_eq_cons_iff.mp hf
  obtain ⟨c, rfl, hc⟩ := List.map_eq_singleton_iff.mp hl
  obtain ⟨loc, sig, rfl⟩ := mark_eq_opening_iff.mp hx
  obtain rfl := mark_eq_close_iff.mp hc
  exact ⟨loc, sig, inner, rfl, hi⟩

theorem accepts_of_derives {σ : Symbol} {ms : List Mark} (h : Derives σ ms) :
    ∀ xs : List Flat, xs.map Flat.mark = ms → Accepts σ xs := by
  -- Instructions keep the kind of the frame they fill. A handler changes it, so that a sequence of
  -- handlers is only known to leave a frame that takes another one.
  induction h with
  | plain =>
    intro xs hxs top below finished
    obtain ⟨x, rfl, hx⟩ := List.map_eq_singleton_iff.mp hxs
    obtain ⟨loc, i, rfl⟩ := mark_eq_plain_iff.mp hx
    exact ⟨_, .single (.within (.plain loc i)), rfl⟩
  | block form hb ih =>
    intro xs hx
    obtain ⟨loc, sig, inner, rfl, hi⟩ := map_mark_enclosed hx
    refine fills_enclosed fun below finished => ?_
    obtain ⟨top, hr, hk⟩ := ih inner hi (.opened (.block form) loc sig) below finished
    exact ⟨top, hr, by simp [hk, Frame.opened, Frame.start]⟩
  | ifThen hy ih =>
    intro xs hx
    obtain ⟨loc, sig, inner, rfl, hi⟩ := map_mark_enclosed hx
    refine fills_enclosed fun below finished => ?_
    obtain ⟨top, hr, hk⟩ := ih inner hi (.opened .ifThen loc sig) below finished
    exact ⟨top, hr, by simp [hk, Frame.opened, Frame.start]⟩
  | ifElse hy hn ihy ihn =>
    intro xs hxs
    obtain ⟨loc, sig, inner, rfl, hi⟩ := map_mark_enclosed hxs
    obtain ⟨yes, rest, rfl, hyes, hrest⟩ := List.map_eq_append_iff.mp hi
    obtain ⟨x, no, rfl, hx, hno⟩ := List.map_eq_cons_iff.mp hrest
    obtain rfl := mark_eq_otherwise_iff.mp hx
    refine fills_enclosed fun below finished => ?_
    obtain ⟨⟨kind, loc', sig', filled⟩, hr, hk⟩ := ihy yes hyes (.opened .ifThen loc sig) below finished
    obtain rfl : kind = .ifYes := hk
    obtain ⟨top, hr', hk'⟩ := ihn no hno ⟨.ifNo filled.toList, loc', sig', #[]⟩ below finished
    exact ⟨top, hr.append (.cons (.within .otherwise) hr'), by simp [hk']⟩
  | tryCatch hb hh ihb ihh =>
    intro xs hx
    obtain ⟨loc, sig, inner, rfl, hi⟩ := map_mark_enclosed hx
    obtain ⟨body, handlers, rfl, hbody, hhandlers⟩ := List.map_eq_append_iff.mp hi
    refine fills_enclosed fun below finished => ?_
    obtain ⟨top, hr, hk⟩ := ihb body hbody (.opened .tryBody loc sig) below finished
    obtain ⟨top', hr', ht⟩ := ihh handlers hhandlers top below finished (Or.inl hk)
    exact ⟨top', hr.append hr', ht.kind_ne⟩
  | noHandler =>
    intro xs hx top below finished ht
    obtain rfl := List.map_eq_nil_iff.mp hx
    exact ⟨top, .nil, ht⟩
  | handler hb hh ihb ihh =>
    intro xs hxs top below finished ht
    obtain ⟨front, rest, rfl, hf, hrest⟩ := List.map_eq_append_iff.mp hxs
    obtain ⟨x, body, rfl, hx, hbody⟩ := List.map_eq_cons_iff.mp hf
    obtain ⟨loc, var, rfl⟩ := mark_eq_handler_iff.mp hx
    obtain ⟨top₁, hc, ht₁⟩ := ht.continues loc var
    obtain ⟨top₂, hr₂, hk₂⟩ := ihb body hbody top₁ below finished
    have ht₂ : top₂.TakesHandlers := by simpa only [Frame.TakesHandlers, hk₂] using ht₁
    obtain ⟨top₃, hr₃, ht₃⟩ := ihh rest hrest top₂ below finished ht₂
    exact ⟨top₃, .cons (.within hc) (hr₂.append hr₃), ht₃⟩
  | noInstr =>
    intro xs hx top below finished
    obtain rfl := List.map_eq_nil_iff.mp hx
    exact ⟨top, .nil, rfl⟩
  | instr hf hr ihf ihr =>
    intro xs hx
    obtain ⟨first, rest, rfl, hfirst, hrest⟩ := List.map_eq_append_iff.mp hx
    exact (ihf first hfirst).append (ihr rest hrest)
  | body hi ih =>
    intro xs hxs
    obtain ⟨instrs, last, rfl, hinstrs, hlast⟩ := List.map_eq_append_iff.mp hxs
    obtain ⟨x, rfl, hx⟩ := List.map_eq_singleton_iff.mp hlast
    obtain rfl := mark_eq_close_iff.mp hx
    obtain ⟨⟨kind, loc, sig, filled⟩, hr, hk⟩ := ih instrs hinstrs (.start .body .unknown []) [] none
    obtain rfl : kind = .body := hk
    exact ⟨filled.toList, hr.append (.single (.closeBody rfl))⟩

lemma mark_of_yields {s : FoldSetting} {loc : Location} {op : Operator} {x : Flat} (h : op.Yields s loc x) :
    x.mark = op.mark := by
  cases h <;> rfl

lemma marks_of_forall {s : FoldSetting} {ops : List (Location × Operator)} {xs : List Flat}
    (h : List.Forall₂ (Resolves s) ops xs) : xs.map Flat.mark = ops.map fun p => p.2.mark := by
  induction h with
  | nil => rfl
  | cons hx _ ih => simp [mark_of_yields (Operator.resolve_eq_ok.mp hx), ih]

lemma exists_forall_resolves {s : FoldSetting} {ops : List (Location × Operator)} :
    (∃ xs, List.Forall₂ (Resolves s) ops xs) ↔ ∀ p ∈ ops, p.2.Admissible s := by
  induction ops with
  | nil => simp
  | cons p ops ih =>
    rw [List.forall_mem_cons, ← ih, ← Operator.exists_resolve p.1]
    constructor
    · rintro ⟨_, h⟩
      cases h with
      | cons hx hxs => exact ⟨⟨_, hx⟩, _, hxs⟩
    · rintro ⟨⟨x, hx⟩, xs, hxs⟩
      exact ⟨x :: xs, .cons hx hxs⟩

lemma fold_iff_derives {s : FoldSetting} {ops : List (Location × Operator)} :
    (∃ l, fold s ops = .ok l) ↔
      Derives .body (ops.map fun p => p.2.mark) ∧ ∀ p ∈ ops, p.2.Admissible s := by
  constructor
  · rintro ⟨l, h⟩
    obtain ⟨xs, hxs, hr⟩ := fold_eq_ok.mp h
    refine ⟨?_, exists_forall_resolves.mp ⟨xs, hxs⟩⟩
    rw [← marks_of_forall hxs, flatBody_of_addsAll hr]
    exact derives_flatBody l
  · rintro ⟨hd, ha⟩
    obtain ⟨xs, hxs⟩ := exists_forall_resolves.mpr ha
    obtain ⟨l, hr⟩ := accepts_of_derives hd xs (marks_of_forall hxs)
    exact ⟨l, fold_eq_ok.mpr ⟨xs, hxs, hr⟩⟩

/-- Once the body is finished, a frame that is opened has nothing below to close into. -/
lemma Adds.stranded {f g : Folding} {x : Flat} (h : Adds f x g) (hg : Grounded f.finished f.frames)
    (hf : f.finished.isSome) : g.finished.isSome ∧ g.frames ≠ [] := by
  cases h with
  | opening o loc sig => exact ⟨hf, by simp⟩
  | within hc => exact ⟨hf, by simp⟩
  | closeBody hn =>
    rcases hg with ⟨_, _, hnone⟩ | ⟨hne, _⟩
    · simp only at hnone hf
      simp [hnone] at hf
    · exact absurd hn hne
  | closeNode hn => exact ⟨hf, by simp⟩

lemma AddsAll.stranded {f g : Folding} {xs : List Flat} (h : AddsAll f xs g)
    (hg : Grounded f.finished f.frames) (hf : f.finished.isSome) (hx : xs ≠ []) : g.frames ≠ [] := by
  induction h with
  | nil => exact absurd rfl hx
  | cons ha hr ih =>
    obtain ⟨hs, hne⟩ := ha.stranded hg hf
    cases hr with
    | nil => exact hne
    | cons => exact ih (ha.grounded hg) hs (by simp)

lemma fold_append_ne_ok {s : FoldSetting} {ops more : List (Location × Operator)} {l : List Expr}
    (hd : Derives .body (ops.map fun p => p.2.mark)) (hm : more ≠ []) : fold s (ops ++ more) ≠ .ok l := by
  intro h
  simp only [fold, run, List.foldlM_append, Reading.bind_eq_ok] at h
  obtain ⟨f, ⟨g, hg, hmore⟩, hf⟩ := h
  obtain rfl := finish_eq_ok.mp hf
  obtain ⟨xs, hxs, hr⟩ := run_eq_ok.mp hg
  obtain ⟨l', hr'⟩ := accepts_of_derives hd xs (marks_of_forall hxs)
  obtain rfl : g = ⟨[], some l'⟩ := Except.ok.inj (hg.symm.trans (run_eq_ok.mpr ⟨xs, hxs, hr'⟩))
  obtain ⟨ys, hys, hrest⟩ := run_eq_ok.mp hmore
  have hne : ys ≠ [] := by
    rintro rfl
    exact hm (List.forall₂_nil_right_iff.mp hys)
  exact hrest.stranded (by simp [Grounded]) rfl hne rfl

/-- The folder accepts a sequence of operators exactly when it derives as a body and each operator is
admissible on its own. Such a sequence closes everything it opens and itself, and cannot be continued. -/
theorem exists_fold_iff (s : FoldSetting) (ops : List (Location × Operator)) :
    ((∃ l, fold s ops = .ok l) ↔
        Derives .body (ops.map fun p => p.2.mark) ∧ ∀ p ∈ ops, p.2.Admissible s) ∧
      ((∃ l, fold s ops = .ok l) →
        ops.countP (fun p => p.2.mark.opens) + 1 = ops.countP fun p => p.2.mark = .close) ∧
      ∀ more l, Derives .body (ops.map fun p => p.2.mark) → more ≠ [] → fold s (ops ++ more) ≠ .ok l := by
  refine ⟨fold_iff_derives, ?_, fun more l => fold_append_ne_ok⟩
  intro h
  simpa only [List.countP_map, Function.comp_def] using (fold_iff_derives.mp h).1.balanced

def emptyBody : List (Location × Operator) := [(.binary 1, .finish)]

def reopened : List (Location × Operator) := [(.binary 2, .block .loop .empty), (.binary 3, .finish)]

theorem fold_reopened_ne_ok :
    (∃ l, fold ⟨#[], true⟩ emptyBody = .ok l) ∧ Derives .body (emptyBody.map fun p => p.2.mark) ∧
      reopened ≠ [] ∧ ∀ l, fold ⟨#[], true⟩ (emptyBody ++ reopened) ≠ .ok l := by
  obtain ⟨hiff, -, hmore⟩ := exists_fold_iff ⟨#[], true⟩ emptyBody
  have hd : Derives .body (emptyBody.map fun p => p.2.mark) := .body .noInstr
  have hr : reopened ≠ [] := by simp [reopened]
  refine ⟨hiff.mpr ⟨hd, ?_⟩, hd, hr, fun l => hmore reopened l hd hr⟩
  intro p hp
  obtain rfl := List.mem_singleton.mp hp
  trivial

end Folding

end WasmTree
