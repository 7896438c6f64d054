import WasmTree.Proofs.Folding.Transitions

/-! The marks that the open frames stand for. Each transition adds the mark it takes in, and nothing
else. -/

namespace WasmTree

open WasmTree.Expr

namespace Frame

/-- What was taken in since the frame was opened, with the mark that opened it. -/
def flat (f : Frame) : List Flat :=
  match f.kind with
  | .body => flatList f.filled.toList
  | .block form => .opening (.block form) f.loc f.sig :: flatList f.filled.toList
  | .ifYes => .opening .ifThen f.loc f.sig :: flatList f.filled.toList
  | .ifNo yes => .opening .ifThen f.loc f.sig :: flatList yes ++ .otherwise :: flatList f.filled.toList
  | .tryBody => .opening .tryBody f.loc f.sig :: flatList f.filled.toList
  | .handler body before loc var =>
    .opening .tryBody f.loc f.sig :: flatList body ++ flatHandlers before.toList ++
      .handler loc var :: flatList f.filled.toList

lemma flat_push (f : Frame) (e : Expr) : (f.push e).flat = f.flat ++ e.flat := by
  rcases f with ⟨kind, loc, sig, filled⟩
  cases kind <;> simp [flat, push]

lemma flat_opened (o : Opening) (loc : Location) (sig : List ValueType) :
    (opened o loc sig).flat = [.opening o loc sig] := by
  cases o <;> simp [opened, start, flat]

lemma flat_node {f : Frame} {e : Expr} (h : f.node? = some e) : e.flat = f.flat ++ [.close] := by
  rcases f with ⟨kind, loc, sig, filled⟩
  cases kind <;> simp only [node?, Option.some.injEq, reduceCtorEq] at h <;> subst h <;>
    simp [flat, Expr.flat, flatElse, flatHandlers]

lemma Continues.flat_eq {f g : Frame} {x : Flat} (h : f.Continues x g) : g.flat = f.flat ++ [x] := by
  cases h with
  | otherwise => simp [flat]
  | firstHandler l v => simp [flat, flatHandlers]
  | nextHandler l v => simp [flat, flatHandlers]
  | plain loc i => simp [flat_push, Expr.flat]

lemma node_push_eq_none_iff {f : Frame} {e : Expr} : (f.push e).node? = none ↔ f.node? = none := by
  rcases f with ⟨kind, loc, sig, filled⟩
  cases kind <;> simp [node?, push]

lemma Continues.node_eq_none_iff {f g : Frame} {x : Flat} (h : f.Continues x g) :
    g.node? = none ↔ f.node? = none := by
  cases h with
  | otherwise => simp [node?]
  | firstHandler l v => simp [node?]
  | nextHandler l v => simp [node?]
  | plain loc i => exact node_push_eq_none_iff

lemma node_opened_ne_none (o : Opening) (loc : Location) (sig : List ValueType) :
    (opened o loc sig).node? ≠ none := by
  cases o <;> simp [opened, start, node?]

lemma flat_of_node_eq_none {f : Frame} (h : f.node? = none) : f.flat = flatList f.filled.toList := by
  rcases f with ⟨kind, loc, sig, filled⟩
  cases kind <;> simp only [node?, reduceCtorEq] at h
  rfl

end Frame

namespace Folding

def stackFlat : List Frame → List Flat
  | [] => []
  | f :: below => stackFlat below ++ f.flat

def consumed (f : Folding) : List Flat := f.finished.elim [] flatBody ++ stackFlat f.frames

/-- The frame of the whole body is the outermost one, and open until the body is finished. -/
def Grounded (finished : Option (List Expr)) : List Frame → Prop
  | [] => finished.isSome
  | f :: below => (f.node? = none ∧ below = [] ∧ finished = none) ∨ (f.node? ≠ none ∧ Grounded finished below)

lemma grounded_cons_congr {finished : Option (List Expr)} {f g : Frame} {below : List Frame}
    (h : g.node? = none ↔ f.node? = none) :
    Grounded finished (g :: below) ↔ Grounded finished (f :: below) := by
  simp only [Grounded, ne_eq, h]

lemma grounded_start : Grounded start.finished start.frames := by
  simp [start, Grounded, Frame.start, Frame.node?]

lemma Adds.grounded {f g : Folding} {x : Flat} (h : Adds f x g) (hf : Grounded f.finished f.frames) :
    Grounded g.finished g.frames := by
  cases h with
  | opening o loc sig => exact Or.inr ⟨Frame.node_opened_ne_none o loc sig, hf⟩
  | within hc => exact (grounded_cons_congr hc.node_eq_none_iff).mpr hf
  | closeBody hn =>
    rcases hf with ⟨_, rfl, _⟩ | ⟨hne, _⟩
    · rfl
    · exact absurd hn hne
  | closeNode hn =>
    rcases hf with ⟨hnone, _⟩ | ⟨_, hb⟩
    · simp [hn] at hnone
    · exact (grounded_cons_congr Frame.node_push_eq_none_iff).mpr hb

lemma Adds.consumed {f g : Folding} {x : Flat} (h : Adds f x g) (hf : Grounded f.finished f.frames) :
    g.consumed = f.consumed ++ [x] := by
  cases h with
  | opening o loc sig => simp [Folding.consumed, stackFlat, Frame.flat_opened]
  | within hc => simp [Folding.consumed, stackFlat, hc.flat_eq]
  | closeBody hn =>
    rcases hf with ⟨_, hb, hfin⟩ | ⟨hne, _⟩
    · simp only at hb hfin
      simp [Folding.consumed, stackFlat, hb, hfin, Frame.flat_of_node_eq_none hn, flatBody]
    · exact absurd hn hne
  | closeNode hn => simp [Folding.consumed, stackFlat, Frame.flat_push, Frame.flat_node hn]

lemma AddsAll.consumed {f g : Folding} {xs : List Flat} (h : AddsAll f xs g)
    (hf : Grounded f.finished f.frames) : g.consumed = f.consumed ++ xs := by
  induction h with
  | nil => simp
  | cons ha _ ih => simp [ih (ha.grounded hf), ha.consumed hf]

theorem flatBody_of_addsAll {xs : List Flat} {l : List Expr} (h : AddsAll start xs ⟨[], some l⟩) :
    xs = flatBody l := by
  simpa [consumed, stackFlat, start, Frame.start, Frame.flat] using (h.consumed grounded_start).symm

end Folding

end WasmTree
