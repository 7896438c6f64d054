import Mathlib.Data.List.Induction
import WasmTree.Proofs.Expr.Walk
import WasmTree.Proofs.Folding.Recognition

/-!
The nodes of a folded body are the operators that do more than divide or close, in the order of the
body. A node lies as deep as structured operators were open when its operator was read.
-/

namespace WasmTree

def Mark.stands : Mark → Bool
  | opening _ | plain => true
  | otherwise | handler | close => false

def Opening.tag : Opening → Tag
  | block form => .block form
  | ifThen => .ifElse
  | tryBody => .tryCatch

def PlainOperator.tag? : PlainOperator → Option Tag
  | bare b => some (.bare b)
  | reference r _ => some (.reference r)
  | callIndirect .. => some .callIndirect
  | brTable .. => some .brTable
  | memory f _ => some (.memory f)
  | const _ => some .const
  | numeric n => some (.numeric n.form)
  | access m _ => some (.access m.form)
  | extension _ => none

def Operator.tag? : Operator → Option Tag
  | block form _ => some (.block form)
  | ifThen _ => some .ifElse
  | tryBody _ => some .tryCatch
  | elseBranch | catchTag _ | catchAll | finish => none
  | plain op => op.tag?

namespace Flat

def loc : Flat → Location
  | opening _ l _ | handler l _ | plain l _ => l
  | otherwise | close => .unknown

def tag? : Flat → Option Tag
  | opening o .. => some o.tag
  | plain _ i => some i.tag
  | otherwise | handler .. | close => none

end Flat

/-- How many structured instructions are open after `ms`. -/
def nesting (ms : List Mark) : Int := ms.countP Mark.opens - ms.countP (· = .close)

lemma nesting_append (ms ns : List Mark) : nesting (ms ++ ns) = nesting ms + nesting ns := by
  simp only [nesting, List.countP_append]
  omega

lemma nesting_eq_zero {ms : List Mark} (h : ms.countP Mark.opens = ms.countP (· = .close)) : nesting ms = 0 := by
  rw [nesting, h]
  omega

section Standing

variable {α : Type} (mark : α → Mark)

/-- What stands for a node, with the depth it lies at. -/
def standing (depth : Int) : List α → List (Int × α)
  | [] => []
  | a :: as =>
    (if (mark a).stands then [(depth, a)] else []) ++ standing (depth + nesting [mark a]) as

lemma standing_append (depth : Int) (as bs : List α) :
    standing mark depth (as ++ bs) =
      standing mark depth as ++ standing mark (depth + nesting (as.map mark)) bs := by
  induction as generalizing depth with
  | nil => simp [standing, nesting]
  | cons a as ih =>
    have hn : nesting ((a :: as).map mark) = nesting [mark a] + nesting (as.map mark) :=
      nesting_append [mark a] (as.map mark)
    rw [List.cons_append, standing, standing, ih, hn, List.append_assoc, Int.add_assoc]

lemma standing_eq (as : List α) :
    standing mark 0 as = (as.zipIdx.filter fun x => (mark x.1).stands).map fun x =>
      (nesting ((as.take x.2).map mark), x.1) := by
  induction as using List.reverseRecOn with
  | nil => rfl
  | append_singleton as a ih =>
    have ht : ∀ x ∈ as.zipIdx.filter fun x => (mark x.1).stands, (as ++ [a]).take x.2 = as.take x.2 := by
      intro x hx
      have hlt := (List.mem_zipIdx (List.mem_of_mem_filter hx)).2.1
      exact List.take_append_of_le_length (by omega)
    rw [standing_append, ih, List.zipIdx_append, List.filter_append, List.map_append]
    congr 1
    · apply List.map_congr_left
      intro x hx
      rw [ht x hx]
    · by_cases hs : (mark a).stands
      · simp [standing, hs]
      · simp [standing, hs]

lemma map_snd_standing_sublist (depth : Int) (as : List α) : ((standing mark depth as).map Prod.snd).Sublist as := by
  induction as generalizing depth with
  | nil => exact .slnil
  | cons a as ih =>
    by_cases hs : (mark a).stands
    · simpa [standing, hs] using ih _
    · simpa [standing, hs] using (ih _).cons a

end Standing

namespace Expr

open Grammar

lemma nesting_flat (e : Expr) : nesting (e.flat.map Flat.mark) = 0 :=
  nesting_eq_zero (derives_flat e).count

lemma nesting_flatList (l : List Expr) : nesting ((flatList l).map Flat.mark) = 0 :=
  nesting_eq_zero (derives_flatList fun e _ => derives_flat e).count

abbrev shownFlat (x : Int × Flat) : Int × Location × Option Tag := (x.1, x.2.loc, x.2.tag?)

abbrev shownNode (n : Nat × Expr) : Int × Location × Option Tag := (n.1, n.2.loc, some n.2.tag)

/-- Written flat from some depth on, a part of a tree shows the given nodes. -/
def Shows (depth : Nat) (xs : List Flat) (ns : List (Nat × Expr)) : Prop :=
  (standing Flat.mark depth xs).map shownFlat = ns.map shownNode

lemma Shows.append {d : Nat} {xs ys : List Flat} {ms ns : List (Nat × Expr)} (hx : Shows d xs ms)
    (hz : nesting (xs.map Flat.mark) = 0) (hy : Shows d ys ns) : Shows d (xs ++ ys) (ms ++ ns) := by
  rw [Shows, standing_append, hz, Int.add_zero, List.map_append, List.map_append]
  exact congrArg₂ (· ++ ·) hx hy

lemma Shows.enclosed {d : Nat} {o : Opening} {l : Location} {sig : List ValueType} {xs : List Flat} {e : Expr}
    {ns : List (Nat × Expr)} (h : Shows (d + 1) xs ns) (hl : e.loc = l) (ht : e.tag = o.tag) :
    Shows d (.opening o l sig :: xs ++ [.close]) ((d, e) :: ns) := by
  subst hl
  have ho : nesting [Mark.opening o] = 1 := rfl
  have hc (k : Int) : standing Flat.mark k [.close] = [] := rfl
  rw [Shows, List.cons_append, standing, standing_append, hc]
  simp only [Flat.mark, Mark.stands, if_true, ho, List.append_nil, List.singleton_append, List.map_cons]
  have he : shownFlat (d, .opening o e.loc sig) = shownNode (d, e) := by
    rw [shownNode, ht]
    rfl
  exact congrArg₂ List.cons he h

lemma shows_flatList {d : Nat} {l : List Expr} (h : ∀ e ∈ l, Shows d e.flat (nodes d e)) :
    Shows d (flatList l) (l.flatMap (nodes d)) := by
  induction l with
  | nil => rfl
  | cons e l ih =>
    rw [flatList_cons, List.flatMap_cons]
    exact (h e (by simp)).append (nesting_flat e) (ih fun e he => h e (by simp [he]))

lemma shows_flatHandlers {d : Nat} {hs : List (Handler Expr)}
    (h : ∀ c ∈ hs, ∀ e ∈ c.body, Shows d e.flat (nodes d e)) :
    Shows d (flatHandlers hs) ((hs.map Handler.body).flatMap fun l => l.flatMap (nodes d)) := by
  induction hs with
  | nil =>
    rw [flatHandlers]
    rfl
  | cons c hs ih =>
    rcases c with ⟨loc, var, body⟩
    have hb : Shows d (flatList body) (body.flatMap (nodes d)) := shows_flatList (h ⟨loc, var, body⟩ (by simp))
    have hr := ih fun c hc => h c (by simp [hc])
    have hm : Shows d (.handler loc var :: flatList body) (body.flatMap (nodes d)) := hb
    have hz : nesting ((Flat.handler loc var :: flatList body).map Flat.mark) = 0 := by
      rw [List.map_cons, ← List.singleton_append, nesting_append, nesting_flatList]
      rfl
    rw [flatHandlers]
    exact hm.append hz hr

theorem shows_flat (e : Expr) (d : Nat) : Shows d e.flat (nodes d e) := by
  induction e using Expr.nested_induction generalizing d with
  | step e ih =>
    rw [nodes_eq]
    have hl (l : List Expr) (hl : l ∈ e.children) : Shows (d + 1) (flatList l) (l.flatMap (nodes (d + 1))) :=
      shows_flatList fun x hx => ih l hl x hx (d + 1)
    cases e with
    | plain loc i =>
      rw [flat]
      rfl
    | block loc form heading body =>
      have hb := hl body (by simp [children])
      rw [flat]
      refine Shows.enclosed ?_ rfl rfl
      simpa [children] using hb
    | ifElse loc heading yes no =>
      have hy := hl yes (by simp [children])
      rw [flat, List.cons_append]
      refine Shows.enclosed ?_ rfl rfl
      cases no with
      | none => simpa [children, flatElse] using hy
      | some no =>
        have hn := hl no (by simp [children])
        have ho : Shows (d + 1) (.otherwise :: flatList no) (no.flatMap (nodes (d + 1))) := hn
        simpa [children, flatElse] using hy.append (nesting_flatList yes) ho
    | tryCatch loc heading body hs =>
      have hb := hl body (by simp [children])
      have hh : Shows (d + 1) (flatHandlers hs) _ := shows_flatHandlers fun c hc x hx =>
        ih c.body (List.mem_cons_of_mem _ (List.mem_map_of_mem hc)) x hx (d + 1)
      rw [flat, List.cons_append]
      refine Shows.enclosed ?_ rfl rfl
      simpa [children] using hb.append (nesting_flatList body) hh

lemma shows_flatBody (l : List Expr) : Shows 0 (flatBody l) (treeNodes l).toList := by
  have h : Shows 0 (flatList l) (l.flatMap (nodes 0)) := shows_flatList fun e _ => shows_flat e 0
  have hc : Shows 0 [.close] [] := rfl
  rw [toList_treeNodes, preorder, flatBody]
  simpa using h.append (nesting_flatList l) hc

end Expr

namespace Folding

open WasmTree.Expr

lemma tag_of_yields {s : FoldSetting} {loc : Location} {op : Operator} {x : Flat} (h : op.Yields s loc x) :
    x.tag? = op.tag? ∧ (x.mark.stands → x.loc = loc) := by
  cases h with
  | plain hi =>
    refine ⟨?_, fun _ => rfl⟩
    cases hi <;> rfl
  | block | ifThen | tryBody => exact ⟨rfl, fun _ => rfl⟩
  | elseBranch | catchTag | catchAll | finish => exact ⟨rfl, nofun⟩

lemma standing_of_forall {s : FoldSetting} {ops : List (Location × Operator)} {xs : List Flat}
    (h : List.Forall₂ (Resolves s) ops xs) (d : Int) :
    (standing Flat.mark d xs).map shownFlat =
      (standing (fun p : Location × Operator => p.2.mark) d ops).map fun x => (x.1, x.2.1, x.2.2.tag?) := by
  induction h generalizing d with
  | nil => rfl
  | @cons p x ops xs hx _ ih =>
    have hy := Operator.resolve_eq_ok.mp hx
    obtain ⟨ht, hl⟩ := tag_of_yields hy
    have hm := mark_of_yields hy
    rw [standing, standing, List.map_append, List.map_append, ih, hm]
    rw [hm] at hl
    cases hs : p.2.mark.stands with
    | false => rfl
    | true => simp [ht, hl hs]

lemma treeNodes_eq_standing {s : FoldSetting} {ops : List (Location × Operator)} {l : List Expr}
    (h : fold s ops = .ok l) :
    (treeNodes l).toList.map shownNode =
      (standing (fun p : Location × Operator => p.2.mark) 0 ops).map fun x => (x.1, x.2.1, x.2.2.tag?) := by
  obtain ⟨xs, hxs, hr⟩ := fold_eq_ok.mp h
  obtain rfl := flatBody_of_addsAll hr
  rw [← standing_of_forall hxs]
  exact (shows_flatBody l).symm

lemma locs_sublist {s : FoldSetting} {ops : List (Location × Operator)} {l : List Expr} (h : fold s ops = .ok l) :
    ((treeNodes l).toList.map fun n => n.2.loc).Sublist (ops.map Prod.fst) := by
  have hl := congrArg (List.map fun x => x.2.1) (treeNodes_eq_standing h)
  have hs := (map_snd_standing_sublist (fun p : Location × Operator => p.2.mark) 0 ops).map Prod.fst
  rw [List.map_map, List.map_map] at hl
  rw [List.map_map] at hs
  exact hl ▸ hs

lemma tag_mem {s : FoldSetting} {ops : List (Location × Operator)} {l : List Expr} (h : fold s ops = .ok l)
    {n : Nat × Expr} (hn : n ∈ (treeNodes l).toList) : ∃ p ∈ ops, p.2.tag? = some n.2.tag := by
  have hm : shownNode n ∈ (treeNodes l).toList.map shownNode := List.mem_map_of_mem hn
  rw [treeNodes_eq_standing h] at hm
  obtain ⟨x, hx, he⟩ := List.mem_map.mp hm
  have hs := (map_snd_standing_sublist (fun p : Location × Operator => p.2.mark) 0 ops).subset
  refine ⟨x.2, hs (List.mem_map_of_mem hx), ?_⟩
  exact congrArg (fun y => y.2.2) he

end Folding

end WasmTree
