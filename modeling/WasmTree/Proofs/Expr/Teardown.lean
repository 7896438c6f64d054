import WasmTree.Expr.Teardown
import WasmTree.Proofs.Expr.Addresses

/-!
Taking a tree apart lets go of every node there is once, and of none together with another. The nodes
are popped in the pre-order of the mirrored tree: each before those nested in it and after those that
follow it.
-/

namespace WasmTree.Expr

def mirrored (e : Expr) : List Expr :=
  e :: e.children.reverse.attach.flatMap fun ⟨l, hl⟩ => l.reverse.attach.flatMap fun ⟨x, hx⟩ =>
    have := sizeOf_lt_of_mem_children (List.mem_reverse.mp hl) (List.mem_reverse.mp hx)
    mirrored x
termination_by sizeOf e

lemma mirrored_eq (e : Expr) :
    mirrored e = e :: e.children.reverse.flatMap fun l => l.reverse.flatMap mirrored := by
  rw [mirrored]
  simp only [List.flatMap_subtype, List.unattach_attach]

lemma mirrored_eq_flatten (e : Expr) : mirrored e = e :: e.children.flatten.reverse.flatMap mirrored := by
  rw [mirrored_eq, List.reverse_flatten, List.flatten_eq_flatMap, List.flatMap_assoc, ← List.map_reverse,
    List.flatMap_map]
  rfl

section Addresses

lemma below?_eq (e : Expr) (p : List Nat) :
    below? e p = if p = [] then some e else indexed e.children (fun l => indexed l below?) p := by
  rcases p with _ | ⟨j, _ | ⟨i, p⟩⟩
  · rfl
  · cases h : e.children[j]? <;> simp [below?, indexed, h]
  · rw [if_neg (List.cons_ne_nil _ _), below?, part?_eq, indexed, Option.bind_assoc]
    rfl

lemma at?_eq (l : List Expr) : at? l = indexed l below? := by
  funext p
  cases p <;> rfl

lemma exists_enumerates_mirrored (e : Expr) : ∃ ps, Enumerates (List.Lex (· > ·)) (below? e) ps (mirrored e) := by
  induction e using nested_induction with
  | step e ih =>
    have hc := exists_enumerates_indexed_reverse fun l hl => exists_enumerates_indexed_reverse fun x hx => ih l hl x hx
    obtain ⟨ps, hp⟩ := hc
    rw [mirrored_eq]
    exact ⟨_, exists_enumerates_cons hp (below?_eq e) rfl⟩

lemma exists_enumerates_reverse (l : List Expr) :
    ∃ ps, Enumerates (List.Lex (· > ·)) (at? l) ps (l.reverse.flatMap mirrored) := by
  rw [at?_eq]
  exact exists_enumerates_indexed_reverse fun e _ => exists_enumerates_mirrored e

lemma ncard_at? (l : List Expr) : {p | (at? l p).isSome}.ncard = treeLength l := by
  obtain ⟨ps, hp⟩ := exists_enumerates_preorder l
  have hs : {p | (at? l p).isSome} = {p | (visit? l p).isSome} := by
    simp only [visit?, Option.isSome_map]
  rw [hs, hp.ncard_eq, treeLength, ← toList_treeNodes, Array.length_toList]

end Addresses

lemma children_takeChildren (e : Expr) (work : Array Expr) :
    (e.takeChildren work).1.children = e.children.map fun _ => [] := by
  cases e with
  | ifElse loc heading yes no => cases no <;> rfl
  | tryCatch => simp [takeChildren, children]
  | _ => rfl

/-- A work-list is used up by these pops: each node is paired with what is left of it when it is let go. -/
inductive Empties : Array Expr → List (Expr × Expr) → Prop
  | done {work} : work.back? = none → Empties work []
  | pop {work e ns} : work.back? = some e → Empties (e.takeChildren work.pop).2 ns →
    Empties work ((e, (e.takeChildren work.pop).1) :: ns)

/-- What is let go has every sequence of the node that was popped, but empty, so that none needs a pop. -/
structure Shallow (popped gone : Expr) : Prop where
  children_eq : gone.children = popped.children.map fun _ => []
  empties : ∀ l ∈ gone.children, Empties l.toArray []

lemma shallow_takeChildren (e : Expr) (work : Array Expr) : Shallow e (e.takeChildren work).1 where
  children_eq := children_takeChildren e work
  empties l hl := by
    rw [children_takeChildren] at hl
    obtain ⟨_, -, rfl⟩ := List.mem_map.mp hl
    exact .done rfl

namespace Empties

variable {work : Array Expr} {ns : List (Expr × Expr)}

lemma shallow (h : Empties work ns) : ∀ n ∈ ns, Shallow n.1 n.2 := by
  induction h with
  | done => exact List.forall_mem_nil _
  | @pop work e ns _ _ ih => exact List.forall_mem_cons.mpr ⟨shallow_takeChildren e work.pop, ih⟩

lemma map_fst (h : Empties work ns) : ns.map Prod.fst = work.toList.reverse.flatMap mirrored := by
  induction h with
  | done hw =>
    rw [Array.back?_eq_none_iff.mp hw]
    rfl
  | pop hw _ ih =>
    obtain ⟨rest, rfl⟩ := Array.back?_eq_some_iff.mp hw
    rw [List.map_cons, ih, toList_takeChildren, Array.pop_push, Array.toList_push, List.reverse_concat,
      List.flatMap_cons, mirrored_eq_flatten, List.reverse_append, List.flatMap_append, List.cons_append]

end Empties

lemma exists_empties (work gone : Array Expr) :
    ∃ ns, Empties work ns ∧ (teardown work gone).toList = gone.toList ++ ns.map Prod.snd := by
  fun_induction teardown work gone with
  | case1 work gone hw => exact ⟨[], .done hw, by simp⟩
  | case2 work gone e hw step ih =>
    obtain ⟨ns, hn, ht⟩ := ih
    exact ⟨_, .pop hw hn, by simp [ht, step]⟩

/-- Taking a sequence apart comes to its end after as many pops as there are nodes. Every node is popped
once, before the nodes nested in it and after those that follow it, and is let go without any of them. -/
theorem emptied_teardown (l : List Expr) :
    ∃ ns, Empties l.toArray ns ∧ (teardown l.toArray #[]).toList = ns.map Prod.snd ∧ ns.length = treeLength l ∧
      (∃ ps, Enumerates (List.Lex (· > ·)) (at? l) ps (ns.map Prod.fst)) ∧
      ∀ n ∈ ns, Shallow n.1 n.2 := by
  obtain ⟨ns, hn, ht⟩ := exists_empties l.toArray #[]
  obtain ⟨ps, hp⟩ := exists_enumerates_reverse l
  rw [← hn.map_fst] at hp
  refine ⟨ns, hn, ht, ?_, ⟨ps, hp⟩, hn.shallow⟩
  rw [← ncard_at?, hp.ncard_eq, List.length_map]

end WasmTree.Expr
