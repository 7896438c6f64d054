import Mathlib.Tactic.Lemma
import WasmTree.Expr.Traversal

/-! A walk with a stack of its own meets the nodes of a tree in pre-order. -/

namespace WasmTree.Expr

lemma nodes_eq (d : Nat) (e : Expr) :
    nodes d e = (d, e) :: e.children.flatMap fun l => l.flatMap (nodes (d + 1)) := by
  rw [nodes]
  simp only [List.flatMap_subtype, List.unattach_attach]

lemma flatMap_children (d : Nat) (e : Expr) :
    (e.children.map (d + 1, ·)).flatMap (fun p => p.2.flatMap (nodes p.1)) =
      e.children.flatMap fun l => l.flatMap (nodes (d + 1)) := by
  rw [List.flatMap_map]

theorem walk_eq (stack : List (Nat × List Expr)) (seen : Array (Nat × Expr)) :
    (walk stack seen).toList = seen.toList ++ stack.flatMap fun p => p.2.flatMap (nodes p.1) := by
  fun_induction walk stack seen with
  | case1 seen => simp
  | case2 d stack seen ih => simpa using ih
  | case3 d e es stack seen ih =>
    rw [ih, Array.toList_push, List.flatMap_append, flatMap_children, List.flatMap_cons, List.flatMap_cons,
      List.flatMap_cons, nodes_eq d e]
    simp

theorem toList_treeNodes (l : List Expr) : (treeNodes l).toList = preorder l := by
  rw [treeNodes, walk_eq]
  simp [preorder]

/-- The node that a walk with these sequences before it meets next, and the sequences then before it. -/
def next? : List (Nat × List Expr) → Option ((Nat × Expr) × List (Nat × List Expr))
  | [] => none
  | (_, []) :: stack => next? stack
  | (d, e :: es) :: stack => some ((d, e), e.children.map (d + 1, ·) ++ (d, es) :: stack)

/-- Asked for the next node again and again, a walk gives these and then no more. -/
inductive Drains : List (Nat × List Expr) → List (Nat × Expr) → Prop
  | ended {stack} : next? stack = none → Drains stack []
  | met {stack n rest ns} : next? stack = some (n, rest) → Drains rest ns → Drains stack (n :: ns)

lemma Drains.exhausted {d : Nat} {stack : List (Nat × List Expr)} {ns : List (Nat × Expr)} (h : Drains stack ns) :
    Drains ((d, []) :: stack) ns := by
  cases h with
  | ended hn => exact .ended hn
  | met hn hr => exact .met hn hr

lemma drains_walk (stack : List (Nat × List Expr)) (seen : Array (Nat × Expr)) :
    ∃ ns, Drains stack ns ∧ (walk stack seen).toList = seen.toList ++ ns := by
  fun_induction walk stack seen with
  | case1 seen => exact ⟨[], .ended rfl, by simp⟩
  | case2 d stack seen ih =>
    obtain ⟨ns, hd, hw⟩ := ih
    exact ⟨ns, hd.exhausted, hw⟩
  | case3 d e es stack seen ih =>
    obtain ⟨ns, hd, hw⟩ := ih
    exact ⟨(d, e) :: ns, .met rfl hd, by simpa using hw⟩

lemma drains_treeNodes (l : List Expr) : Drains [(0, l)] (treeNodes l).toList := by
  obtain ⟨ns, hd, hw⟩ := drains_walk [(0, l)] #[]
  rwa [treeNodes, hw, List.nil_append]

end WasmTree.Expr
