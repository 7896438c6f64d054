import WasmTree.Expr.Traversal

/-!
Taking a tree apart with a work-list: the node popped last in hands over the nodes nested in it before
it is let go, so that letting go never descends.
-/

namespace WasmTree.Expr

/-- Moves the nodes nested directly in a node to the end of a work-list. The node keeps its sequences, but
empty. -/
def takeChildren : Expr → Array Expr → Expr × Array Expr
  | plain loc i, work => (plain loc i, work)
  | block loc form heading body, work => (block loc form heading [], work ++ body)
  | ifElse loc heading yes none, work => (ifElse loc heading [] none, work ++ yes)
  | ifElse loc heading yes (some no), work => (ifElse loc heading [] (some []), work ++ yes ++ no)
  | tryCatch loc heading body handlers, work =>
    (tryCatch loc heading [] (handlers.map fun h => { h with body := [] }),
      handlers.foldl (fun (work : Array Expr) (h : Handler Expr) => work ++ h.body) (work ++ body))

theorem toList_foldl_append {α β : Type} (f : β → List α) (l : List β) (work : Array α) :
    (l.foldl (fun (work : Array α) (b : β) => work ++ f b) work).toList = work.toList ++ (l.map f).flatten := by
  induction l generalizing work with
  | nil => simp
  | cons b l ih => simp [ih]

theorem toList_takeChildren (e : Expr) (work : Array Expr) :
    (e.takeChildren work).2.toList = work.toList ++ e.children.flatten := by
  cases e with
  | plain => simp [takeChildren, children]
  | block => simp [takeChildren, children]
  | ifElse loc heading yes no => cases no <;> simp [takeChildren, children]
  | tryCatch => simp [takeChildren, children, toList_foldl_append]

/-- Lets go of every node in the work-list and below. The result holds the nodes as they were when let
go. -/
def teardown (work gone : Array Expr) : Array Expr :=
  match _h : work.back? with
  | none => gone
  | some e =>
    let step := e.takeChildren work.pop
    teardown step.2 (gone.push step.1)
termination_by listSize work.toList
decreasing_by
  obtain ⟨rest, rfl⟩ := Array.back?_eq_some_iff.mp _h
  simp only [toList_takeChildren, Array.pop_push, Array.toList_push, listSize_append, listSize_cons,
    listSize_nil, size_eq e]
  omega

end WasmTree.Expr
