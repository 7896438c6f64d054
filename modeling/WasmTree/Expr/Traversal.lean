import WasmTree.Expr.Basic

/-!
Pre-order walks. `preorder` says what a walk yields; `walk` computes it with a stack of its own, so
that the depth of a tree costs no native recursion.
-/

namespace WasmTree.Expr

def size (e : Expr) : Nat :=
  e.children.attach.foldr (fun ⟨l, hl⟩ n => l.attach.foldr (fun ⟨x, hx⟩ k =>
    have := sizeOf_lt_of_mem_children hl hx
    size x + k) n) 1
termination_by sizeOf e

def listSize (l : List Expr) : Nat := l.foldr (fun e n => e.size + n) 0

@[simp]
theorem listSize_nil : listSize [] = 0 := rfl

@[simp]
theorem listSize_cons (e : Expr) (l : List Expr) : listSize (e :: l) = e.size + listSize l := rfl

@[simp]
theorem listSize_append (l₁ l₂ : List Expr) : listSize (l₁ ++ l₂) = listSize l₁ + listSize l₂ := by
  induction l₁ with
  | nil => simp
  | cons e l ih => simp [ih, Nat.add_assoc]

theorem foldr_size (l : List Expr) (n : Nat) : l.foldr (fun e k => e.size + k) n = listSize l + n := by
  induction l with
  | nil => simp
  | cons e l ih => simp [ih, Nat.add_assoc]

theorem size_eq (e : Expr) : e.size = 1 + listSize e.children.flatten := by
  rw [size]
  simp only [List.foldr_subtype, List.unattach_attach, foldr_size]
  induction e.children with
  | nil => rfl
  | cons l ls ih =>
    simp only [List.foldr_cons, List.flatten_cons, listSize_append, ih]
    omega

/-- A node and all below it, each with its depth and before the nodes nested in it. -/
def nodes (depth : Nat) (e : Expr) : List (Nat × Expr) :=
  (depth, e) :: e.children.attach.flatMap fun ⟨l, hl⟩ => l.attach.flatMap fun ⟨x, hx⟩ =>
    have := sizeOf_lt_of_mem_children hl hx
    nodes (depth + 1) x
termination_by sizeOf e

def preorder (l : List Expr) : List (Nat × Expr) := l.flatMap (nodes 0)

/-- The nodes still to come in a walk that has the given sequences before it. -/
def pending (stack : List (Nat × List Expr)) : Nat := listSize (stack.flatMap Prod.snd)

theorem pending_children (d : Nat) (e : Expr) (es : List Expr) (stack : List (Nat × List Expr)) :
    pending (e.children.map (d + 1, ·) ++ (d, es) :: stack) < pending ((d, e :: es) :: stack) := by
  have h : (e.children.map (d + 1, ·)).flatMap Prod.snd = e.children.flatten := by
    rw [List.flatMap_map, ← List.flatMap_id]
    rfl
  simp only [pending, List.flatMap_append, h, List.flatMap_cons, listSize_append, listSize_cons, size_eq e]
  omega

/-- Visits the sequences of the stack in turn, each node's own before what follows the node. -/
def walk : List (Nat × List Expr) → Array (Nat × Expr) → Array (Nat × Expr)
  | [], seen => seen
  | (_, []) :: stack, seen => walk stack seen
  | (d, e :: es) :: stack, seen => walk (e.children.map (d + 1, ·) ++ (d, es) :: stack) (seen.push (d, e))
termination_by stack => (pending stack, stack.length)
decreasing_by
  · simp [pending, Prod.lex_def]
  · exact Prod.Lex.left _ _ (pending_children d e es stack)

/-- Every node of a sequence in program order, with its depth. -/
def treeNodes (l : List Expr) : Array (Nat × Expr) := walk [(0, l)] #[]

def treeLength (l : List Expr) : Nat := (treeNodes l).size

end WasmTree.Expr
