import WasmTree.Expr.Basic

/-!
The flat form of a tree: its instructions in program order, with marks where a structured one opens,
passes to its next part and closes.
-/

namespace WasmTree

inductive Opening where
  | block (form : BlockForm)
  | ifThen
  | tryBody
  deriving DecidableEq

inductive Flat where
  | opening (o : Opening) (loc : Location) (sig : List ValueType)
  | otherwise
  | handler (loc : Location) (var : Var)
  | close
  | plain (loc : Location) (instr : Instr)
  deriving DecidableEq

namespace Expr

mutual

/-- A node without its label, for which the flat form has no place. -/
def flat : Expr → List Flat
  | plain loc i => [.plain loc i]
  | block loc form heading body =>
    .opening (.block form) loc heading.sig :: flatList body ++ [.close]
  | ifElse loc heading yes no =>
    .opening .ifThen loc heading.sig :: flatList yes ++ flatElse no ++ [.close]
  | tryCatch loc heading body handlers =>
    .opening .tryBody loc heading.sig :: flatList body ++ flatHandlers handlers ++ [.close]

def flatList : List Expr → List Flat
  | [] => []
  | e :: es => flat e ++ flatList es

/-- The mark stands before every false branch, even an empty one. -/
def flatElse : Option (List Expr) → List Flat
  | none => []
  | some no => .otherwise :: flatList no

def flatHandlers : List (Handler Expr) → List Flat
  | [] => []
  | ⟨loc, var, body⟩ :: handlers => .handler loc var :: flatList body ++ flatHandlers handlers

end

/-- A sequence that nothing encloses ends with a mark of its own. -/
def flatBody (l : List Expr) : List Flat := flatList l ++ [.close]

@[simp]
theorem flatList_nil : flatList [] = [] := by simp [flatList]

@[simp]
theorem flatList_cons (e : Expr) (es : List Expr) : flatList (e :: es) = flat e ++ flatList es := by
  simp [flatList]

@[simp]
theorem flatList_append (l₁ l₂ : List Expr) : flatList (l₁ ++ l₂) = flatList l₁ ++ flatList l₂ := by
  induction l₁ with
  | nil => simp
  | cons e es ih => simp [ih]

@[simp]
theorem flatHandlers_append (l₁ l₂ : List (Handler Expr)) :
    flatHandlers (l₁ ++ l₂) = flatHandlers l₁ ++ flatHandlers l₂ := by
  induction l₁ with
  | nil => simp [flatHandlers]
  | cons h hs ih => simp [flatHandlers, ih]

end Expr

end WasmTree
