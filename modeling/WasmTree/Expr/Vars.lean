import WasmTree.Expr.Basic

/-!
The references a node makes itself, in the order a resolver meets them. The handlers of a node count
as its own; those that catch everything refer to nothing.
-/

namespace WasmTree

namespace Instr

def vars : Instr → List Var
  | reference _ v | callIndirect v => [v]
  | brTable targets fallback => targets ++ [fallback]
  | _ => []

def mapVarsM {m : Type → Type} [Monad m] (f : Var → m Var) : Instr → m Instr
  | reference r v => return .reference r (← f v)
  | callIndirect v => return .callIndirect (← f v)
  | brTable targets fallback => return .brTable (← targets.mapM f) (← f fallback)
  | i => pure i

end Instr

def Handler.mapVarM {m : Type → Type} [Monad m] {α : Type} (f : Var → m Var) (h : Handler α) :
    m (Handler α) :=
  if h.catchesAll then pure h else return { h with var := ← f h.var }

namespace Expr

def vars : Expr → List Var
  | plain _ i => i.vars
  | tryCatch _ _ _ handlers => (handlers.filter fun h => !h.catchesAll).map Handler.var
  | _ => []

/-- Rewrites the references of a node, not those of the nodes nested in it. -/
def mapVarsM {m : Type → Type} [Monad m] (f : Var → m Var) : Expr → m Expr
  | plain loc i => return plain loc (← i.mapVarsM f)
  | tryCatch loc heading body handlers =>
    return tryCatch loc heading body (← handlers.mapM fun h => h.mapVarM f)
  | e => pure e

def mapVars (f : Var → Var) (e : Expr) : Expr := Id.run (e.mapVarsM fun v => pure (f v))

end Expr

end WasmTree
