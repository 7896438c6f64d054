import Mathlib.Tactic.Lemma
import WasmTree.Folding

/-! The grammar of function bodies. Every tree, written flat, derives from it. -/

namespace WasmTree

/-- What an operator does to the nesting. -/
inductive Mark where
  | opening (o : Opening)
  | otherwise
  | handler
  | close
  | plain
  deriving DecidableEq

def Mark.opens : Mark → Bool
  | opening _ => true
  | _ => false

def Operator.mark : Operator → Mark
  | block form _ => .opening (.block form)
  | ifThen _ => .opening .ifThen
  | elseBranch => .otherwise
  | tryBody _ => .opening .tryBody
  | catchTag _ | catchAll => .handler
  | finish => .close
  | plain _ => .plain

def Flat.mark : Flat → Mark
  | opening o .. => .opening o
  | otherwise => .otherwise
  | handler .. => .handler
  | close => .close
  | plain .. => .plain

namespace Grammar

inductive Symbol where
  | instr | instrs | handlers | body

inductive Derives : Symbol → List Mark → Prop
  | plain : Derives .instr [.plain]
  | block {body} (form : BlockForm) : Derives .instrs body →
    Derives .instr (.opening (.block form) :: body ++ [.close])
  | ifThen {yes} : Derives .instrs yes → Derives .instr (.opening .ifThen :: yes ++ [.close])
  | ifElse {yes no} : Derives .instrs yes → Derives .instrs no →
    Derives .instr (.opening .ifThen :: yes ++ .otherwise :: no ++ [.close])
  | tryCatch {body handlers} : Derives .instrs body → Derives .handlers handlers →
    Derives .instr (.opening .tryBody :: body ++ handlers ++ [.close])
  | noHandler : Derives .handlers []
  | handler {body handlers} : Derives .instrs body → Derives .handlers handlers →
    Derives .handlers (.handler :: body ++ handlers)
  | noInstr : Derives .instrs []
  | instr {first rest} : Derives .instr first → Derives .instrs rest → Derives .instrs (first ++ rest)
  | body {instrs} : Derives .instrs instrs → Derives .body (instrs ++ [.close])

lemma Derives.count {σ : Symbol} {ms : List Mark} (h : Derives σ ms) :
    ms.countP Mark.opens + (match σ with | .body => 1 | _ => 0) = ms.countP (· = .close) := by
  induction h <;> simp_all [List.countP_cons, Mark.opens] <;> omega

lemma Derives.balanced {ms : List Mark} (h : Derives .body ms) :
    ms.countP Mark.opens + 1 = ms.countP (· = .close) := h.count

lemma derives_flatList {l : List Expr} (h : ∀ e ∈ l, Derives .instr (e.flat.map Flat.mark)) :
    Derives .instrs ((Expr.flatList l).map Flat.mark) := by
  induction l with
  | nil => exact .noInstr
  | cons e l ih =>
    rw [Expr.flatList_cons, List.map_append]
    exact .instr (h e (by simp)) (ih fun e he => h e (by simp [he]))

lemma derives_flatHandlers {hs : List (Handler Expr)}
    (h : ∀ c ∈ hs, ∀ e ∈ c.body, Derives .instr (e.flat.map Flat.mark)) :
    Derives .handlers ((Expr.flatHandlers hs).map Flat.mark) := by
  induction hs with
  | nil =>
    rw [Expr.flatHandlers]
    exact .noHandler
  | cons c hs ih =>
    rcases c with ⟨loc, var, body⟩
    have hb := derives_flatList (h ⟨loc, var, body⟩ (by simp))
    have hr := ih fun c hc => h c (by simp [hc])
    simpa [Expr.flatHandlers, Flat.mark] using Derives.handler hb hr

theorem derives_flat (e : Expr) : Derives .instr (e.flat.map Flat.mark) := by
  induction e using Expr.nested_induction with
  | step e ih =>
    cases e with
    | plain loc i => simpa [Expr.flat, Flat.mark] using Derives.plain
    | block loc form heading body =>
      have hb := derives_flatList (ih body (by simp [Expr.children]))
      simpa [Expr.flat, Flat.mark] using Derives.block form hb
    | ifElse loc heading yes no =>
      have hy := derives_flatList (ih yes (by simp [Expr.children]))
      cases no with
      | none => simpa [Expr.flat, Expr.flatElse, Flat.mark] using Derives.ifThen hy
      | some no =>
        have hn := derives_flatList (ih no (by simp [Expr.children]))
        simpa [Expr.flat, Expr.flatElse, Flat.mark] using Derives.ifElse hy hn
    | tryCatch loc heading body hs =>
      have hb := derives_flatList (ih body (by simp [Expr.children]))
      have hh := derives_flatHandlers fun c hc => ih c.body (by
        simp only [Expr.children, List.mem_cons, List.mem_map]
        exact Or.inr ⟨c, hc, rfl⟩)
      simpa [Expr.flat, Flat.mark] using Derives.tryCatch hb hh

lemma derives_flatBody (l : List Expr) : Derives .body ((Expr.flatBody l).map Flat.mark) := by
  simpa [Expr.flatBody, Flat.mark] using Derives.body (derives_flatList fun e _ => derives_flat e)

end Grammar

end WasmTree
