import WasmTree.Expr.Basic
import WasmTree.Outline
import WasmTree.Text.Quoted

/-!
Nodes written out as records. A nested sequence shows its length and the tags of its own nodes alone,
so the text of a node does not grow with its tree.
-/

namespace WasmTree

open Outline

def Location.outline : Location → String
  | unknown => "Unknown"
  | text line first last =>
    record "Text" [("line", toString line), ("first_column", toString first), ("last_column", toString last)]
  | binary offset => record "Binary" [("offset", toString offset)]

def Target.outline : Target → String
  | index i => wrap "Index" (toString i)
  | name n => wrap "Name" (Text.quoted n)

def Var.outline (v : Var) : String :=
  record "Var" [("loc", v.loc.outline), ("kind", v.target.outline)]

def Literal.outline (l : Literal) : String := wrap l.type.outline (toString l.bits)

def Constant.outline (c : Constant) : String :=
  record "Const" [("loc", c.loc.outline), ("value", c.value.outline)]

def Instr.outline : Instr → String
  | bare b => b.text
  | reference r v => wrap r.text v.outline
  | callIndirect v => wrap "CallIndirect" v.outline
  | memory f => f.text
  | brTable targets fallback =>
    wrap "BrTable" (record "BrTable"
      [("targets", list (targets.map Var.outline)), ("default_target", fallback.outline)])
  | const c => wrap "Const" c.outline
  | numeric f op => wrap f.text op.camelName
  | access f op align offset =>
    wrap f.text (record "LoadStore"
      [("opcode", op.camelName), ("align", toString align), ("offset", toString offset)])

namespace Expr

def outlineList (l : List Expr) : String :=
  record "ExprList" [("len", toString l.length), ("tags", Outline.list (l.map fun e => e.tag.text))]

def outlineBlock (heading : Heading) (body : List Expr) : String :=
  record "Block"
    [("label", option (heading.label.map Text.quoted)),
      ("sig", Outline.list (heading.sig.map ValueType.outline)), ("exprs", outlineList body)]

def outlineHandler (h : Handler Expr) : String :=
  record "Catch" [("loc", h.loc.outline), ("var", h.var.outline), ("exprs", outlineList h.body)]

def outlineKind : Expr → String
  | plain _ i => i.outline
  | block _ form heading body => wrap form.text (outlineBlock heading body)
  | ifElse _ heading yes no =>
    wrap "If" (record "IfExpr"
      [("true_block", outlineBlock heading yes), ("false_exprs", option (no.map outlineList))])
  | tryCatch _ heading body handlers =>
    wrap "Try" (record "TryExpr"
      [("block", outlineBlock heading body), ("catches", Outline.list (handlers.map outlineHandler))])

def outline (e : Expr) : String :=
  record "Expr" [("loc", e.loc.outline), ("kind", e.outlineKind)]

end Expr

end WasmTree
