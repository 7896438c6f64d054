import WasmTree.Folding

/-!
Constant expressions: the initializers of globals and the offsets of segments. What follows the first
end is not looked at.
-/

namespace WasmTree

def PlainOperator.constant? (loc : Location) : PlainOperator → Option Instr
  | const l => some (.const ⟨loc, l⟩)
  | reference .getGlobal index => some (.reference .getGlobal ((Var.ofIndex index).withLoc loc))
  | _ => none

def readConstant (done : Array Expr) : List (Located Operator) → Reading (List Expr)
  | [] => Reading.within .readingConstant (.fail .malformedBinary)
  | op :: ops =>
    let loc := Location.binary op.offset
    match op.value with
    | .finish => .ok done.toList
    | .plain p =>
      match p.constant? loc with
      | some i => readConstant (done.push (.plain loc i)) ops
      | none => .fail (.notConstant op.value)
    | _ => .fail (.notConstant op.value)

end WasmTree
