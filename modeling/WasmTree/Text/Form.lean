import WasmTree.Text.Token

/-!
Forms: words, strings, and forms in brackets.
-/

namespace WasmTree.Text

inductive Form where
  | word (w : String)
  | string (bytes : List UInt8)
  | list (items : List Form)

/-- The forms read so far at each depth, innermost first and last first. -/
def Form.step (open_ : List (List Form)) (t : Token) : Option (List (List Form)) :=
  match t, open_ with
  | .left, levels => some ([] :: levels)
  | .right, inner :: outer :: levels => some ((.list inner.reverse :: outer) :: levels)
  | .word w, inner :: levels => some ((.word w :: inner) :: levels)
  | .string b, inner :: levels => some ((.string b :: inner) :: levels)
  | _, _ => none

/-- The forms of some tokens whose brackets match. -/
def forms? (ts : List Token) : Option (List Form) :=
  match ts.foldlM Form.step [[]] with
  | some [top] => some top.reverse
  | _ => none

end WasmTree.Text
