/-!
The four number types.
-/

namespace WasmTree

inductive ValueType where
  | i32 | i64 | f32 | f64
  deriving DecidableEq, Inhabited

namespace ValueType

def all : List ValueType := [i32, i64, f32, f64]

def text : ValueType → String
  | i32 => "i32"
  | i64 => "i64"
  | f32 => "f32"
  | f64 => "f64"

def outline (t : ValueType) : String := t.text.capitalize

def listText (ts : List ValueType) : String :=
  "[" ++ " ".intercalate (ts.map text) ++ "]"

end ValueType

end WasmTree
