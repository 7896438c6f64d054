/-!
Values written out as records: the name of a kind, then its parts.
-/

namespace WasmTree.Outline

def record (kind : String) (parts : List (String × String)) : String :=
  kind ++ " \x7b " ++ ", ".intercalate (parts.map fun p => p.1 ++ ": " ++ p.2) ++ " \x7d"

def wrap (kind : String) (part : String) : String := kind ++ "(" ++ part ++ ")"

def list (items : List String) : String := "[" ++ ", ".intercalate items ++ "]"

def option (o : Option String) : String := o.elim "None" (wrap "Some")

end WasmTree.Outline
