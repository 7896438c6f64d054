import WasmTree.ValueType
import WasmTree.Var

/-!
Signatures of functions, entries of the type space, and declarations that refer to one.
-/

namespace WasmTree

structure Signature where
  params : List ValueType
  results : List ValueType
  deriving DecidableEq

namespace Signature

def display (s : Signature) : String :=
  "(param" ++ spaced s.params ++ ") (result" ++ spaced s.results ++ ")"
where
  spaced (ts : List ValueType) : String := String.join (ts.map fun t => " " ++ t.text)

end Signature

structure FuncType where
  name : Option String
  sig : Signature
  deriving DecidableEq

/-- A signature, and the entry of the type space it was declared with unless it was written inline. -/
structure Declaration where
  typeVar : Option Var
  sig : Signature
  deriving DecidableEq

namespace Declaration

def inline (sig : Signature) : Declaration := ⟨none, sig⟩

def typed (v : Var) (sig : Signature) : Declaration := ⟨some v, sig⟩

def hasFuncType (d : Declaration) : Bool := d.typeVar.isSome

end Declaration

end WasmTree
