/-!
Where a piece of a module was written: nowhere known, a span of one line of text, or a byte of a
binary.
-/

namespace WasmTree

inductive Location where
  | unknown
  | text (line first last : Nat)
  | binary (offset : Nat)
  deriving DecidableEq, Inhabited

namespace Location

def hexadecimal (n : Nat) : String :=
  "0x" ++ String.ofList (Nat.toDigits 16 n)

def display : Location → String
  | unknown => "<unknown>"
  | text line first last => toString line ++ ":" ++ toString first ++ "-" ++ toString last
  | binary offset => "@" ++ hexadecimal offset

end Location

/-- A value and the offset in a binary where it begins. -/
structure Located (α : Type) where
  offset : Nat
  value : α
  deriving DecidableEq

end WasmTree
