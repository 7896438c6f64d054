import WasmTree.Text.Token

/-!
Integers of the text format: decimal or hexadecimal, with underscores between digits. A plus sign may
stand before any of them, a minus sign only where negative numbers are allowed.
-/

namespace WasmTree.Text

/-- Reads digits below `base`; `mark` says whether an underscore may come next. -/
def digits? (base value : Nat) (mark : Bool) : List Char → Option Nat
  | [] => if mark then some value else none
  | '_' :: cs => if mark then digits? base value false cs else none
  | c :: cs =>
    (Lexer.hexDigit? c).bind fun d => if d < base then digits? base (base * value + d) true cs else none

def unsigned? : List Char → Option Nat
  | '0' :: 'x' :: cs => digits? 16 0 false cs
  | cs => digits? 10 0 false cs

def natural? : List Char → Option Nat
  | '+' :: cs => unsigned? cs
  | cs => unsigned? cs

def integer? : List Char → Option Int
  | '-' :: cs => (unsigned? cs).map fun n => -(n : Int)
  | cs => (natural? cs).map Int.ofNat

/-- A number of `bits` bits, written with its sign or without. -/
def integerOf? (bits : Nat) (s : String) : Option Int :=
  (integer? s.toList).filter fun i => -(Nat.pow 2 (bits - 1) : Int) ≤ i && i < (Nat.pow 2 bits : Int)

/-- A number of `bits` bits that is not negative. -/
def naturalOf? (bits : Nat) (s : String) : Option Nat := (natural? s.toList).filter (· < Nat.pow 2 bits)

end WasmTree.Text
