import WasmTree.Decimal.Shortest

/-!
The interchange formats of floating point: a sign bit, an exponent field and a fraction field.
-/

namespace WasmTree

structure FloatFormat where
  exponentBits : Nat
  fractionBits : Nat

namespace FloatFormat

def single : FloatFormat := ⟨8, 23⟩

def double : FloatFormat := ⟨11, 52⟩

def fraction (f : FloatFormat) (bits : Nat) : Nat := bits % Nat.pow 2 f.fractionBits

def exponent (f : FloatFormat) (bits : Nat) : Nat := bits / Nat.pow 2 f.fractionBits % Nat.pow 2 f.exponentBits

def negative (f : FloatFormat) (bits : Nat) : Bool := bits.testBit (f.fractionBits + f.exponentBits)

/-- The exponent of the last fraction bit of a number with the given exponent field. -/
def lastPlace (f : FloatFormat) (field : Nat) : Int :=
  (max field 1 : Int) - (Nat.pow 2 (f.exponentBits - 1) - 1) - f.fractionBits

/-- The decimal text of the number with the given bits, without the sign of a NaN. -/
def display (f : FloatFormat) (bits : Nat) : String :=
  let field := f.exponent bits
  let fraction := f.fraction bits
  let sign := bif f.negative bits then "-" else ""
  if field = Nat.pow 2 f.exponentBits - 1 then
    if fraction = 0 then sign ++ "inf" else "NaN"
  else
    let mantissa := if field = 0 then fraction else Nat.pow 2 f.fractionBits + fraction
    if mantissa = 0 then sign ++ "0"
    else
      let interval := Decimal.Interval.around mantissa (f.lastPlace field) (fraction == 0 && 1 < field)
      sign ++ interval.shortest.positional

end FloatFormat

end WasmTree
