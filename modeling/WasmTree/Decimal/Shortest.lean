/-!
The shortest decimal that reads back as a given binary fraction: of all decimals in the interval of
reals that round to it the ones with the fewest digits, of those the nearest, and of two equally near
ones the larger.
-/

namespace WasmTree

/-- The positive real `digits * 10 ^ exponent`. -/
structure Decimal where
  digits : Nat
  exponent : Int
  deriving DecidableEq

namespace Decimal

/-- The reals between `low / scale` and `high / scale` round to `value / scale`; `closed` says whether
the two ends do so too. -/
structure Interval where
  low : Nat
  value : Nat
  high : Nat
  scale : Nat
  closed : Bool

namespace Interval

/-- The interval around `m * 2 ^ e`. Below a power of two the neighbours are twice as close, which
`narrow` says of the lower one. -/
def around (m : Nat) (e : Int) (narrow : Bool) : Interval :=
  let up := Nat.pow 2 (e - 2).toNat
  { low := (4 * m - bif narrow then 1 else 2) * up
    value := 4 * m * up
    high := (4 * m + 2) * up
    scale := Nat.pow 2 (2 - e).toNat
    closed := m % 2 == 0 }

/-- The `k` with `10 ^ (k - 1) ≤ value / scale < 10 ^ k`. -/
def magnitude (i : Interval) : Int :=
  let shift := i.scale.log2 + 1
  (Nat.toDigits 10 (i.value * Nat.pow 10 shift / i.scale)).length - shift

/-- The same interval in units of `10 ^ p`. -/
def inUnits (i : Interval) (p : Int) : Interval :=
  let up := Nat.pow 10 (-p).toNat
  { i with
    low := i.low * up, value := i.value * up, high := i.high * up
    scale := i.scale * Nat.pow 10 p.toNat }

def contains (i : Interval) (n : Nat) : Bool :=
  let x := n * i.scale
  bif i.closed then i.low ≤ x && x ≤ i.high else i.low < x && x < i.high

/-- The integer of the interval that is nearest to its value, if it holds one. -/
def nearest? (i : Interval) : Option Nat :=
  let below := i.value / i.scale
  let above := below + 1
  bif i.contains below && (!i.contains above || 2 * (i.value % i.scale) < i.scale) then some below
  else bif i.contains above then some above else none

/-- Tries grids of ever finer decimals, `fuel` of them. -/
def search (i : Interval) : Nat → Int → Decimal
  | 0, p => ⟨(i.inUnits p).value / (i.inUnits p).scale, p⟩
  | fuel + 1, p =>
    match (i.inUnits p).nearest? with
    | some n => ⟨n, p⟩
    | none => search i fuel (p - 1)

/-- Seventeen digits tell any two doubles apart. -/
def shortest (i : Interval) : Decimal := i.search 17 (i.magnitude - 1)

end Interval

/-- Digits with a point where it belongs and no exponent. -/
def positional (d : Decimal) : String :=
  let digits := Nat.toDigits 10 d.digits
  if 0 ≤ d.exponent then String.ofList (digits ++ List.replicate d.exponent.toNat '0')
  else
    let places := (-d.exponent).toNat
    let padded := List.replicate (places + 1 - digits.length) '0' ++ digits
    let whole := padded.take (padded.length - places)
    let fraction := ((padded.drop (padded.length - places)).reverse.dropWhile (· == '0')).reverse
    String.ofList (whole ++ (if fraction.isEmpty then [] else '.' :: fraction))

end Decimal

end WasmTree
