import WasmTree.FloatFormat
import WasmTree.Location
import WasmTree.ValueType

/-!
Literal numbers, kept as raw bits so that the payload of a NaN survives.
-/

namespace WasmTree

inductive Literal where
  | i32 (bits : UInt32)
  | i64 (bits : UInt64)
  | f32 (bits : UInt32)
  | f64 (bits : UInt64)
  deriving DecidableEq

namespace Literal

def type : Literal → ValueType
  | i32 _ => .i32
  | i64 _ => .i64
  | f32 _ => .f32
  | f64 _ => .f64

def bits : Literal → Nat
  | i32 b => b.toNat
  | i64 b => b.toNat
  | f32 b => b.toNat
  | f64 b => b.toNat

/-- A NaN of either sign whose fraction is its highest bit alone. -/
def isCanonicalNan : Literal → Bool
  | f32 b => b &&& 0x7FFFFFFF == 0x7FC00000
  | f64 b => b &&& 0x7FFFFFFFFFFFFFFF == 0x7FF8000000000000
  | i32 _ | i64 _ => false

/-- A NaN of either sign whose fraction has its highest bit set. -/
def isArithmeticNan : Literal → Bool
  | f32 b => b &&& 0x7FC00000 == 0x7FC00000
  | f64 b => b &&& 0x7FF8000000000000 == 0x7FF8000000000000
  | i32 _ | i64 _ => false

def display : Literal → String
  | i32 b => "i32.const " ++ toString b.toInt32
  | i64 b => "i64.const " ++ toString b.toInt64
  | f32 b => "f32.const " ++ FloatFormat.single.display b.toNat
  | f64 b => "f64.const " ++ FloatFormat.double.display b.toNat

end Literal

structure Constant where
  loc : Location
  value : Literal
  deriving DecidableEq

end WasmTree
