import WasmTree.ValueType

/-!
Numeric and memory instructions without immediates of their own, named as in the text format.
-/

namespace WasmTree

inductive Width where
  | w32 | w64
  deriving DecidableEq, Inhabited

namespace Width

def int : Width → ValueType
  | w32 => .i32
  | w64 => .i64

def float : Width → ValueType
  | w32 => .f32
  | w64 => .f64

end Width

inductive IntRelation where
  | eq | ne | ltS | ltU | gtS | gtU | leS | leU | geS | geU
  deriving DecidableEq

namespace IntRelation

def all : List IntRelation := [eq, ne, ltS, ltU, gtS, gtU, leS, leU, geS, geU]

def text : IntRelation → String
  | eq => "eq" | ne => "ne" | ltS => "lt_s" | ltU => "lt_u" | gtS => "gt_s" | gtU => "gt_u"
  | leS => "le_s" | leU => "le_u" | geS => "ge_s" | geU => "ge_u"

end IntRelation

inductive FloatRelation where
  | eq | ne | lt | gt | le | ge
  deriving DecidableEq

namespace FloatRelation

def all : List FloatRelation := [eq, ne, lt, gt, le, ge]

def text : FloatRelation → String
  | eq => "eq" | ne => "ne" | lt => "lt" | gt => "gt" | le => "le" | ge => "ge"

end FloatRelation

inductive IntUnary where
  | clz | ctz | popcnt
  deriving DecidableEq

namespace IntUnary

def all : List IntUnary := [clz, ctz, popcnt]

def text : IntUnary → String
  | clz => "clz" | ctz => "ctz" | popcnt => "popcnt"

end IntUnary

inductive FloatUnary where
  | abs | neg | ceil | floor | trunc | nearest | sqrt
  deriving DecidableEq

namespace FloatUnary

def all : List FloatUnary := [abs, neg, ceil, floor, trunc, nearest, sqrt]

def text : FloatUnary → String
  | abs => "abs" | neg => "neg" | ceil => "ceil" | floor => "floor" | trunc => "trunc"
  | nearest => "nearest" | sqrt => "sqrt"

end FloatUnary

inductive IntBinary where
  | add | sub | mul | divS | divU | remS | remU | and | or | xor | shl | shrS | shrU | rotl | rotr
  deriving DecidableEq

namespace IntBinary

def all : List IntBinary :=
  [add, sub, mul, divS, divU, remS, remU, and, or, xor, shl, shrS, shrU, rotl, rotr]

def text : IntBinary → String
  | add => "add" | sub => "sub" | mul => "mul" | divS => "div_s" | divU => "div_u" | remS => "rem_s"
  | remU => "rem_u" | and => "and" | or => "or" | xor => "xor" | shl => "shl" | shrS => "shr_s"
  | shrU => "shr_u" | rotl => "rotl" | rotr => "rotr"

end IntBinary

inductive FloatBinary where
  | add | sub | mul | div | min | max | copysign
  deriving DecidableEq

namespace FloatBinary

def all : List FloatBinary := [add, sub, mul, div, min, max, copysign]

def text : FloatBinary → String
  | add => "add" | sub => "sub" | mul => "mul" | div => "div" | min => "min" | max => "max"
  | copysign => "copysign"

end FloatBinary

/-- Instructions whose result has another meaning than their operand; a test for zero is one. -/
inductive Conversion where
  | i32Eqz | i64Eqz | i32WrapI64
  | i32TruncF32S | i32TruncF32U | i32TruncF64S | i32TruncF64U
  | i64ExtendI32S | i64ExtendI32U
  | i64TruncF32S | i64TruncF32U | i64TruncF64S | i64TruncF64U
  | f32ConvertI32S | f32ConvertI32U | f32ConvertI64S | f32ConvertI64U | f32DemoteF64
  | f64ConvertI32S | f64ConvertI32U | f64ConvertI64S | f64ConvertI64U | f64PromoteF32
  | i32ReinterpretF32 | i64ReinterpretF64 | f32ReinterpretI32 | f64ReinterpretI64
  deriving DecidableEq

namespace Conversion

def all : List Conversion :=
  [i32Eqz, i64Eqz, i32WrapI64, i32TruncF32S, i32TruncF32U, i32TruncF64S, i32TruncF64U, i64ExtendI32S,
    i64ExtendI32U, i64TruncF32S, i64TruncF32U, i64TruncF64S, i64TruncF64U, f32ConvertI32S,
    f32ConvertI32U, f32ConvertI64S, f32ConvertI64U, f32DemoteF64, f64ConvertI32S, f64ConvertI32U,
    f64ConvertI64S, f64ConvertI64U, f64PromoteF32, i32ReinterpretF32, i64ReinterpretF64,
    f32ReinterpretI32, f64ReinterpretI64]

def result : Conversion → ValueType
  | i32Eqz | i64Eqz | i32WrapI64 | i32TruncF32S | i32TruncF32U | i32TruncF64S | i32TruncF64U
  | i32ReinterpretF32 => .i32
  | i64ExtendI32S | i64ExtendI32U | i64TruncF32S | i64TruncF32U | i64TruncF64S | i64TruncF64U
  | i64ReinterpretF64 => .i64
  | f32ConvertI32S | f32ConvertI32U | f32ConvertI64S | f32ConvertI64U | f32DemoteF64
  | f32ReinterpretI32 => .f32
  | f64ConvertI32S | f64ConvertI32U | f64ConvertI64S | f64ConvertI64U | f64PromoteF32
  | f64ReinterpretI64 => .f64

def mnemonic : Conversion → String
  | i32Eqz => "i32.eqz"
  | i64Eqz => "i64.eqz"
  | i32WrapI64 => "i32.wrap_i64"
  | i32TruncF32S => "i32.trunc_f32_s"
  | i32TruncF32U => "i32.trunc_f32_u"
  | i32TruncF64S => "i32.trunc_f64_s"
  | i32TruncF64U => "i32.trunc_f64_u"
  | i64ExtendI32S => "i64.extend_i32_s"
  | i64ExtendI32U => "i64.extend_i32_u"
  | i64TruncF32S => "i64.trunc_f32_s"
  | i64TruncF32U => "i64.trunc_f32_u"
  | i64TruncF64S => "i64.trunc_f64_s"
  | i64TruncF64U => "i64.trunc_f64_u"
  | f32ConvertI32S => "f32.convert_i32_s"
  | f32ConvertI32U => "f32.convert_i32_u"
  | f32ConvertI64S => "f32.convert_i64_s"
  | f32ConvertI64U => "f32.convert_i64_u"
  | f32DemoteF64 => "f32.demote_f64"
  | f64ConvertI32S => "f64.convert_i32_s"
  | f64ConvertI32U => "f64.convert_i32_u"
  | f64ConvertI64S => "f64.convert_i64_s"
  | f64ConvertI64U => "f64.convert_i64_u"
  | f64PromoteF32 => "f64.promote_f32"
  | i32ReinterpretF32 => "i32.reinterpret_f32"
  | i64ReinterpretF64 => "i64.reinterpret_f64"
  | f32ReinterpretI32 => "f32.reinterpret_i32"
  | f64ReinterpretI64 => "f64.reinterpret_i64"

end Conversion

/-- The form of expression an opcode belongs in. -/
inductive OpcodeClass where
  | binary | compare | convert | unary | load | store
  deriving DecidableEq

def OpcodeClass.text : OpcodeClass → String
  | binary => "Binary"
  | compare => "Compare"
  | convert => "Convert"
  | unary => "Unary"
  | load => "Load"
  | store => "Store"

inductive NumericOp where
  | intRelation (w : Width) (r : IntRelation)
  | floatRelation (w : Width) (r : FloatRelation)
  | intUnary (w : Width) (u : IntUnary)
  | floatUnary (w : Width) (u : FloatUnary)
  | intBinary (w : Width) (b : IntBinary)
  | floatBinary (w : Width) (b : FloatBinary)
  | conversion (c : Conversion)
  deriving DecidableEq

namespace NumericOp

def all : List NumericOp :=
  IntRelation.all.map (intRelation .w32) ++ IntRelation.all.map (intRelation .w64) ++
  FloatRelation.all.map (floatRelation .w32) ++ FloatRelation.all.map (floatRelation .w64) ++
  IntUnary.all.map (intUnary .w32) ++ IntUnary.all.map (intUnary .w64) ++
  FloatUnary.all.map (floatUnary .w32) ++ FloatUnary.all.map (floatUnary .w64) ++
  IntBinary.all.map (intBinary .w32) ++ IntBinary.all.map (intBinary .w64) ++
  FloatBinary.all.map (floatBinary .w32) ++ FloatBinary.all.map (floatBinary .w64) ++
  Conversion.all.map conversion

def mnemonic : NumericOp → String
  | intRelation w r => w.int.text ++ "." ++ r.text
  | floatRelation w r => w.float.text ++ "." ++ r.text
  | intUnary w u => w.int.text ++ "." ++ u.text
  | floatUnary w u => w.float.text ++ "." ++ u.text
  | intBinary w b => w.int.text ++ "." ++ b.text
  | floatBinary w b => w.float.text ++ "." ++ b.text
  | conversion c => c.mnemonic

def category : NumericOp → OpcodeClass
  | intRelation .. | floatRelation .. => .compare
  | intUnary .. | floatUnary .. => .unary
  | intBinary .. | floatBinary .. => .binary
  | conversion _ => .convert

/-- A comparison answers with an `i32`. -/
def result : NumericOp → ValueType
  | intRelation .. | floatRelation .. => .i32
  | intUnary w _ | intBinary w _ => w.int
  | floatUnary w _ | floatBinary w _ => w.float
  | conversion c => c.result

end NumericOp

inductive MemoryOp where
  | i32Load | i64Load | f32Load | f64Load
  | i32Load8S | i32Load8U | i32Load16S | i32Load16U
  | i64Load8S | i64Load8U | i64Load16S | i64Load16U | i64Load32S | i64Load32U
  | i32Store | i64Store | f32Store | f64Store
  | i32Store8 | i32Store16 | i64Store8 | i64Store16 | i64Store32
  deriving DecidableEq

namespace MemoryOp

def all : List MemoryOp :=
  [i32Load, i64Load, f32Load, f64Load, i32Load8S, i32Load8U, i32Load16S, i32Load16U, i64Load8S,
    i64Load8U, i64Load16S, i64Load16U, i64Load32S, i64Load32U, i32Store, i64Store, f32Store, f64Store,
    i32Store8, i32Store16, i64Store8, i64Store16, i64Store32]

def mnemonic : MemoryOp → String
  | i32Load => "i32.load"
  | i64Load => "i64.load"
  | f32Load => "f32.load"
  | f64Load => "f64.load"
  | i32Load8S => "i32.load8_s"
  | i32Load8U => "i32.load8_u"
  | i32Load16S => "i32.load16_s"
  | i32Load16U => "i32.load16_u"
  | i64Load8S => "i64.load8_s"
  | i64Load8U => "i64.load8_u"
  | i64Load16S => "i64.load16_s"
  | i64Load16U => "i64.load16_u"
  | i64Load32S => "i64.load32_s"
  | i64Load32U => "i64.load32_u"
  | i32Store => "i32.store"
  | i64Store => "i64.store"
  | f32Store => "f32.store"
  | f64Store => "f64.store"
  | i32Store8 => "i32.store8"
  | i32Store16 => "i32.store16"
  | i64Store8 => "i64.store8"
  | i64Store16 => "i64.store16"
  | i64Store32 => "i64.store32"

def category : MemoryOp → OpcodeClass
  | i32Load | i64Load | f32Load | f64Load | i32Load8S | i32Load8U | i32Load16S | i32Load16U | i64Load8S
  | i64Load8U | i64Load16S | i64Load16U | i64Load32S | i64Load32U => .load
  | i32Store | i64Store | f32Store | f64Store | i32Store8 | i32Store16 | i64Store8 | i64Store16
  | i64Store32 => .store

def result? : MemoryOp → Option ValueType
  | i32Load | i32Load8S | i32Load8U | i32Load16S | i32Load16U => some .i32
  | i64Load | i64Load8S | i64Load8U | i64Load16S | i64Load16U | i64Load32S | i64Load32U => some .i64
  | f32Load => some .f32
  | f64Load => some .f64
  | i32Store | i64Store | f32Store | f64Store | i32Store8 | i32Store16 | i64Store8 | i64Store16
  | i64Store32 => none

/-- The base-2 logarithm of the number of bytes touched, which is the natural alignment. -/
def naturalExponent : MemoryOp → Nat
  | i32Load8S | i32Load8U | i64Load8S | i64Load8U | i32Store8 | i64Store8 => 0
  | i32Load16S | i32Load16U | i64Load16S | i64Load16U | i32Store16 | i64Store16 => 1
  | i32Load | f32Load | i64Load32S | i64Load32U | i32Store | f32Store | i64Store32 => 2
  | i64Load | f64Load | i64Store | f64Store => 3

def byteSize (m : MemoryOp) : Nat := Nat.pow 2 m.naturalExponent

end MemoryOp

inductive Opcode where
  | memory (m : MemoryOp)
  | numeric (n : NumericOp)
  deriving DecidableEq

namespace Opcode

def all : List Opcode := MemoryOp.all.map memory ++ NumericOp.all.map numeric

def mnemonic : Opcode → String
  | memory m => m.mnemonic
  | numeric n => n.mnemonic

def ofMnemonic? (s : String) : Option Opcode := all.find? fun o => o.mnemonic == s

def category : Opcode → OpcodeClass
  | memory m => m.category
  | numeric n => n.category

def result? : Opcode → Option ValueType
  | memory m => m.result?
  | numeric n => some n.result

def byteSize? : Opcode → Option Nat
  | memory m => some m.byteSize
  | numeric _ => none

/-- The parts of the mnemonic run together, each with a capital letter. -/
def camelName (o : Opcode) : String :=
  String.ofList (capitalise true o.mnemonic.toList)
where
  capitalise (first : Bool) : List Char → List Char
    | [] => []
    | c :: cs =>
      if c = '.' ∨ c = '_' then capitalise true cs
      else (bif first then c.toUpper else c) :: capitalise false cs

end Opcode

end WasmTree
