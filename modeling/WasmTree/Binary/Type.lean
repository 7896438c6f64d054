import WasmTree.Binary.Integer
import WasmTree.Payload

/-!
Types and limits. A type that is not one of the plain ones is a reference type; its heap type is a
number, and a negative one stands for a kind.
-/

namespace WasmTree.Binary.Decoder

def heapKind : Decoder HeapKind := do
  match ← byte with
  | 0x68 => return .cont
  | 0x69 => return .exn
  | 0x6A => return .array
  | 0x6B => return .struct
  | 0x6C => return .i31
  | 0x6D => return .eq
  | 0x6E => return .any
  | 0x6F => return .external
  | 0x70 => return .func
  | 0x71 => return .none
  | 0x72 => return .noExtern
  | 0x73 => return .noFunc
  | 0x74 => return .noExn
  | 0x75 => return .noCont
  | _ => fail

/-- Indices of types stay below this. -/
def typeIndexLimit : Nat := 0x100000

def heapType : Decoder HeapType := do
  let index ← ahead (signed 33)
  if 0 ≤ index then
    let _ ← signed 33
    require (index < typeIndexLimit)
    return .concrete index.toNat
  else if (← peek) = 0x65 then
    let _ ← byte
    return .abstract true (← heapKind)
  else return .abstract false (← heapKind)

def refType : Decoder RefType := do
  match ← peek with
  | 0x63 =>
    let _ ← byte
    return ⟨true, ← heapType⟩
  | 0x64 =>
    let _ ← byte
    return ⟨false, ← heapType⟩
  | _ => return ⟨true, ← heapType⟩

def numberType? (b : UInt8) : Option WireType :=
  match b with
  | 0x7F => some (.number .i32)
  | 0x7E => some (.number .i64)
  | 0x7D => some (.number .f32)
  | 0x7C => some (.number .f64)
  | 0x7B => some .v128
  | _ => none

def wireType : Decoder WireType := do
  match numberType? (← peek) with
  | some t =>
    let _ ← byte
    return t
  | none => return .ref (← refType)

def arityLimit : Nat := 1000

/-- A function type. It may stand in a group of its own, be final, and be shared, in this order, none of
which changes what it says. -/
def signature : Decoder WireSignature := do
  if (← peek) = 0x4E then
    let _ ← byte
    let members ← unsigned 32
    require (members = 1)
  if (← peek) = 0x4F then
    let _ ← byte
    let supertypes ← unsigned 32
    require (supertypes = 0)
  if (← peek) = 0x65 then
    let _ ← byte
  let form ← byte
  require (form = 0x60)
  let params ← replicate (← count arityLimit) wireType
  let results ← replicate (← count arityLimit) wireType
  return ⟨params, results⟩

def bound (wide : Bool) : Decoder UInt64 := if wide then u64 else (fun n => n.toUInt64) <$> u32

/-- The flags say whether there is a maximum, whether it is shared, and how wide the bounds are. -/
def limits (flags : UInt8) : Decoder Limits := do
  let wide := flags &&& 4 != 0
  let initial ← bound wide
  let max ← if flags &&& 1 = 0 then pure none else some <$> bound wide
  return ⟨initial, max, flags &&& 2 != 0⟩

/-- The limits of a table, whose elements are of any reference type; no table counts as shared. -/
def tableType : Decoder Limits := do
  let _ ← refType
  let flags ← byte
  require (flags < 8)
  return { ← limits flags with shared := false }

def memoryType : Decoder Limits := do
  let flags ← byte
  require (flags < 16)
  let l ← limits flags
  if flags &&& 8 ≠ 0 then
    let _ ← unsigned 32
  return l

def globalType : Decoder (WireType × Bool) := do
  let type ← wireType
  let mutability ← byte
  require (mutability < 2)
  return (type, mutability = 1)

def tagType : Decoder UInt32 := do
  let kind ← byte
  require (kind = 0)
  u32

end WasmTree.Binary.Decoder
