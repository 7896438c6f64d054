import WasmTree.Binary.Decoder

/-!
Numbers and names. Integers come in groups of seven bits, the lowest first; the last group of the
widest form leaves its unused bits clear, or copies the sign into them.
-/

namespace WasmTree.Binary.Decoder

/-- A natural number below `2 ^ bits`. -/
def unsigned (bits : Nat) : Decoder Nat := do
  let b ← byte
  if bits ≤ 7 then
    require (b.toNat < Nat.pow 2 bits)
    return b.toNat
  else if b < 128 then return b.toNat
  else return b.toNat - 128 + 128 * (← unsigned (bits - 7))
termination_by bits

/-- The two's complement value of seven bits. -/
def signedGroup (b : UInt8) : Int := if b < 64 then b.toNat else b.toNat - 128

/-- An integer of `bits` bits with its sign. -/
def signed (bits : Nat) : Decoder Int := do
  let b ← byte
  if bits ≤ 7 then
    require (b < 128 && (b.toNat < Nat.pow 2 (bits - 1) || 128 - Nat.pow 2 (bits - 1) ≤ b.toNat))
    return signedGroup b
  else if b < 128 then return signedGroup b
  else return (b.toNat - 128 : Int) + 128 * (← signed (bits - 7))
termination_by bits

def u32 : Decoder UInt32 := UInt32.ofNat <$> unsigned 32

def u64 : Decoder UInt64 := UInt64.ofNat <$> unsigned 64

def s32 : Decoder UInt32 := (fun i => (Int32.ofInt i).toUInt32) <$> signed 32

def s64 : Decoder UInt64 := (fun i => (Int64.ofInt i).toUInt64) <$> signed 64

/-- A count that may not exceed a limit. -/
def count (limit : Nat) : Decoder Nat := do
  let n ← unsigned 32
  require (n ≤ limit)
  return n

def littleEndian (n : Nat) : Decoder Nat :=
  (fun bs : List UInt8 => bs.foldr (fun b v => b.toNat + 256 * v) 0) <$> replicate n byte

/-- Bytes preceded by their number. -/
def block : Decoder Cursor := do slice (← unsigned 32)

def nameLimit : Nat := 100000

/-- The bytes of a name, which need not be text yet. -/
def nameBytes : Decoder Cursor := do slice (← count nameLimit)

def text (raw : Cursor) : Decoder String := ofOption (String.fromUTF8? ⟨raw.rest.toArray⟩)

def name : Decoder String := do text (← nameBytes)

end WasmTree.Binary.Decoder
