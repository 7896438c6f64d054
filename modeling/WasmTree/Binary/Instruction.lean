import WasmTree.Binary.Type

/-!
Operators, by their first byte.
-/

namespace WasmTree.Binary.Decoder

def blockType : Decoder BlockType := do
  let b ← peek
  if b = 0x40 then
    let _ ← byte
    return .empty
  else if 0x40 < b ∧ b < 0x80 then return .value (← wireType)
  else
    let index ← signed 33
    require (0 ≤ index && index < 0x100000000)
    return .func (.ofNat index.toNat)

/-- Bit 6 of the flags says that the index of a memory follows them. -/
def memArg : Decoder MemArg := do
  let flags ← unsigned 32
  require (flags < 128)
  let memory ← if flags < 64 then pure 0 else u32
  return ⟨flags % 64, ← u64, memory⟩

def branchTableLimit : Nat := 131072

open NumericOp in
/-- The numeric operators in the order of their codes, from `0x45` on. -/
def numericOps : Array NumericOp :=
  let conversions := Conversion.all.map conversion
  (conversions.take 1 ++ IntRelation.all.map (intRelation .w32) ++
    (conversions.drop 1).take 1 ++ IntRelation.all.map (intRelation .w64) ++
    FloatRelation.all.map (floatRelation .w32) ++ FloatRelation.all.map (floatRelation .w64) ++
    IntUnary.all.map (intUnary .w32) ++ IntBinary.all.map (intBinary .w32) ++
    IntUnary.all.map (intUnary .w64) ++ IntBinary.all.map (intBinary .w64) ++
    FloatUnary.all.map (floatUnary .w32) ++ FloatBinary.all.map (floatBinary .w32) ++
    FloatUnary.all.map (floatUnary .w64) ++ FloatBinary.all.map (floatBinary .w64) ++
    conversions.drop 2).toArray

/-- The loads and stores in the order of their codes, from `0x28` on. -/
def memoryOps : Array MemoryOp := MemoryOp.all.toArray

def extension (name : String) (operands : List (String × Operand)) : Operator :=
  .plain (.extension ⟨name, operands⟩)

/-- An extension whose operands are indices. -/
def indexed (name : String) (operands : List String) : Decoder Operator := do
  let mut read := #[]
  for operand in operands do
    read := read.push (operand, Operand.number (← u32))
  return extension name read.toList

def signExtensions : Array String :=
  #["I32Extend8S", "I32Extend16S", "I64Extend8S", "I64Extend16S", "I64Extend32S"]

def saturations : Array String :=
  #["I32TruncSatF32S", "I32TruncSatF32U", "I32TruncSatF64S", "I32TruncSatF64U", "I64TruncSatF32S",
    "I64TruncSatF32U", "I64TruncSatF64S", "I64TruncSatF64U"]

/-- The operators that the byte `0xFC` introduces. -/
def bulkOperator : Decoder Operator := do
  let code ← unsigned 32
  match saturations[code]? with
  | some name => return extension name []
  | none =>
    match code with
    | 0x08 => indexed "MemoryInit" ["data_index", "mem"]
    | 0x09 => indexed "DataDrop" ["data_index"]
    | 0x0A => indexed "MemoryCopy" ["dst_mem", "src_mem"]
    | 0x0B => indexed "MemoryFill" ["mem"]
    | 0x0C => indexed "TableInit" ["elem_index", "table"]
    | 0x0D => indexed "ElemDrop" ["elem_index"]
    | 0x0E => indexed "TableCopy" ["dst_table", "src_table"]
    | 0x0F => indexed "TableGrow" ["table"]
    | 0x10 => indexed "TableSize" ["table"]
    | 0x11 => indexed "TableFill" ["table"]
    | _ => fail

/-- The operators that the byte `0xFD` introduces. -/
def vectorOperator : Decoder Operator := do
  match ← unsigned 32 with
  | 0x0C => return extension "V128Const" [("value", .vector (← replicate 16 byte))]
  | 0xAE => return extension "I32x4Add" []
  | _ => fail

def referenceTo (r : Role) : Decoder Operator := return .plain (.reference r (← u32))

def operator (code : UInt8) : Decoder Operator :=
  match code with
  | 0x00 => return .plain (.bare .unreachable)
  | 0x01 => return .plain (.bare .nop)
  | 0x02 => return .block .block (← blockType)
  | 0x03 => return .block .loop (← blockType)
  | 0x04 => return .ifThen (← blockType)
  | 0x05 => return .elseBranch
  | 0x06 => return .tryBody (← blockType)
  | 0x07 => return .catchTag (← u32)
  | 0x08 => referenceTo .throw
  | 0x09 => referenceTo .rethrow
  | 0x0A => return extension "ThrowRef" []
  | 0x0B => return .finish
  | 0x0C => referenceTo .br
  | 0x0D => referenceTo .brIf
  | 0x0E => do
    let targets ← replicate (← count branchTableLimit) u32
    return .plain (.brTable targets (← u32))
  | 0x0F => return .plain (.bare .ret)
  | 0x10 => referenceTo .call
  | 0x11 => do
    let type ← u32
    return .plain (.callIndirect type (← u32))
  | 0x12 => indexed "ReturnCall" ["function_index"]
  | 0x13 => indexed "ReturnCallIndirect" ["type_index", "table_index"]
  | 0x18 => indexed "Delegate" ["relative_depth"]
  | 0x19 => return .catchAll
  | 0x1A => return .plain (.bare .drop)
  | 0x1B => return .plain (.bare .select)
  | 0x1C => do
    let arity ← unsigned 32
    require (arity = 1)
    return extension "TypedSelect" [("ty", .type (← wireType))]
  | 0x20 => referenceTo .getLocal
  | 0x21 => referenceTo .setLocal
  | 0x22 => referenceTo .teeLocal
  | 0x23 => referenceTo .getGlobal
  | 0x24 => referenceTo .setGlobal
  | 0x25 => indexed "TableGet" ["table"]
  | 0x26 => indexed "TableSet" ["table"]
  | 0x3F => return .plain (.memory .current (← u32))
  | 0x40 => return .plain (.memory .grow (← u32))
  | 0x41 => return .plain (.const (.i32 (← s32)))
  | 0x42 => return .plain (.const (.i64 (← s64)))
  | 0x43 => return .plain (.const (.f32 (.ofNat (← littleEndian 4))))
  | 0x44 => return .plain (.const (.f64 (.ofNat (← littleEndian 8))))
  | 0xD0 => return extension "RefNull" [("hty", .heap (← heapType))]
  | 0xD1 => return extension "RefIsNull" []
  | 0xD2 => indexed "RefFunc" ["function_index"]
  | 0xD3 => return extension "RefEq" []
  | 0xD4 => return extension "RefAsNonNull" []
  | 0xD5 => indexed "BrOnNull" ["relative_depth"]
  | 0xFC => bulkOperator
  | 0xFD => vectorOperator
  | code =>
    let n := code.toNat
    if n < 0x28 then fail
    else if n < 0x45 then
      match memoryOps[n - 0x28]? with
      | some op => return .plain (.access op (← memArg))
      | none => fail
    else if n < 0xC0 then (fun op => .plain (.numeric op)) <$> ofOption numericOps[n - 0x45]?
    else (extension · []) <$> ofOption signExtensions[n - 0xC0]?

/-- The operators up to and including the first end, whatever they are. -/
def constantExpression : Decoder (List (Located Operator)) := upTo (· = .finish) operator

end WasmTree.Binary.Decoder
