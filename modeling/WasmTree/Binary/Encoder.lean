import WasmTree.Text.ModuleText

/-!
The binary of a module in the text format: a type for each signature in order of use, then functions,
memories, exports and bodies, and the names that the text gives.
-/

namespace WasmTree.Binary

open Text

def encodeNat (n : Nat) : List UInt8 :=
  if n < 128 then [n.toUInt8] else (n % 128 + 128).toUInt8 :: encodeNat (n / 128)
termination_by n

/-- A number of two's complement, as short as its sign allows. -/
def encodeInt (i : Int) : List UInt8 :=
  let group := (i % 128).toNat.toUInt8
  if -64 ≤ i ∧ i < 64 then [group] else (group + 128) :: encodeInt (i / 128)
termination_by i.natAbs
decreasing_by omega

def encodeBytes (bytes : List UInt8) : List UInt8 := encodeNat bytes.length ++ bytes

def encodeName (s : String) : List UInt8 := encodeBytes s.toUTF8.toList

def encodeVector (items : List (List UInt8)) : List UInt8 := encodeNat items.length ++ items.flatten

/-- A section, left out when it has no items. -/
def encodeSection (id : UInt8) (items : List (List UInt8)) : List UInt8 :=
  if items.isEmpty then [] else id :: encodeBytes (encodeVector items)

def encodeType : ValueType → UInt8
  | .i32 => 0x7F
  | .i64 => 0x7E
  | .f32 => 0x7D
  | .f64 => 0x7C

def encodeSignature (s : Signature) : List UInt8 :=
  0x60 :: (encodeBytes (s.params.map encodeType) ++ encodeBytes (s.results.map encodeType))

def encodeInstruction : Instruction → List UInt8
  | .nop => [0x01]
  | .drop => [0x1A]
  | .add => [0x6A]
  | .i32Const v => 0x41 :: encodeInt (if v < 0x80000000 then v else v - 0x100000000)
  | .i64Const v => 0x42 :: encodeInt (if v < 0x8000000000000000 then v else v - 0x10000000000000000)
  | .localGet i => 0x20 :: encodeNat i

/-- Neighbouring locals of one type share an entry. -/
def runs (types : List ValueType) : List (Nat × ValueType) :=
  (types.splitBy (· == ·)).filterMap fun run => run.head?.map fun t => (run.length, t)

def encodeBody (f : FunctionField) : List UInt8 :=
  encodeBytes (encodeVector ((runs (f.locals.map Variable.type)).map fun r => encodeNat r.1 ++ [encodeType r.2]) ++
    f.body.flatMap encodeInstruction ++ [0x0B])

def encodeMemory (m : MemoryField) : List UInt8 :=
  match m.max with
  | none => 0 :: encodeNat m.initial
  | some max => 1 :: (encodeNat m.initial ++ encodeNat max)

def encodeExports (kind : UInt8) (index : Nat) (names : List String) : List (List UInt8) :=
  names.map fun n => encodeName n ++ kind :: encodeNat index

/-- The exports of some fields, with the numbers of functions and memories before them. -/
def fieldExports (functions memories : Nat) : List ModuleField → List (List UInt8)
  | [] => []
  | .function f :: fs => encodeExports 0 functions f.exports ++ fieldExports (functions + 1) memories fs
  | .memory m :: fs => encodeExports 2 memories m.exports ++ fieldExports functions (memories + 1) fs

/-- Pairs of an index and a name for the items that have one. -/
def encodeNames (names : List (Option String)) : List (List UInt8) :=
  (names.mapIdx fun i n => n.map fun s => encodeNat i ++ encodeName s).filterMap id

def encodeLocalNames (functions : List FunctionField) : List (List UInt8) :=
  (functions.mapIdx fun i f =>
    let names := encodeNames ((f.params ++ f.locals).map Variable.name)
    if names.isEmpty then none else some (encodeNat i ++ encodeVector names)).filterMap id

def encodeNameSection (m : ModuleText) (functions : List FunctionField) (memories : List MemoryField) :
    List UInt8 :=
  let content := (m.name.map fun n => 0 :: encodeBytes (encodeName n)).getD [] ++
    encodeSection 1 (encodeNames (functions.map FunctionField.name)) ++
    encodeSection 2 (encodeLocalNames functions) ++
    encodeSection 6 (encodeNames (memories.map MemoryField.name))
  if content.isEmpty then [] else 0 :: encodeBytes (encodeName "name" ++ content)

def encodeModule (m : ModuleText) : List UInt8 :=
  let functions := m.fields.filterMap fun | .function f => some f | .memory _ => none
  let memories := m.fields.filterMap fun | .memory m => some m | .function _ => none
  let types := (functions.map FunctionField.signature).eraseDups
  [0x00, 0x61, 0x73, 0x6D, 0x01, 0x00, 0x00, 0x00] ++
    encodeSection 1 (types.map encodeSignature) ++
    encodeSection 3 (functions.map fun f => encodeNat (types.idxOf f.signature)) ++
    encodeSection 5 (memories.map encodeMemory) ++
    encodeSection 7 (fieldExports 0 0 m.fields) ++
    encodeSection 10 (functions.map encodeBody) ++
    encodeNameSection m functions memories

end WasmTree.Binary
