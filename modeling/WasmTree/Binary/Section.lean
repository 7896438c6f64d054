import WasmTree.Binary.Instruction

/-!
Sections and what they list.
-/

namespace WasmTree.Binary

open Decoder

/-- Runs a decoder `n` times, as far as that goes; the cursor is missing if it did not go all the way. -/
def items {α : Type} (d : Decoder α) : Nat → Cursor → Array (Located α) → List (Located α) × Option Cursor
  | 0, c, done => (done.toList, some c)
  | n + 1, c, done =>
    match d c with
    | none => (done.toList, none)
    | some ⟨(a, c'), _⟩ => items d n c' (done.push ⟨c.position, a⟩)

/-- A number and that many items, with nothing after them. Without the number there is no batch. -/
def counted? {α : Type} (d : Decoder α) (c : Cursor) : Option (Batch (Located α)) :=
  (unsigned 32 c).map fun r =>
    let (found, ends) := items d r.1.1 r.1.2 #[]
    ⟨found, ends.any fun e => e.rest.isEmpty⟩

/-- Items up to the end of the bytes. -/
def exhaust {α : Type} (d : UInt8 → Decoder α) : Cursor → Array (Located α) → Batch (Located α)
  | ⟨_, []⟩, done => ⟨done.toList, true⟩
  | ⟨p, b :: bs⟩, done =>
    match d b ⟨p + 1, bs⟩ with
    | none => ⟨done.toList, false⟩
    | some ⟨(a, c), h⟩ =>
      have : c.rest.length ≤ bs.length := h.rest_length
      exhaust d c (done.push ⟨p, a⟩)
termination_by c => c.rest.length

/-- The only item of some bytes. -/
def sole? {α : Type} (d : Decoder α) (c : Cursor) : Option α :=
  (d c).bind fun r => if r.1.2.rest.isEmpty then some r.1.1 else none

def plain {α : Type} (b : Batch (Located α)) : Batch α := ⟨b.items.map Located.value, b.complete⟩

def importKind : Decoder WireImportKind := do
  match ← byte with
  | 0 => return .func (← u32)
  | 1 => return .table (← tableType)
  | 2 => return .memory (← memoryType)
  | 3 =>
    let (type, mutable) ← globalType
    return .global type mutable
  | 4 => return .tag (← tagType)
  | _ => fail

def importEntry : Decoder WireImport := do
  let moduleName ← name
  let fieldName ← name
  return ⟨moduleName, fieldName, ← importKind⟩

/-- A table may bring an initializer for its elements, which is passed over. -/
def tableEntry : Decoder Limits := do
  if (← peek) = 0x40 then
    let _ ← byte
    let reserved ← byte
    require (reserved = 0)
    let l ← tableType
    let _ ← constantExpression
    return l
  else tableType

def globalEntry : Decoder WireGlobal := do
  let (type, mutable) ← globalType
  return ⟨type, mutable, ← constantExpression⟩

def externalKind : Decoder ExternalKind := do
  match ← byte with
  | 0 => return .func
  | 1 => return .table
  | 2 => return .memory
  | 3 => return .global
  | 4 => return .except
  | _ => fail

def exportEntry : Decoder WireExport := do
  let n ← name
  let kind ← externalKind
  return ⟨n, kind, ← u32⟩

def elementItems (expressions : Bool) : Decoder ElementItems := do
  let n ← unsigned 32
  if expressions then
    discard n constantExpression
    return .expressions
  else return .funcs (← replicate n u32)

/-- Bit 0 of the flags marks a segment that is not active, bit 1 one that names its table or is merely
declared, bit 2 one whose items are expressions. -/
def elementEntry : Decoder WireElement := do
  let flags ← unsigned 32
  require (flags < 8)
  let active := !flags.testBit 0
  let expressions := flags.testBit 2
  let table ← if active && flags.testBit 1 then some <$> u32 else pure none
  let offset ← if active then constantExpression else pure []
  if flags % 4 ≠ 0 then
    if expressions then
      let _ ← refType
    else
      let kind ← byte
      require (kind = 0)
  let found ← elementItems expressions
  return if active then .active table offset found else .inactive

def dataEntry : Decoder WireData := do
  match ← unsigned 32 with
  | 0 =>
    let offset ← constantExpression
    return .active 0 offset (← block).rest
  | 1 =>
    let _ ← block
    return .passive
  | 2 =>
    let memory ← u32
    let offset ← constantExpression
    return .active memory offset (← block).rest
  | _ => fail

def localEntry : Decoder (UInt32 × WireType) := do
  let n ← u32
  return (n, ← wireType)

def body (c : Cursor) : WireBody :=
  match unsigned 32 c with
  | none => ⟨none, ⟨[], false⟩⟩
  | some ⟨(n, c), _⟩ =>
    let (locals, ends) := items localEntry n c #[]
    ⟨some (plain ⟨locals, ends.isSome⟩), ends.elim ⟨[], false⟩ fun c => exhaust operator c #[]⟩

/-- The name of a function, which may be of any length. -/
def nameEntry : Decoder (UInt32 × String) := do
  let index ← u32
  return (index, ← text (← block))

def rawNameEntry : Decoder (UInt32 × Cursor) := do
  let index ← u32
  return (index, ← nameBytes)

/-- The names up to the first that is not text. -/
def decodeNames (done : Array (UInt32 × String)) : List (UInt32 × Cursor) → NameList
  | [] => ⟨done.toList, true⟩
  | (index, c) :: raw =>
    match String.fromUTF8? ⟨c.rest.toArray⟩ with
    | some n => decodeNames (done.push (index, n)) raw
    | none => ⟨done.toList, false⟩

def localNameEntry : Decoder (UInt32 × NameList) := do
  let func ← u32
  let raw ← replicate (← unsigned 32) rawNameEntry
  return (func, decodeNames #[] raw)

/-- The last kind of subsection that lists names. -/
def lastNameKind : UInt8 := 11

def nameContent? (kind : UInt8) (c : Cursor) : Option NameSubsection :=
  if kind = 0 then (sole? name c).map .module
  else if kind = 1 then (counted? nameEntry c).map fun b => .functions (plain b)
  else if kind = 2 then (counted? localNameEntry c).map fun b => .locals (plain b)
  else if kind ≤ lastNameKind then (unsigned 32 c).map fun _ => .other
  else some .other

def nameSubsection (kind : UInt8) : Decoder NameSubsection := do
  require (kind < 0x80)
  ofOption (nameContent? kind (← block))

def custom? (c : Cursor) : Option Payload :=
  (name c).map fun r =>
    if r.1.1 = "name" then .names (plain (exhaust nameSubsection r.1.2 #[])) else .skipped

/-- The payload of a section other than that of the bodies. -/
def payload? (id : UInt8) (c : Cursor) : Option Payload :=
  match id with
  | 0 => custom? c
  | 1 => (counted? signature c).map fun b => .types c.position (plain b)
  | 2 => (counted? importEntry c).map .imports
  | 3 => (counted? u32 c).map .functions
  | 4 => (counted? tableEntry c).map .tables
  | 5 => (counted? memoryType c).map .memories
  | 6 => (counted? globalEntry c).map .globals
  | 7 => (counted? exportEntry c).map .exports
  | 8 => (sole? u32 c).map fun func => .start c.position func
  | 9 => (counted? elementEntry c).map .elements
  | 11 => (counted? dataEntry c).map .datas
  | 12 => (sole? u32 c).map fun _ => .skipped
  | 13 => (counted? tagType c).map .tags
  | _ => some .skipped

/-- The bodies that lie within the section, each a payload of its own. -/
def bodies (c : Cursor) : Batch Payload :=
  match counted? block c with
  | none => ⟨[], false⟩
  | some b => ⟨b.items.map fun entry => .body (body entry.value), b.complete⟩

/-- The payloads of a section. Only bodies are handed over from a section that is cut short. -/
def sectionPayloads (id : UInt8) (size : Nat) (c : Cursor) : Batch Payload :=
  let content : Cursor := ⟨c.position, c.rest.take size⟩
  let whole := content.rest.length == size
  if id = 10 then
    let b := bodies content
    ⟨b.items, whole && b.complete⟩
  else
    match if whole then payload? id content else none with
    | some p => ⟨[p], true⟩
    | none => ⟨[], false⟩

def sectionSize (id : UInt8) : Decoder Nat := do
  require (id < 0x80)
  unsigned 32

def sections : Cursor → Array Payload → Batch Payload
  | ⟨_, []⟩, done => ⟨done.toList, true⟩
  | ⟨p, id :: bs⟩, done =>
    match sectionSize id ⟨p + 1, bs⟩ with
    | none => ⟨done.toList, false⟩
    | some ⟨(size, c), h⟩ =>
      have : c.rest.length ≤ bs.length := h.rest_length
      let b := sectionPayloads id size c
      let done := done ++ b.items.toArray
      bif b.complete then sections (c.advance size) done else ⟨done.toList, false⟩
termination_by c => c.rest.length
decreasing_by simp [Cursor.advance]; omega

def magic : List UInt8 := [0x00, 0x61, 0x73, 0x6D]

/-- The version, and whether the file is a component and not a module. -/
def header : Decoder (Nat × Bool) := do
  let start ← replicate 4 byte
  require (start = magic)
  let word ← littleEndian 4
  require (word / 0x10000 < 2)
  return (word % 0x10000, word / 0x10000 = 1)

/-- What a binary holds, up to the first fault of its frame. -/
def payloads (bytes : List UInt8) : Batch Payload :=
  match header ⟨0, bytes⟩ with
  | none => ⟨[], false⟩
  | some ⟨((version, component), c), _⟩ => sections c #[.header version component]

end WasmTree.Binary
