import WasmTree.ConstExpr
import WasmTree.Module.Basic
import WasmTree.Payload

/-!
From payloads to a module. Fields are collected in the order of the payloads; a body goes to the
function declared at the same place among the declared ones; debug names, wherever they stood, are
given out at the end.
-/

namespace WasmTree

structure ReadOptions where
  debugNames : Bool
  exceptions : Bool
  deriving DecidableEq

def WireSignature.read (s : WireSignature) : Reading Signature :=
  return ⟨← s.params.mapM WireType.read, ← s.results.mapM WireType.read⟩

/-- Folds the items of a batch, then fails if something malformed follows them. -/
def Batch.foldRead {α σ : Type} (b : Batch α) (during : Activity) (f : σ → α → Reading σ) (init : σ) :
    Reading σ := do
  let s ← b.items.foldlM f init
  if b.complete then return s else Reading.within during (.fail .malformedBinary)

def localLimit : UInt64 := 50000

structure Locals where
  total : UInt64
  types : Array ValueType

/-- The limit is checked before a run is looked at or expanded. -/
def Locals.extend (l : Locals) (run : UInt32 × WireType) : Reading Locals := do
  let total := l.total + run.1.toUInt64
  if localLimit < total then .fail (.tooManyLocals total.toNat localLimit.toNat)
  else
    let t ← run.2.read
    return ⟨total, l.types ++ Array.replicate run.1.toNat t⟩

def WireBody.readLocals (b : WireBody) : Reading (List ValueType) :=
  match b.locals with
  | none => Reading.within .readingLocals (.fail .malformedBinary)
  | some runs => return (← runs.foldRead .readingLocal Locals.extend ⟨0, #[]⟩).types.toList

def WireBody.readOperators (b : WireBody) (s : FoldSetting) : Reading (List Expr) := do
  (← b.operators.foldRead .readingOperator (Folding.stepAt s) .start).finish

/-- The locals of a body and its instructions. -/
def WireBody.read (b : WireBody) (s : FoldSetting) : Reading (List ValueType × List Expr) := do
  let locals ← b.readLocals
  return (locals, ← b.readOperators s)

/-- Names by the index of their function; of several for one function the last counts. -/
structure DebugNames where
  module : Option String
  funcs : Std.TreeMap Nat String
  locals : Std.TreeMap Nat (List (UInt32 × String))

namespace DebugNames

def empty : DebugNames := ⟨none, ∅, ∅⟩

/-- Names from a binary are marked like those of a text. -/
def marked (name : String) : String := "$" ++ name

def addFunction (d : DebugNames) (entry : UInt32 × String) : Reading DebugNames :=
  .ok { d with funcs := d.funcs.insert entry.1.toNat (marked entry.2) }

def addLocals (d : DebugNames) (entry : UInt32 × NameList) : Reading DebugNames := do
  let names ← entry.2.foldRead .readingLocalName
    (fun done n => .ok (done.push (n.1, marked n.2))) (#[] : Array (UInt32 × String))
  return { d with locals := d.locals.insert entry.1.toNat names.toList }

def addSubsection (d : DebugNames) : NameSubsection → Reading DebugNames
  | .module name => .ok { d with module := some (marked name) }
  | .functions names => names.foldRead .readingFunctionName addFunction d
  | .locals functions => functions.foldRead .readingLocalNames addLocals d
  | .other => .ok d

/-- Gives the function with index `i` its names. -/
def apply (d : DebugNames) (i : Nat) (f : Func) : Func :=
  let n := f.params.length
  let bind (f : Func) (entry : UInt32 × String) : Func :=
    let slot := entry.1.toNat
    if slot < n then { f with paramBindings := f.paramBindings.insert entry.2 ⟨.unknown, slot⟩ }
    else { f with localBindings := f.localBindings.insert entry.2 ⟨.unknown, slot - n⟩ }
  ((d.locals[i]?).getD []).foldl bind { f with name := (d.funcs[i]?).or f.name }

/-- Names a field if it is a function, of which `i` stand before it. -/
def applyNext (d : DebugNames) (i : Nat) (f : Field) : Field × Nat :=
  match f.mapFunc? (d.apply i) with
  | some named => (named, i + 1)
  | none => (f, i)

/-- Names the functions among the fields of a module, imported ones counted. -/
def applyAll (d : DebugNames) (fields : Array Field) : Array Field :=
  (fields.foldl
    (fun (done, i) f =>
      let (f, i) := d.applyNext i f
      (done.push f, i))
    ((#[] : Array Field), 0)).1

end DebugNames

/-- What was collected so far: `declared` are the positions of the fields that declare a function, and
the first `bodies` of these have their body. -/
structure Collected where
  types : Array Signature
  fields : Array Field
  declared : Array Nat
  bodies : Nat
  names : DebugNames

namespace Collected

def empty : Collected := ⟨#[], #[], #[], 0, .empty⟩

def push (c : Collected) (offset : Nat) (content : FieldContent) : Collected :=
  { c with fields := c.fields.push ⟨.binary offset, content⟩ }

def signature (c : Collected) (index : UInt32) : Reading Signature :=
  match c.types[index.toNat]? with
  | some s => .ok s
  | none => .fail (.typeIndex index)

def declaration (c : Collected) (index : UInt32) : Reading Declaration :=
  return .typed (.ofIndex index) (← c.signature index)

def addType (offset : Nat) (c : Collected) (t : WireSignature) : Reading Collected := do
  let s ← Reading.within .readingType t.read
  return { c with types := c.types.push s }.push offset (.type ⟨none, s⟩)

def importedEntity (o : ReadOptions) (c : Collected) : WireImportKind → Reading Entity
  | .func type => return .func (.ofDeclaration (← c.declaration type))
  | .table limits => .ok (.table ⟨none, limits⟩)
  | .memory limits => .ok (.memory ⟨none, limits⟩)
  | .global type mutable => return .global ⟨none, ← type.read, mutable, []⟩
  | .tag type =>
    if o.exceptions then return .except ⟨none, (← c.signature type).params⟩ else .fail .tagImport

def addImport (o : ReadOptions) (c : Collected) (i : Located WireImport) : Reading Collected := do
  let e ← Reading.within (.readingImportOf i.value.moduleName i.value.fieldName)
    (c.importedEntity o i.value.kind)
  return c.push i.offset (.imported ⟨i.value.moduleName, i.value.fieldName, e⟩)

def addFunction (c : Collected) (type : Located UInt32) : Reading Collected := do
  let d ← c.declaration type.value
  return { c with declared := c.declared.push c.fields.size }.push type.offset
    (.entity (.func (.ofDeclaration d)))

def addTable (c : Collected) (limits : Located Limits) : Reading Collected :=
  .ok (c.push limits.offset (.entity (.table ⟨none, limits.value⟩)))

def addMemory (c : Collected) (limits : Located Limits) : Reading Collected :=
  .ok (c.push limits.offset (.entity (.memory ⟨none, limits.value⟩)))

def addTag (c : Collected) (type : Located UInt32) : Reading Collected := do
  return c.push type.offset (.entity (.except ⟨none, (← c.signature type.value).params⟩))

def addGlobal (c : Collected) (g : Located WireGlobal) : Reading Collected := do
  let type ← g.value.type.read
  let init ← Reading.within .readingInitializer (readConstant #[] g.value.init)
  return c.push g.offset (.entity (.global ⟨none, type, g.value.mutable, init⟩))

def addExport (c : Collected) (x : Located WireExport) : Reading Collected :=
  .ok (c.push x.offset (.exported ⟨x.value.name, x.value.kind, .ofIndex x.value.index⟩))

def addElement (c : Collected) (e : Located WireElement) : Reading Collected :=
  match e.value with
  | .inactive => .ok c
  | .active table offset items => do
    let place ← Reading.within .readingElementOffset (readConstant #[] offset)
    match items with
    | .expressions => .fail .expressionSegment
    | .funcs indices =>
      return c.push e.offset (.elem ⟨.ofIndex (table.getD 0), place, indices.map .ofIndex⟩)

def addData (c : Collected) (d : Located WireData) : Reading Collected :=
  match d.value with
  | .passive => .ok c
  | .active memory offset bytes => do
    let place ← Reading.within .readingDataOffset (readConstant #[] offset)
    return c.push d.offset (.data ⟨.ofIndex memory, place, bytes⟩)

/-- The next body goes to the next declared function. -/
def addBody (o : ReadOptions) (c : Collected) (b : WireBody) : Reading Collected :=
  match c.declared[c.bodies]? with
  | none => .fail (.undeclaredBody c.bodies)
  | some position => do
    let (locals, body) ← Reading.within (.readingBody c.bodies) (b.read ⟨c.types, o.exceptions⟩)
    let fill (f : Func) : Func := { f with locals, body }
    return { c with
      fields := c.fields.modify position fun f => (f.mapFunc? fill).getD f
      bodies := c.bodies + 1 }

def addNames (c : Collected) (subsections : Batch NameSubsection) : Reading Collected := do
  let names ← Reading.within .readingNames
    (subsections.foldRead .readingSubsection DebugNames.addSubsection c.names)
  return { c with names }

def add (o : ReadOptions) (c : Collected) : Payload → Reading Collected
  | .header version component =>
    if component then .fail .component else if version ≠ 1 then .fail (.version version) else .ok c
  | .types start entries => entries.foldRead .readingType (addType start) c
  | .imports entries => entries.foldRead .readingImport (addImport o) c
  | .functions entries => entries.foldRead .readingFunction addFunction c
  | .tables entries => entries.foldRead .readingTable addTable c
  | .memories entries => entries.foldRead .readingMemory addMemory c
  | .tags entries => if o.exceptions then entries.foldRead .readingTag addTag c else .fail .tagSection
  | .globals entries => entries.foldRead .readingGlobal addGlobal c
  | .exports entries => entries.foldRead .readingExport addExport c
  | .start offset func => .ok (c.push offset (.start (.ofIndex func)))
  | .elements entries => entries.foldRead .readingElement addElement c
  | .datas entries => entries.foldRead .readingData addData c
  | .body b => c.addBody o b
  | .names subsections => if o.debugNames then c.addNames subsections else .ok c
  | .skipped => .ok c

def module (c : Collected) : Module :=
  { Module.empty with name := c.names.module }.appendAll (c.names.applyAll c.fields).toList

end Collected

/-- Every declared function needs a body and every body a declared function. -/
def readPayloads (o : ReadOptions) (payloads : Batch Payload) : Reading Module := do
  let c ← payloads.foldRead .parsingPayload (Collected.add o) .empty
  if c.bodies = c.declared.size then return c.module else .fail (.bodyCount c.declared.size c.bodies)

end WasmTree
