import WasmTree.Signature
import WasmTree.Text.Form
import WasmTree.Text.Number

/-!
Modules in the text format, as far as they are made of functions without nested instructions and of
memories. Fields may stand alone or inside a module.
-/

namespace WasmTree.Text

inductive Instruction where
  | nop
  | drop
  | add
  | i32Const (value : Int)
  | i64Const (value : Int)
  | localGet (index : Nat)

structure Variable where
  name : Option String
  type : ValueType

structure FunctionField where
  name : Option String
  exports : List String
  params : List Variable
  results : List ValueType
  locals : List Variable
  body : List Instruction

def FunctionField.signature (f : FunctionField) : Signature := ⟨f.params.map Variable.type, f.results⟩

structure MemoryField where
  name : Option String
  exports : List String
  initial : Nat
  max : Option Nat

inductive ModuleField where
  | function (f : FunctionField)
  | memory (m : MemoryField)

structure ModuleText where
  name : Option String
  fields : List ModuleField

/-- The name that a word stands for, if it is one. -/
def identifier? (w : String) : Option String :=
  match w.toList with
  | '$' :: c :: cs => some (String.ofList (c :: cs))
  | _ => none

/-- The name at the head of some forms, and what follows it. -/
def takeName : List Form → Option String × List Form
  | .word w :: rest =>
    match identifier? w with
    | some n => (some n, rest)
    | none => (none, .word w :: rest)
  | forms => (none, forms)

def takeExports (done : List String) : List Form → Option (List String × List Form)
  | .list [.word "export", .string b] :: rest =>
    (String.fromUTF8? ⟨b.toArray⟩).bind fun s => takeExports (s :: done) rest
  | forms => some (done.reverse, forms)

def valueType? (f : Form) : Option ValueType :=
  match f with
  | .word w => ValueType.all.find? fun t => t.text == w
  | _ => none

/-- Variables are declared one by one with a name or several together without. -/
def slots? : List Form → Option (List Variable)
  | [.word w, type] =>
    match identifier? w with
    | some n => (valueType? type).map fun t => [⟨some n, t⟩]
    | none => [Form.word w, type].mapM fun f => (valueType? f).map fun t => ⟨none, t⟩
  | forms => forms.mapM fun f => (valueType? f).map fun t => ⟨none, t⟩

/-- The parameters and results at the head of some forms, and what follows them. No parameter comes after
a result. -/
def takeSignature (params : Array Variable) (results : Array ValueType) :
    List Form → Option ((List Variable × List ValueType) × List Form)
  | .list (.word "param" :: items) :: rest =>
    if results.isEmpty then (slots? items).bind fun more => takeSignature (params ++ more) results rest else none
  | .list (.word "result" :: items) :: rest =>
    (items.mapM valueType?).bind fun more => takeSignature params (results ++ more) rest
  | forms => some ((params.toList, results.toList), forms)

/-- The locals at the head of some forms, and what follows them. -/
def takeLocals (locals : Array Variable) : List Form → Option (List Variable × List Form)
  | .list (.word "local" :: items) :: rest =>
    (slots? items).bind fun more => takeLocals (locals ++ more) rest
  | forms => some (locals.toList, forms)

def localIndex? (slots : List Variable) (w : String) : Option Nat :=
  match identifier? w with
  | some n => slots.findIdx? fun v => v.name == some n
  | none => naturalOf? 32 w

def instructions? (slots : List Variable) (done : Array Instruction) :
    List Form → Option (List Instruction)
  | [] => some done.toList
  | .word "nop" :: rest => instructions? slots (done.push .nop) rest
  | .word "drop" :: rest => instructions? slots (done.push .drop) rest
  | .word "i32.add" :: rest => instructions? slots (done.push .add) rest
  | .word "i32.const" :: .word n :: rest =>
    (integerOf? 32 n).bind fun i => instructions? slots (done.push (.i32Const i)) rest
  | .word "i64.const" :: .word n :: rest =>
    (integerOf? 64 n).bind fun i => instructions? slots (done.push (.i64Const i)) rest
  | .word "local.get" :: .word v :: rest =>
    (localIndex? slots v).bind fun i => instructions? slots (done.push (.localGet i)) rest
  | _ => none

/-- No name is given twice. -/
def distinct (names : List (Option String)) : Bool := decide (names.filterMap id).Nodup

def function? (forms : List Form) : Option FunctionField := do
  let (name, forms) := takeName forms
  let (exports, forms) ← takeExports [] forms
  let ((params, results), forms) ← takeSignature #[] #[] forms
  let (locals, forms) ← takeLocals #[] forms
  let slots := params ++ locals
  if distinct (slots.map Variable.name) then
    return ⟨name, exports, params, results, locals, ← instructions? slots #[] forms⟩
  else none

def memory? (forms : List Form) : Option MemoryField := do
  let (name, forms) := takeName forms
  let (exports, forms) ← takeExports [] forms
  match forms with
  | [.word initial] => return ⟨name, exports, ← naturalOf? 64 initial, none⟩
  | [.word initial, .word max] => return ⟨name, exports, ← naturalOf? 64 initial, ← naturalOf? 64 max⟩
  | _ => none

def field? : Form → Option ModuleField
  | .list (.word "func" :: forms) => (function? forms).map .function
  | .list (.word "memory" :: forms) => (memory? forms).map .memory
  | _ => none

def ModuleField.functionName? : ModuleField → Option String
  | function f => f.name
  | memory _ => none

def ModuleField.memoryName? : ModuleField → Option String
  | memory m => m.name
  | function _ => none

def moduleOf? (name : Option String) (forms : List Form) : Option ModuleText := do
  let fields ← forms.mapM field?
  if distinct (fields.map ModuleField.functionName?) && distinct (fields.map ModuleField.memoryName?) then
    return ⟨name, fields⟩
  else none

def module? : List Form → Option ModuleText
  | [] => none
  | [.list (.word "module" :: forms)] => moduleOf? (takeName forms).1 (takeName forms).2
  | forms => moduleOf? none forms

end WasmTree.Text
