import WasmTree.Expr.Traversal
import WasmTree.Module.Basic

/-!
The summary of a module: a line for each field in the order of declaration, then the sizes of the
spaces, the imports, the start function and the number of instructions of each family. Names are
written as they are.
-/

namespace WasmTree

inductive Family where
  | control | parametric | storage | memory | numeric | exception
  deriving DecidableEq

namespace Family

def all : List Family := [control, parametric, storage, memory, numeric, exception]

def text : Family → String
  | control => "control"
  | parametric => "parametric"
  | storage => "variable"
  | memory => "memory"
  | numeric => "numeric"
  | exception => "exception"

def ofTag : Tag → Family
  | .bare .nop | .bare .ret | .bare .unreachable => control
  | .bare .drop | .bare .select => parametric
  | .memory _ | .access _ => memory
  | .reference .br | .reference .brIf | .reference .call | .callIndirect | .brTable => control
  | .reference .getGlobal | .reference .setGlobal | .reference .getLocal | .reference .setLocal
  | .reference .teeLocal => storage
  | .reference .throw | .reference .rethrow | .tryCatch => exception
  | .const | .numeric _ => numeric
  | .block _ | .ifElse => control

end Family

namespace Summary

def orDash (name : Option String) : String := name.getD "-"

def count (l : List Expr) : String := toString (Expr.treeLength l)

def mutability (g : Global) : String := bif g.mutable then "mut " else ""

/-- The part of an entity's description that does not depend on its contents. -/
def entityHead : Entity → String
  | .func f => orDash f.name ++ " " ++ f.decl.sig.display
  | .table t => orDash t.name ++ " " ++ t.limits.display
  | .memory m => orDash m.name ++ " " ++ m.limits.display
  | .global g => orDash g.name ++ " " ++ mutability g ++ g.type.text
  | .except e => orDash e.name ++ " " ++ ValueType.listText e.params

def entityBody : Entity → String
  | .func f => " locals=" ++ toString f.locals.length ++ " exprs=" ++ count f.body
  | .global g => " init=" ++ count g.init
  | .table _ | .memory _ | .except _ => ""

def describe : FieldContent → String
  | .entity e => entityHead e ++ entityBody e
  | .imported i =>
    "\"" ++ i.moduleName ++ "\".\"" ++ i.fieldName ++ "\" " ++ i.entity.kind.text ++ " " ++ entityHead i.entity
  | .exported x => "\"" ++ x.name ++ "\" " ++ x.kind.text ++ " " ++ x.var.display
  | .type t => orDash t.name ++ " " ++ t.sig.display
  | .elem s =>
    "table=" ++ s.table.display ++ " offset=" ++ count s.offset ++ " funcs=" ++ toString s.funcs.length
  | .data s =>
    "memory=" ++ s.memory.display ++ " offset=" ++ count s.offset ++ " bytes=" ++ toString s.bytes.length
  | .start v => v.display

def fieldLine (i : Nat) (f : Field) : String :=
  String.ofList ((toString i).toList.leftpad 4 ' ' ++ ' ' :: f.keyword.toList.rightpad 6 ' ') ++ " " ++
    describe f.content

/-- The instruction sequences of a field. Those of an imported entity do not count. -/
def sequences (f : Field) : List (List Expr) :=
  match f.content with
  | .entity (.func g) => [g.body]
  | .entity (.global g) => [g.init]
  | .elem s => [s.offset]
  | .data s => [s.offset]
  | _ => []

def sizes (entries : List (String × Nat)) : String :=
  " ".intercalate (entries.map fun e => e.1 ++ "=" ++ toString e.2)

def totals (m : Module) : String :=
  sizes [("types", m.size .types), ("funcs", m.size .funcs), ("tables", m.size .tables),
    ("memories", m.size .memories), ("globals", m.size .globals), ("excepts", m.size .excepts),
    ("exports", m.size .exports), ("elems", m.size .elems), ("data", m.size .datas)]

def importTotals (m : Module) : String :=
  sizes [("funcs", m.importCount .func), ("tables", m.importCount .table),
    ("memories", m.importCount .memory), ("globals", m.importCount .global),
    ("excepts", m.importCount .except)]

def familyCounts (m : Module) : List (String × Nat) :=
  let families := (m.fields.toList.flatMap sequences).flatMap fun l =>
    (Expr.treeNodes l).toList.map fun n => Family.ofTag n.2.tag
  Family.all.map fun f => (f.text, families.count f)

def lines (m : Module) : List String :=
  ["module " ++ orDash m.name] ++ m.fields.toList.mapIdx fieldLine ++
    [totals m, "imports: " ++ importTotals m] ++ (m.start?.map fun v => "start: " ++ v.display).toList ++
    ["instructions: " ++ sizes (familyCounts m)]

end Summary

def Module.summary (m : Module) : String := String.join ((Summary.lines m).map fun l => l ++ "\n")

end WasmTree
