import WasmTree.Expr.Basic
import WasmTree.WireType

/-!
The flat instructions of a function body or constant expression, as a binary lists them. Structured
instructions are opened, divided and closed by operators of their own.
-/

namespace WasmTree

inductive BlockType where
  | empty
  | value (t : WireType)
  | func (index : UInt32)
  deriving DecidableEq

/-- The immediates of a load or store; `exponent` is the base-2 logarithm of the alignment. -/
structure MemArg where
  exponent : Nat
  offset : UInt64
  memory : UInt32
  deriving DecidableEq

inductive Operand where
  | number (n : UInt32)
  | type (t : WireType)
  | heap (t : HeapType)
  | vector (bytes : List UInt8)
  deriving DecidableEq

/-- An operator that no expression stands for, with what is needed to name it. -/
structure Extension where
  name : String
  operands : List (String × Operand)
  deriving DecidableEq

inductive PlainOperator where
  | bare (b : Bare)
  | reference (r : Role) (index : UInt32)
  | callIndirect (type table : UInt32)
  | brTable (targets : List UInt32) (fallback : UInt32)
  | memory (f : MemoryForm) (index : UInt32)
  | const (l : Literal)
  | numeric (op : NumericOp)
  | access (op : MemoryOp) (arg : MemArg)
  | extension (e : Extension)
  deriving DecidableEq

inductive Operator where
  | block (form : BlockForm) (type : BlockType)
  | ifThen (type : BlockType)
  | elseBranch
  | tryBody (type : BlockType)
  | catchTag (tag : UInt32)
  | catchAll
  | finish
  | plain (op : PlainOperator)
  deriving DecidableEq

open Outline

def BlockType.outline : BlockType → String
  | empty => "Empty"
  | value t => wrap "Type" t.outline
  | func index => wrap "FuncType" (toString index)

def Operand.outline : Operand → String
  | number n => toString n
  | type t => t.outline
  | heap t => t.outline
  | vector bytes => wrap "V128" (list (bytes.map toString))

def Extension.outline (e : Extension) : String :=
  if e.operands.isEmpty then e.name else record e.name (e.operands.map fun p => (p.1, p.2.outline))

/-- The name of an operator that refers to one thing, and of what it refers to. -/
def Role.operatorName : Role → String × String
  | br => ("Br", "relative_depth")
  | brIf => ("BrIf", "relative_depth")
  | call => ("Call", "function_index")
  | getGlobal => ("GlobalGet", "global_index")
  | setGlobal => ("GlobalSet", "global_index")
  | getLocal => ("LocalGet", "local_index")
  | setLocal => ("LocalSet", "local_index")
  | teeLocal => ("LocalTee", "local_index")
  | throw => ("Throw", "tag_index")
  | rethrow => ("Rethrow", "relative_depth")

def Literal.operatorOutline : Literal → String
  | i32 b => record "I32Const" [("value", toString b.toInt32)]
  | i64 b => record "I64Const" [("value", toString b.toInt64)]
  | f32 b => record "F32Const" [("value", wrap "Ieee32" (toString b))]
  | f64 b => record "F64Const" [("value", wrap "Ieee64" (toString b))]

def MemArg.outline (a : MemArg) (op : MemoryOp) : String :=
  record "MemArg"
    [("align", toString a.exponent), ("max_align", toString op.naturalExponent),
      ("offset", toString a.offset), ("memory", toString a.memory)]

def PlainOperator.outline : PlainOperator → String
  | bare b => b.text
  | reference r index => record r.operatorName.1 [(r.operatorName.2, toString index)]
  | callIndirect type table =>
    record "CallIndirect" [("type_index", toString type), ("table_index", toString table)]
  | brTable targets fallback =>
    record "BrTable" [("targets", record "BrTable"
      [("count", toString targets.length), ("default", toString fallback),
        ("targets", list (targets.map toString))])]
  | memory .current index => record "MemorySize" [("mem", toString index)]
  | memory .grow index => record "MemoryGrow" [("mem", toString index)]
  | const l => l.operatorOutline
  | numeric op => (Opcode.numeric op).camelName
  | access op arg => record (Opcode.memory op).camelName [("memarg", arg.outline op)]
  | extension e => e.outline

def Operator.outline : Operator → String
  | block form type => record form.text [("blockty", type.outline)]
  | ifThen type => record "If" [("blockty", type.outline)]
  | elseBranch => "Else"
  | tryBody type => record "Try" [("blockty", type.outline)]
  | catchTag tag => record "Catch" [("tag_index", toString tag)]
  | catchAll => "CatchAll"
  | finish => "End"
  | plain op => op.outline

end WasmTree
