import WasmTree.Constant
import WasmTree.Opcode
import WasmTree.Var

/-!
Instruction trees. A structured instruction owns the sequences nested in it; every other one is
plain.
-/

namespace WasmTree

/-- Instructions without operands. -/
inductive Bare where
  | nop | drop | select | ret | unreachable
  deriving DecidableEq

/-- What a plain instruction does with the one entity or label it refers to. -/
inductive Role where
  | br | brIf | call | getGlobal | setGlobal | getLocal | setLocal | teeLocal | throw | rethrow
  deriving DecidableEq

inductive MemoryForm where
  | current | grow
  deriving DecidableEq

inductive NumericForm where
  | binary | compare | convert | unary
  deriving DecidableEq

inductive AccessForm where
  | load | store
  deriving DecidableEq

inductive BlockForm where
  | block | loop
  deriving DecidableEq

/-- Plain instructions. The opcode is whatever the producer put there, fitting or not; `align` is in
bytes. -/
inductive Instr where
  | bare (b : Bare)
  | reference (r : Role) (v : Var)
  | callIndirect (type : Var)
  | brTable (targets : List Var) (fallback : Var)
  | memory (f : MemoryForm)
  | const (c : Constant)
  | numeric (f : NumericForm) (op : Opcode)
  | access (f : AccessForm) (op : Opcode) (align offset : UInt32)
  deriving DecidableEq

structure Heading where
  label : Option String
  sig : List ValueType
  deriving DecidableEq

structure Handler (α : Type) where
  loc : Location
  var : Var
  body : List α

/-- Only the reserved index catches everything: a name never does, resolved or not. -/
def Handler.catchesAll {α : Type} (h : Handler α) : Bool := h.var.target == .index invalidIndex

/-- An absent false branch differs from an empty one. -/
inductive Expr where
  | plain (loc : Location) (instr : Instr)
  | block (loc : Location) (form : BlockForm) (heading : Heading) (body : List Expr)
  | ifElse (loc : Location) (heading : Heading) (yes : List Expr) (no : Option (List Expr))
  | tryCatch (loc : Location) (heading : Heading) (body : List Expr) (handlers : List (Handler Expr))

/-- The kind of an instruction, without its operands. -/
inductive Tag where
  | bare (b : Bare)
  | reference (r : Role)
  | callIndirect
  | brTable
  | memory (f : MemoryForm)
  | const
  | numeric (f : NumericForm)
  | access (f : AccessForm)
  | block (f : BlockForm)
  | ifElse
  | tryCatch
  deriving DecidableEq

def Bare.text : Bare → String
  | nop => "Nop"
  | drop => "Drop"
  | select => "Select"
  | ret => "Return"
  | unreachable => "Unreachable"

def Role.text : Role → String
  | br => "Br"
  | brIf => "BrIf"
  | call => "Call"
  | getGlobal => "GetGlobal"
  | setGlobal => "SetGlobal"
  | getLocal => "GetLocal"
  | setLocal => "SetLocal"
  | teeLocal => "TeeLocal"
  | throw => "Throw"
  | rethrow => "Rethrow"

def MemoryForm.text : MemoryForm → String
  | current => "CurrentMemory"
  | grow => "GrowMemory"

def NumericForm.text : NumericForm → String
  | binary => "Binary"
  | compare => "Compare"
  | convert => "Convert"
  | unary => "Unary"

def AccessForm.text : AccessForm → String
  | load => "Load"
  | store => "Store"

def BlockForm.text : BlockForm → String
  | block => "Block"
  | loop => "Loop"

def Tag.text : Tag → String
  | bare b => b.text
  | reference r => r.text
  | callIndirect => "CallIndirect"
  | brTable => "BrTable"
  | memory f => f.text
  | const => "Const"
  | numeric f => f.text
  | access f => f.text
  | block f => f.text
  | ifElse => "If"
  | tryCatch => "Try"

def Instr.tag : Instr → Tag
  | bare b => .bare b
  | reference r _ => .reference r
  | callIndirect _ => .callIndirect
  | brTable .. => .brTable
  | memory f => .memory f
  | const _ => .const
  | numeric f _ => .numeric f
  | access f .. => .access f

namespace Expr

def loc : Expr → Location
  | plain l _ | block l .. | ifElse l .. | tryCatch l .. => l

def tag : Expr → Tag
  | plain _ i => i.tag
  | block _ f .. => .block f
  | ifElse .. => .ifElse
  | tryCatch .. => .tryCatch

def opcode? : Expr → Option Opcode
  | plain _ (.numeric _ op) | plain _ (.access _ op ..) => some op
  | _ => none

def var? : Expr → Option Var
  | plain _ (.reference _ v) | plain _ (.callIndirect v) => some v
  | _ => none

/-- The next `if` of a chain, when the false branch is exactly one. -/
def elseIf? : Expr → Option Expr
  | ifElse _ _ _ (some [next@(ifElse ..)]) => some next
  | _ => none

def catchAll? : Expr → Option (Handler Expr)
  | tryCatch _ _ _ handlers => handlers.find? Handler.catchesAll
  | _ => none

/-- The sequences nested directly in a node, in program order. -/
def children : Expr → List (List Expr)
  | plain .. => []
  | block _ _ _ body => [body]
  | ifElse _ _ yes no => yes :: no.toList
  | tryCatch _ _ body handlers => body :: handlers.map Handler.body

theorem sizeOf_lt_of_mem_children {e x : Expr} {l : List Expr} (hl : l ∈ e.children) (hx : x ∈ l) :
    sizeOf x < sizeOf e := by
  have h := List.sizeOf_lt_of_mem hx
  cases e with
  | plain => simp [children] at hl
  | block => simp_all [children]; omega
  | ifElse loc heading yes no =>
    cases no <;> simp [children] at hl
    · subst hl; simp; omega
    · rcases hl with rfl | rfl <;> simp <;> omega
  | tryCatch loc heading body handlers =>
    simp only [children, List.mem_cons, List.mem_map] at hl
    rcases hl with rfl | ⟨c, hc, rfl⟩
    · simp; omega
    · have := List.sizeOf_lt_of_mem hc
      cases c
      simp at *
      omega

/-- Whatever passes from the nodes nested in a node to the node itself holds of every node. -/
theorem nested_induction {motive : Expr → Prop}
    (step : ∀ e, (∀ l ∈ e.children, ∀ x ∈ l, motive x) → motive e) (e : Expr) : motive e :=
  step e fun _ hl x hx =>
    have := sizeOf_lt_of_mem_children hl hx
    nested_induction step x
termination_by sizeOf e

end Expr

end WasmTree
