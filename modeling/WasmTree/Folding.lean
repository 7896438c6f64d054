import WasmTree.Expr.Flat
import WasmTree.ReadError
import WasmTree.Signature

/-!
Folding the operators of a function body into a tree. Each operator is resolved to its place in the
flat form on its own. A mark that opens a structured instruction puts a frame on a stack; the one that
closes it moves the finished node into the frame below.
-/

namespace WasmTree

/-- What the operators of a body may refer to and contain. -/
structure FoldSetting where
  types : Array Signature
  exceptions : Bool

/-- The part of a structured instruction that is being filled, with the parts before it. -/
inductive FrameKind where
  | body
  | block (form : BlockForm)
  | ifYes
  | ifNo (yes : List Expr)
  | tryBody
  | handler (body : List Expr) (before : Array (Handler Expr)) (loc : Location) (var : Var)

structure Frame where
  kind : FrameKind
  loc : Location
  sig : List ValueType
  filled : Array Expr

namespace Frame

def start (kind : FrameKind) (loc : Location) (sig : List ValueType) : Frame := ⟨kind, loc, sig, #[]⟩

def opened : Opening → Location → List ValueType → Frame
  | .block form => start (.block form)
  | .ifThen => start .ifYes
  | .tryBody => start .tryBody

/-- The node of a frame that ends here; the frame of a whole body has none. -/
def node? (f : Frame) : Option Expr :=
  let heading : Heading := ⟨none, f.sig⟩
  match f.kind with
  | .body => none
  | .block form => some (.block f.loc form heading f.filled.toList)
  | .ifYes => some (.ifElse f.loc heading f.filled.toList none)
  | .ifNo yes => some (.ifElse f.loc heading yes (some f.filled.toList))
  | .tryBody => some (.tryCatch f.loc heading f.filled.toList [])
  | .handler body before loc var =>
    some (.tryCatch f.loc heading body (before.push ⟨loc, var, f.filled.toList⟩).toList)

def push (f : Frame) (e : Expr) : Frame := { f with filled := f.filled.push e }

/-- Only the first branch of an `if` can be followed by another. -/
def startElse (f : Frame) : Reading Frame :=
  match f.kind with
  | .ifYes => .ok { f with kind := .ifNo f.filled.toList, filled := #[] }
  | _ => .fail .elseOutsideIf

def startHandler (f : Frame) (loc : Location) (var : Var) : Reading Frame :=
  match f.kind with
  | .tryBody => .ok { f with kind := .handler f.filled.toList #[] loc var, filled := #[] }
  | .handler body before l v =>
    .ok { f with kind := .handler body (before.push ⟨l, v, f.filled.toList⟩) loc var, filled := #[] }
  | _ => .fail .handlerOutsideTry

end Frame

/-- The open frames, innermost first, and the whole body once its frame is closed. -/
structure Folding where
  frames : List Frame
  finished : Option (List Expr)

def WireType.read (t : WireType) : Reading ValueType :=
  match t.number? with
  | some v => .ok v
  | none => .fail (.valueType t)

def BlockType.results (s : FoldSetting) : BlockType → Reading (List ValueType)
  | empty => .ok []
  | value t => return [← t.read]
  | func index =>
    match s.types[index.toNat]? with
    | none => .fail (.blockType index)
    | some sig => if sig.params.isEmpty then .ok sig.results else .fail .blockParameters

/-- The operator is not allowed when exceptions are off. -/
def Operator.guard (op : Operator) (s : FoldSetting) : Reading Unit :=
  if s.exceptions then .ok () else .fail (.exceptionsDisabled op)

def MemArg.resolve (a : MemArg) : Reading (UInt32 × UInt32) :=
  if a.memory ≠ 0 then .fail (.accessMemory a.memory)
  else if 32 ≤ a.exponent then .fail (.alignment a.exponent)
  else if 0x100000000 ≤ a.offset.toNat then Reading.within .memoryOffset (.fail .offsetTooLarge)
  else .ok (.ofNat (Nat.pow 2 a.exponent), a.offset.toUInt32)

def MemoryOp.form (op : MemoryOp) : AccessForm := bif op.category == .load then .load else .store

def NumericOp.form (op : NumericOp) : NumericForm :=
  match op with
  | intRelation .. | floatRelation .. => .compare
  | intUnary .. | floatUnary .. => .unary
  | intBinary .. | floatBinary .. => .binary
  | conversion _ => .convert

def Role.needsExceptions : Role → Bool
  | throw | rethrow => true
  | _ => false

/-- The instruction of a plain operator, whose references are all placed where the operator is. -/
def PlainOperator.instr (s : FoldSetting) (loc : Location) (op : PlainOperator) : Reading Instr :=
  let var (index : UInt32) : Var := (Var.ofIndex index).withLoc loc
  match op with
  | bare b => .ok (.bare b)
  | reference r index => do
    if r.needsExceptions then (Operator.plain op).guard s
    return .reference r (var index)
  | callIndirect type table => if table ≠ 0 then .fail (.callTable table) else .ok (.callIndirect (var type))
  | brTable targets fallback => .ok (.brTable (targets.map var) (var fallback))
  | memory f index => if index ≠ 0 then .fail (.memoryIndex index) else .ok (.memory f)
  | const l => .ok (.const ⟨loc, l⟩)
  | numeric n => .ok (.numeric n.form (.numeric n))
  | access m arg => do
    let (align, offset) ← arg.resolve
    return .access m.form (.memory m) align offset
  | extension _ => .fail .unsupported

/-- What an operator stands for in the flat form, whatever surrounds it. -/
def Operator.resolve (s : FoldSetting) (loc : Location) (op : Operator) : Reading Flat :=
  match op with
  | block form type => return .opening (.block form) loc (← type.results s)
  | ifThen type => return .opening .ifThen loc (← type.results s)
  | elseBranch => .ok .otherwise
  | tryBody type => do
    op.guard s
    return .opening .tryBody loc (← type.results s)
  | catchTag tag => do
    op.guard s
    if tag = invalidIndex then .fail (.reservedTag tag)
    else return .handler loc ((Var.ofIndex tag).withLoc loc)
  | catchAll => do
    op.guard s
    return .handler loc ((Var.ofIndex invalidIndex).withLoc loc)
  | finish => .ok .close
  | plain p => return .plain loc (← p.instr s loc)

namespace Folding

def start : Folding := ⟨[.start .body .unknown []], none⟩

def modifyTop (r : Frame → Reading Frame) : Folding → Reading Folding
  | ⟨[], _⟩ => .fail .afterEnd
  | ⟨top :: below, finished⟩ => return ⟨(← r top) :: below, finished⟩

def push (e : Expr) (f : Folding) : Reading Folding := f.modifyTop fun top => .ok (top.push e)

def close : Folding → Reading Folding
  | ⟨[], _⟩ => .fail .endWithoutBlock
  | ⟨top :: below, finished⟩ =>
    match top.node? with
    | none => .ok ⟨below, some top.filled.toList⟩
    | some e => push e ⟨below, finished⟩

/-- An opening asks nothing of the frames below: one that comes after the end is refused when it
closes, or by `finish`. -/
def add (f : Folding) : Flat → Reading Folding
  | .opening o loc sig => .ok { f with frames := .opened o loc sig :: f.frames }
  | .otherwise => f.modifyTop Frame.startElse
  | .handler loc var => f.modifyTop fun top => top.startHandler loc var
  | .close => f.close
  | .plain loc i => f.push (.plain loc i)

def finish : Folding → Reading (List Expr)
  | ⟨[], some l⟩ => .ok l
  | _ => .fail .openBlock

def step (s : FoldSetting) (f : Folding) (op : Operator) (loc : Location) : Reading Folding := do
  f.add (← op.resolve s loc)

def stepAt (s : FoldSetting) (f : Folding) (op : Located Operator) : Reading Folding :=
  (f.step s op.value (.binary op.offset)).within (.translating op.value op.offset)

end Folding

end WasmTree
