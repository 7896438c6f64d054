import WasmTree.Binding
import WasmTree.Expr.Basic
import WasmTree.Signature

/-!
Functions. Parameters and locals share one numbering, parameters first, but have a table of names
each; the index of a local in its own table does not count the parameters.
-/

namespace WasmTree

structure Func where
  name : Option String
  decl : Declaration
  locals : List ValueType
  paramBindings : BindingTable
  localBindings : BindingTable
  body : List Expr

namespace Func

def ofDeclaration (decl : Declaration) : Func := ⟨none, decl, [], ∅, ∅, []⟩

def params (f : Func) : List ValueType := f.decl.sig.params

def slotCount (f : Func) : Nat := f.params.length + f.locals.length

def slotType? (f : Func) (i : Nat) : Option ValueType :=
  if i < f.params.length then f.params[i]? else f.locals[i - f.params.length]?

/-- A parameter hides a local of the same name. Only an index is checked against the slots there are. -/
def localIndex? (f : Func) (v : Var) : Option Nat :=
  match v.target with
  | .index i => if i.toNat < f.slotCount then some i.toNat else none
  | .name n =>
    match f.paramBindings.find? n with
    | some b => some b.index
    | none => (f.localBindings.find? n).map fun b => f.params.length + b.index

def slotNames (f : Func) : List String :=
  (WasmTree.slotNames f.params.length f.paramBindings.toList).toList ++
    (WasmTree.slotNames f.locals.length f.localBindings.toList).toList

end Func

end WasmTree
