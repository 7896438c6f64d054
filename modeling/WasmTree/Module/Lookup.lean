import WasmTree.Module.Basic

/-!
Lookup by reference. Names are resolved in the table of their space on demand; an index, bound or
written, counts only if the space has it.
-/

namespace WasmTree.Module

def index? (m : Module) (k : SpaceKind) (v : Var) : Option Nat :=
  ((m.bindings k).resolve v).filter (· < m.size k)

def getFunc? (m : Module) (v : Var) : Option Func := (m.index? .funcs v).bind m.func?

def getTable? (m : Module) (v : Var) : Option Table := (m.index? .tables v).bind m.table?

def getMemory? (m : Module) (v : Var) : Option Memory := (m.index? .memories v).bind m.memory?

def getGlobal? (m : Module) (v : Var) : Option Global := (m.index? .globals v).bind m.global?

def getExcept? (m : Module) (v : Var) : Option Exception := (m.index? .excepts v).bind m.except?

def getType? (m : Module) (v : Var) : Option FuncType := (m.index? .types v).bind m.type?

def getExport? (m : Module) (name : String) : Option Export :=
  ((m.bindings .exports).find? name).bind fun b => m.export? b.index

def signatureIndex? (m : Module) (sig : Signature) : Option Nat :=
  m.types.findIdx? fun t => t.sig = sig

/-- What a declaration refers to: its entry of the type space, else the first with its signature. -/
def declarationIndex? (m : Module) (d : Declaration) : Option Nat :=
  match d.typeVar with
  | some v => m.index? .types v
  | none => m.signatureIndex? d.sig

end WasmTree.Module
