import WasmTree.Script.Command

/-!
Scripts. A command that defines a named module binds the name to the command's place; the first module
of a name keeps it.
-/

namespace WasmTree

structure Script where
  commands : Array Command
  bindings : BindingTable

namespace Script

def empty : Script := ⟨#[], ∅⟩

def append (s : Script) (c : Command) : Script where
  commands := s.commands.push c
  bindings := c.module?.elim s.bindings fun m => s.bindings.insertIfNamed m.name ⟨m.loc, s.commands.size⟩

def firstModule? (s : Script) : Option Module := s.commands.toList.findSome? Command.module?

def lastModule? (s : Script) : Option Module := s.commands.toList.reverse.findSome? Command.module?

/-- An index is the place of a command, which must define a module. -/
def getModule? (s : Script) (v : Var) : Option Module :=
  (s.bindings.resolve v).bind fun i => s.commands[i]?.bind Command.module?

def actionModule? (s : Script) (a : Action) : Option Module :=
  match a.module with
  | some v => s.getModule? v
  | none => s.lastModule?

end Script

end WasmTree
