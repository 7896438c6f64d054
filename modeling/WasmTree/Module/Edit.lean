import WasmTree.Module.Lookup

/-!
Changes to a module after its fields were appended. Rewriting an entity in place leaves the spaces
alone, whatever name the new entity carries.
-/

namespace WasmTree.Module

/-- The index of the first type with a signature, which is appended without a name if there is none. -/
def intern (m : Module) (loc : Location) (sig : Signature) : Module × Nat :=
  match m.signatureIndex? sig with
  | some i => (m, i)
  | none => (m.append ⟨loc, .type ⟨none, sig⟩⟩, m.size .types)

/-- Rewrites the field that an index of a space leads to, where `r` allows it. -/
def modifyEntry? (m : Module) (k : SpaceKind) (i : Nat) (r : Field → Option Field) : Option Module := do
  let p ← (m.space k).positions[i]?
  let f ← r (← m.fields[p]?)
  return { m with fields := m.fields.setIfInBounds p f }

def modifyFunc? (m : Module) (i : Nat) (r : Func → Func) : Option Module :=
  m.modifyEntry? .funcs i (Field.mapFunc? r)

def modifyGlobal? (m : Module) (i : Nat) (r : Global → Global) : Option Module :=
  m.modifyEntry? .globals i (Field.mapGlobal? r)

/-- Rewrites the function a reference leads to, if it leads to one. -/
def editFunc? (m : Module) (v : Var) (r : Func → Func) : Option Module :=
  (m.index? .funcs v).bind fun i => m.modifyFunc? i r

def editGlobal? (m : Module) (v : Var) (r : Global → Global) : Option Module :=
  (m.index? .globals v).bind fun i => m.modifyGlobal? i r

end WasmTree.Module
