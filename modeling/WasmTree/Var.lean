import WasmTree.Location

/-!
References to the entities of an index space, by index or by name. Nothing here checks that a
reference leads anywhere.
-/

namespace WasmTree

/-- The index that no entity has; it marks a handler that catches every exception. -/
def invalidIndex : UInt32 := 0xFFFFFFFF

inductive Target where
  | index (i : UInt32)
  | name (n : String)
  deriving DecidableEq, Inhabited

structure Var where
  loc : Location
  target : Target
  deriving DecidableEq

namespace Var

def ofIndex (i : UInt32) : Var := ⟨.unknown, .index i⟩

def ofName (n : String) : Var := ⟨.unknown, .name n⟩

instance : Inhabited Var := ⟨ofIndex invalidIndex⟩

def withLoc (v : Var) (loc : Location) : Var := { v with loc }

def setIndex (v : Var) (i : UInt32) : Var := { v with target := .index i }

def setName (v : Var) (n : String) : Var := { v with target := .name n }

def index? (v : Var) : Option UInt32 :=
  match v.target with
  | .index i => some i
  | .name _ => none

def name? (v : Var) : Option String :=
  match v.target with
  | .index _ => none
  | .name n => some n

/-- Two references agree when they point to the same thing, wherever they were written. -/
def agrees (v w : Var) : Bool := v.target == w.target

def display (v : Var) : String :=
  match v.target with
  | .index i => toString i
  | .name n => n

end Var

end WasmTree
