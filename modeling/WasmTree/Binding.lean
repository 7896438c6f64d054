import WasmTree.Var
import Std.Data.TreeMap

/-!
Tables from names to indices. The first entry of a name keeps it; later ones are only recorded.
-/

namespace WasmTree

structure Binding where
  loc : Location
  index : Nat
  deriving DecidableEq

structure BindingTable where
  entries : Std.TreeMap String Binding
  duplicates : Array (String × Binding)

namespace BindingTable

def empty : BindingTable := ⟨∅, #[]⟩

instance : EmptyCollection BindingTable := ⟨empty⟩

def find? (t : BindingTable) (name : String) : Option Binding := t.entries[name]?

def contains (t : BindingTable) (name : String) : Bool := t.entries.contains name

def insert (t : BindingTable) (name : String) (b : Binding) : BindingTable :=
  match t.find? name with
  | some _ => { t with duplicates := t.duplicates.push (name, b) }
  | none => { t with entries := t.entries.insert name b }

def insertIfNamed (t : BindingTable) (name : Option String) (b : Binding) : BindingTable :=
  name.elim t fun n => t.insert n b

/-- An index stands for itself; whether it is in range is for the caller to ask. -/
def resolve (t : BindingTable) (v : Var) : Option Nat :=
  match v.target with
  | .index i => some i.toNat
  | .name n => (t.find? n).map Binding.index

def size (t : BindingTable) : Nat := t.entries.size

/-- The entries in the order of their names. -/
def toList (t : BindingTable) : List (String × Binding) := t.entries.toList

/-- No two names share an index. -/
def separates (t : BindingTable) : Bool := decide (t.toList.map (·.2.index)).Nodup

end BindingTable

/-- The names of the first `count` slots, empty where nothing is bound. -/
def slotNames (count : Nat) (entries : List (String × Binding)) : Array String :=
  entries.foldl (fun names (name, b) => names.setIfInBounds b.index name) (Array.replicate count "")

end WasmTree
