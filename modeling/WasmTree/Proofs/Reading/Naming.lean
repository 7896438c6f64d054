import WasmTree.Proofs.Binding
import WasmTree.Proofs.Reading.Functions
import WasmTree.Reading

/-!
Naming the functions of a module. Each gets the names that are kept for its index, where imported
functions count like defined ones, and nothing else of it changes.
-/

namespace WasmTree

namespace DebugNames

def paramEntries (params : Nat) (names : List (UInt32 × String)) : List (String × Binding) :=
  (names.filter fun x => x.1.toNat < params).map fun x => (x.2, ⟨.unknown, x.1.toNat⟩)

def localEntries (params : Nat) (names : List (UInt32 × String)) : List (String × Binding) :=
  (names.filter fun x => params ≤ x.1.toNat).map fun x => (x.2, ⟨.unknown, x.1.toNat - params⟩)

def bindSlot (params : Nat) (f : Func) (x : UInt32 × String) : Func :=
  if x.1.toNat < params then { f with paramBindings := f.paramBindings.insert x.2 ⟨.unknown, x.1.toNat⟩ }
  else { f with localBindings := f.localBindings.insert x.2 ⟨.unknown, x.1.toNat - params⟩ }

lemma foldl_bindSlot (params : Nat) (f : Func) (names : List (UInt32 × String)) :
    names.foldl (bindSlot params) f =
      { f with
        paramBindings := f.paramBindings.insertAll (paramEntries params names)
        localBindings := f.localBindings.insertAll (localEntries params names) } := by
  induction names generalizing f with
  | nil => rfl
  | cons x names ih =>
    rw [List.foldl_cons, ih]
    by_cases hx : x.1.toNat < params
    · simp [bindSlot, paramEntries, localEntries, BindingTable.insertAll, hx, Nat.not_le.mpr hx]
    · simp [bindSlot, paramEntries, localEntries, BindingTable.insertAll, hx, Nat.not_lt.mp hx]

variable (d : DebugNames)

lemma apply_eq (i : Nat) (f : Func) :
    d.apply i f =
      { f with
        name := d.funcs[i]?.or f.name
        paramBindings := f.paramBindings.insertAll (paramEntries f.params.length (d.locals[i]?.getD []))
        localBindings := f.localBindings.insertAll (localEntries f.params.length (d.locals[i]?.getD [])) } :=
  foldl_bindSlot f.params.length { f with name := d.funcs[i]?.or f.name } (d.locals[i]?.getD [])

/-- The fields with their functions named, of which `i` stand before them. -/
def applyFrom (i : Nat) : List Field → List Field
  | [] => []
  | f :: fs => (d.applyNext i f).1 :: applyFrom (d.applyNext i f).2 fs

lemma toList_applyAll (fields : Array Field) : (d.applyAll fields).toList = d.applyFrom 0 fields.toList := by
  have hfold (i : Nat) (done : Array Field) (fs : List Field) :
      (fs.foldl (fun s f => (s.1.push (d.applyNext s.2 f).1, (d.applyNext s.2 f).2)) (done, i)).1.toList =
        done.toList ++ d.applyFrom i fs := by
    induction fs generalizing i done with
    | nil => simp [applyFrom]
    | cons f fs ih => simp [applyFrom, ih]
  rw [applyAll, ← Array.foldl_toList]
  exact hfold 0 #[] fields.toList

variable {d} {i : Nat}

lemma applyNext_fst (d : DebugNames) (i : Nat) (f : Field) :
    (d.applyNext i f).1 = (f.mapFunc? (d.apply i)).getD f := by
  rw [applyNext]
  cases f.mapFunc? (d.apply i) <;> rfl

lemma applyNext_of_func? {f : Field} {g : Func} (h : f.func? = some g) :
    (d.applyNext i f).1.func? = some (d.apply i g) ∧ (d.applyNext i f).2 = i + 1 := by
  rcases f.func?_cases with ⟨loc, g', rfl⟩ | ⟨loc, m, n, g', rfl⟩ | ⟨hf, -⟩
  · obtain rfl := Option.some.inj h
    exact ⟨rfl, rfl⟩
  · obtain rfl := Option.some.inj h
    exact ⟨rfl, rfl⟩
  · cases hf.symm.trans h

lemma applyNext_of_func?_eq_none {f : Field} (h : f.func? = none) : d.applyNext i f = (f, i) := by
  rcases f.func?_cases with ⟨loc, g, rfl⟩ | ⟨loc, m, n, g, rfl⟩ | ⟨-, -, -, -, hm⟩
  · cases h
  · cases h
  · rw [applyNext, hm]

lemma filterMap_func?_applyFrom (fs : List Field) :
    (d.applyFrom i fs).filterMap Field.func? = (fs.filterMap Field.func?).mapIdx fun k f => d.apply (i + k) f := by
  induction fs generalizing i with
  | nil => rfl
  | cons f fs ih =>
    cases hf : f.func? with
    | none =>
      rw [applyFrom, applyNext_of_func?_eq_none hf, List.filterMap_cons_none hf, List.filterMap_cons_none hf, ih]
    | some g =>
      obtain ⟨hg, hi⟩ := applyNext_of_func? (d := d) (i := i) hf
      rw [applyFrom, List.filterMap_cons_some hg, List.filterMap_cons_some hf, List.mapIdx_cons, hi, ih]
      simp only [Nat.add_zero, Nat.add_assoc, Nat.add_comm 1]

end DebugNames

end WasmTree
