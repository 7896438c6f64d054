import WasmTree.Load
import WasmTree.Proofs.Reading.Bodies
import WasmTree.Proofs.Reading.Names

/-!
What becomes of a listed name: it leads to its slot or is recorded as a duplicate, unless it is given
to a local and a parameter has it as well.
-/

namespace WasmTree

lemma head?_or_mem_tail {α : Type} {l : List α} {a : α} (h : a ∈ l) : l.head? = some a ∨ a ∈ l.tail := by
  cases l with
  | nil => cases h
  | cons b l =>
    rcases List.mem_cons.mp h with rfl | h
    · exact .inl rfl
    · exact .inr h

section Slots

variable (params : Nat) (slots : List (UInt32 × String))

def paramsNamed (n : String) : List (UInt32 × String) := slots.filter fun y => y.1.toNat < params ∧ y.2 = n

def localsNamed (n : String) : List (UInt32 × String) := slots.filter fun y => params ≤ y.1.toNat ∧ y.2 = n

/-- A local is given the name of a parameter, and is the first local that is. -/
def Shadowed (x : UInt32 × String) : Prop :=
  params ≤ x.1.toNat ∧ paramsNamed params slots x.2 ≠ [] ∧ x ∉ (localsNamed params slots x.2).tail

instance (x : UInt32 × String) : Decidable (Shadowed params slots x) := inferInstanceAs (Decidable (_ ∧ _ ∧ _))

lemma slotNamed_eq_head? (n : String) :
    slotNamed params slots n =
      ((paramsNamed params slots n).head?.or (localsNamed params slots n).head?).map Prod.fst := by
  rw [slotNamed, paramsNamed, localsNamed, List.head?_filter, List.head?_filter]

variable {params slots} {x : UInt32 × String}

lemma mem_paramsNamed : x ∈ paramsNamed params slots x.2 ↔ x ∈ slots ∧ x.1.toNat < params := by
  simp [paramsNamed]

lemma mem_localsNamed : x ∈ localsNamed params slots x.2 ↔ x ∈ slots ∧ params ≤ x.1.toNat := by
  simp [localsNamed]

lemma slotNamed_or_mem_tail (hx : x ∈ slots) (hs : ¬Shadowed params slots x) :
    slotNamed params slots x.2 = some x.1 ∨
      x ∈ (paramsNamed params slots x.2).tail ∨ x ∈ (localsNamed params slots x.2).tail := by
  rw [slotNamed_eq_head?]
  rcases Nat.lt_or_ge x.1.toNat params with hlt | hle
  · rcases head?_or_mem_tail (mem_paramsNamed.mpr ⟨hx, hlt⟩) with hh | ht
    · left
      rw [hh]
      rfl
    · exact .inr (.inl ht)
  · by_cases ht : x ∈ (localsNamed params slots x.2).tail
    · exact .inr (.inr ht)
    · -- the first local of its name is found unless a parameter comes first, which would hide it
      left
      have hp : paramsNamed params slots x.2 = [] := by
        by_contra hp
        exact hs ⟨hle, hp, ht⟩
      have hh := (head?_or_mem_tail (mem_localsNamed.mpr ⟨hx, hle⟩)).resolve_right ht
      rw [hp, hh]
      rfl

lemma Shadowed.slotNamed_eq (h : Shadowed params slots x) :
    ∃ y, (paramsNamed params slots x.2).head? = some y ∧ slotNamed params slots x.2 = some y.1 ∧ y.1.toNat < params := by
  obtain ⟨-, hp, -⟩ := h
  obtain ⟨y, ys, hy⟩ := List.exists_cons_of_ne_nil hp
  have hm : y ∈ paramsNamed params slots x.2 := hy ▸ List.mem_cons_self
  refine ⟨y, ?_, ?_, ?_⟩
  · rw [hy, List.head?_cons]
  · rw [slotNamed_eq_head?, hy]
    rfl
  · exact (of_decide_eq_true (List.mem_filter.mp hm).2).1

lemma Shadowed.not_mem_tail (h : Shadowed params slots x) :
    ¬(x ∈ (paramsNamed params slots x.2).tail ∨ x ∈ (localsNamed params slots x.2).tail) := by
  obtain ⟨hle, -, hl⟩ := h
  rintro (hx | hx)
  · have hlt := (mem_paramsNamed.mp (List.mem_of_mem_tail hx)).2
    omega
  · exact hl hx

end Slots

namespace Func

variable (f : Func) (x : UInt32 × String)

def Finds : Prop := f.localIndex? (.ofName (DebugNames.marked x.2)) = some x.1.toNat

/-- The name of a slot is a duplicate in one of the tables, which count from their own first slot. -/
def Records : Prop :=
  x.1.toNat < f.params.length ∧
      (DebugNames.marked x.2, ⟨.unknown, x.1.toNat⟩) ∈ f.paramBindings.duplicates.toList ∨
    f.params.length ≤ x.1.toNat ∧
      (DebugNames.marked x.2, ⟨.unknown, x.1.toNat - f.params.length⟩) ∈ f.localBindings.duplicates.toList

end Func

namespace DebugNames

variable {slots : List (UInt32 × String)} {x : UInt32 × String}

lemma mem_duplicates_iff (p : UInt32 → Bool) (place : UInt32 → Nat)
    (hplace : ∀ j, p j → place j = place x.1 → j = x.1) :
    (marked x.2, ⟨.unknown, place x.1⟩) ∈ (BindingTable.insertAll ∅
      (((markSlots slots).filter fun y => p y.1).map fun y => (y.2, ⟨.unknown, place y.1⟩))).duplicates.toList ↔
        x ∈ (slots.filter fun y => p y.1 ∧ y.2 = x.2).tail := by
  have hb : (((markSlots slots).filter fun y => p y.1).map fun y => (y.2, (⟨.unknown, place y.1⟩ : Binding))).filter
      (fun b => b.1 = marked x.2) =
        (slots.filter fun y => p y.1 ∧ y.2 = x.2).map fun y => (marked y.2, ⟨.unknown, place y.1⟩) := by
    simp [markSlots, List.filter_map, List.filter_filter, Function.comp_def, marked_inj, Bool.and_comm]
  rw [BindingTable.mem_duplicates_insertAll, hb, ← List.map_tail]
  constructor
  · intro hm
    obtain ⟨y, hy, he⟩ := List.mem_map.mp hm
    obtain ⟨-, hj⟩ := Prod.mk.inj he
    obtain ⟨hp, hn⟩ := of_decide_eq_true (List.mem_filter.mp (List.mem_of_mem_tail hy)).2
    -- the table keeps places and not slots, so the slot is read back from the place
    obtain rfl : y = x := Prod.ext (hplace y.1 hp (congrArg Binding.index hj)) hn
    exact hy
  · intro hx
    exact List.mem_map.mpr ⟨x, hx, rfl⟩

variable {params : Nat}

lemma mem_duplicates_paramEntries :
    (marked x.2, ⟨.unknown, x.1.toNat⟩) ∈
        (BindingTable.insertAll ∅ (paramEntries params (markSlots slots))).duplicates.toList ↔
      x ∈ (paramsNamed params slots x.2).tail := by
  refine (mem_duplicates_iff (fun j => j.toNat < params) UInt32.toNat fun j _ hj => UInt32.toNat_inj.mp hj).trans ?_
  simp only [decide_eq_true_eq, paramsNamed]

lemma mem_duplicates_localEntries (hx : params ≤ x.1.toNat) :
    (marked x.2, ⟨.unknown, x.1.toNat - params⟩) ∈
        (BindingTable.insertAll ∅ (localEntries params (markSlots slots))).duplicates.toList ↔
      x ∈ (localsNamed params slots x.2).tail := by
  refine (mem_duplicates_iff (fun j => params ≤ j.toNat) (fun j => j.toNat - params) ?_).trans ?_
  · intro j hp hj
    rw [decide_eq_true_eq] at hp
    exact UInt32.toNat_inj.mp (by omega)
  · simp only [decide_eq_true_eq, localsNamed]

end DebugNames

namespace Func

/-- Both tables are filled from the list, each with its part of it. -/
structure Bound (slots : List (UInt32 × String)) (f : Func) : Prop where
  params_eq : f.paramBindings =
    BindingTable.insertAll ∅ (DebugNames.paramEntries f.params.length (DebugNames.markSlots slots))
  locals_eq : f.localBindings =
    BindingTable.insertAll ∅ (DebugNames.localEntries f.params.length (DebugNames.markSlots slots))

variable {f : Func} {slots : List (UInt32 × String)} {x : UInt32 × String}

lemma Named.finds_iff {name? : Option String} (h : f.Named name? slots) :
    f.Finds x ↔ slotNamed f.params.length slots x.2 = some x.1 := by
  have hx : f.localIndex? (.ofName (DebugNames.marked x.2)) = _ := h.localIndex?_eq .unknown x.2
  rw [Finds, hx, Option.map_eq_some_iff]
  constructor
  · rintro ⟨j, hj, he⟩
    rw [hj, UInt32.toNat_inj.mp he]
  · intro hj
    exact ⟨x.1, hj, rfl⟩

lemma Bound.records_iff (h : f.Bound slots) :
    f.Records x ↔
      x ∈ (paramsNamed f.params.length slots x.2).tail ∨ x ∈ (localsNamed f.params.length slots x.2).tail := by
  rw [Records, h.params_eq, h.locals_eq, DebugNames.mem_duplicates_paramEntries]
  refine or_congr (and_iff_right_of_imp fun hx => ?_) ?_
  · exact (mem_paramsNamed.mp (List.mem_of_mem_tail hx)).2
  · constructor
    · rintro ⟨hle, hx⟩
      exact (DebugNames.mem_duplicates_localEntries hle).mp hx
    · intro hx
      have hle := (mem_localsNamed.mp (List.mem_of_mem_tail hx)).2
      exact ⟨hle, (DebugNames.mem_duplicates_localEntries hle).mpr hx⟩

end Func

namespace Collected

variable {o : ReadOptions} {c : Collected} {es : List Entry}

lemma EntersAll.func?_bound (h : EntersAll o .empty es c) {i : Nat} {f : Func} (hf : c.module.func? i = some f) :
    f.Bound ((lastOf i (localLists o es)).getD []) := by
  obtain ⟨g, hg, rfl⟩ := h.exists_unnamed hf
  have hs : c.names.locals[i]?.getD [] = DebugNames.markSlots ((lastOf i (localLists o es)).getD []) := by
    rw [h.getElem?_locals]
    cases lastOf i (localLists o es) <;> rfl
  simp only [Prod.mk.injEq] at hg
  rw [DebugNames.apply_eq, hs, hg.2.1, hg.2.2]
  exact ⟨rfl, rfl⟩

end Collected

def Batch.namedSlots (o : ReadOptions) (ps : Batch Payload) (i : Nat) : List (UInt32 × String) :=
  (lastOf i (localLists o ps.entries)).getD []

/-- A listed name leads to its slot or is recorded, but for the first local that is given the name of a
parameter. There the first such parameter is found, and no table tells. -/
theorem found_or_recorded {o : ReadOptions} {ps : Batch Payload} {m : Module} {i : Nat} {f : Func}
    (h : readPayloads o ps = .ok m) (hf : m.func? i = some f) {x : UInt32 × String} (hx : x ∈ ps.namedSlots o i) :
    (¬Shadowed f.params.length (ps.namedSlots o i) x → f.Finds x ∨ f.Records x) ∧
      (Shadowed f.params.length (ps.namedSlots o i) x → ¬f.Records x ∧
        ∃ y, (paramsNamed f.params.length (ps.namedSlots o i) x.2).head? = some y ∧ y.1.toNat < f.params.length ∧
          f.localIndex? (.ofName (DebugNames.marked x.2)) = some y.1.toNat) := by
  have hn : f.Named _ (ps.namedSlots o i) := func?_named h hf
  obtain ⟨-, c, he, -, rfl⟩ := readPayloads_eq_ok.mp h
  have hb : f.Bound (ps.namedSlots o i) := he.func?_bound hf
  rw [hn.finds_iff, hb.records_iff]
  refine ⟨slotNamed_or_mem_tail hx, fun hs => ⟨hs.not_mem_tail, ?_⟩⟩
  obtain ⟨y, hy, hj, hlt⟩ := hs.slotNamed_eq
  refine ⟨y, hy, hlt, (hn.localIndex?_eq .unknown x.2).trans ?_⟩
  rw [hj]
  rfl

def twoParams : Batch Payload where
  items := [.types 10 ⟨[⟨[.number .i32, .number .f32], []⟩], true⟩, .functions ⟨[⟨40, 0⟩], true⟩,
    .body (oneLocal .i64), .names ⟨[.locals ⟨[(0, ⟨[(0, "x"), (1, "x"), (2, "x")], true⟩)], true⟩], true⟩]
  complete := true

theorem found_or_recorded_twoParams : ∃ m f, readPayloads ⟨true, true⟩ twoParams = .ok m ∧ m.func? 0 = some f ∧
    f.Finds (0, "x") ∧ ¬f.Finds (1, "x") ∧ f.Records (1, "x") ∧ ¬f.Finds (2, "x") ∧ ¬f.Records (2, "x") := by
  have hr : ((readPayloads ⟨true, true⟩ twoParams).toOption.bind (·.func? 0)).map
      (fun f => (f.params.length, f.localIndex? (.ofName "$x"))) = some (2, some 0) := by decide +kernel
  obtain ⟨m, f, h, hf, hx⟩ := exists_func?_of_map hr
  obtain ⟨hp, hx⟩ := Prod.mk.inj hx
  have hs : twoParams.namedSlots ⟨true, true⟩ 0 = [(0, "x"), (1, "x"), (2, "x")] := rfl
  have hk (x : UInt32 × String) (hm : x ∈ twoParams.namedSlots ⟨true, true⟩ 0) := found_or_recorded h hf hm
  rw [hp, hs] at hk
  have h1 : ¬f.Finds (1, "x") := fun h1 => absurd (hx.symm.trans h1) (by decide)
  have h2 : ¬f.Finds (2, "x") := fun h2 => absurd (hx.symm.trans h2) (by decide)
  exact ⟨m, f, h, hf, hx, h1, ((hk (1, "x") (by decide)).1 (by decide)).resolve_left h1, h2,
    ((hk (2, "x") (by decide)).2 (by decide)).1⟩

/-- A parameter and a local have the name `x`. -/
def hidden : List UInt8 :=
  [0x00, 0x61, 0x73, 0x6D, 0x01, 0x00, 0x00, 0x00, 0x01, 0x05, 0x01, 0x60, 0x01, 0x7F, 0x00, 0x03, 0x02, 0x01,
   0x00, 0x0A, 0x06, 0x01, 0x04, 0x01, 0x01, 0x7F, 0x0B, 0x00, 0x10, 0x04, 0x6E, 0x61, 0x6D, 0x65, 0x02, 0x09,
   0x01, 0x00, 0x02, 0x00, 0x01, 0x78, 0x01, 0x01, 0x78]

theorem readBinary_hidden : ∃ m f, readBinary ⟨true, true⟩ hidden = .ok m ∧ m.func? 0 = some f ∧
    (1, "x") ∈ (Binary.payloads hidden).namedSlots ⟨true, true⟩ 0 ∧ ¬f.Finds (1, "x") ∧
    f.paramBindings.duplicates = #[] ∧ f.localBindings.duplicates = #[] := by
  have hr : ((readBinary ⟨true, true⟩ hidden).toOption.bind (·.func? 0)).map
      (fun f => (f.localIndex? (.ofName "$x"), f.paramBindings.duplicates.toList.length,
        f.localBindings.duplicates.toList.length)) = some (some 0, 0, 0) := by decide +kernel
  obtain ⟨m, f, h, hf, hx⟩ := exists_func?_of_map hr
  simp only [Prod.mk.injEq, List.length_eq_zero_iff, Array.toList_eq_nil_iff] at hx
  obtain ⟨hx, hp, hl⟩ := hx
  refine ⟨m, f, h, hf, by decide +kernel, fun h1 => ?_, hp, hl⟩
  exact absurd (hx.symm.trans h1) (by decide)

end WasmTree
