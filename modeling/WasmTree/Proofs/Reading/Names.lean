import WasmTree.Proofs.Binary.Progress
import WasmTree.Proofs.Reading.Layout

/-!
Debug names. However their sections are spread over the payloads and functions are imported between
those that are defined, a function gets the last name that is given to its index, and its slots those
of the last list.
-/

namespace WasmTree

/-- What is said last about an index. -/
def lastOf {α : Type} (i : Nat) (l : List (UInt32 × α)) : Option α :=
  ((l.filter fun x => x.1.toNat = i).map Prod.snd).getLast?

lemma lastOf_concat {α : Type} (i : Nat) (l : List (UInt32 × α)) (x : UInt32 × α) :
    lastOf i (l ++ [x]) = if x.1.toNat = i then some x.2 else lastOf i l := by
  by_cases hx : x.1.toNat = i
  · simp [lastOf, hx]
  · simp [lastOf, hx]

lemma lastOf_filter_lt {α : Type} {i n : Nat} (hi : i < n) (l : List (UInt32 × α)) :
    lastOf i (l.filter fun x => x.1.toNat < n) = lastOf i l := by
  rw [lastOf, lastOf, List.filter_filter]
  congr 3
  funext x
  by_cases hx : x.1.toNat = i
  · simp [hx, hi]
  · simp [hx]

lemma getElem?_foldl_insert {α β : Type} (g : α → β) (l : List (UInt32 × α)) (t : Std.TreeMap Nat β) (i : Nat) :
    (l.foldl (fun t x => t.insert x.1.toNat (g x.2)) t)[i]? = ((lastOf i l).map g).or t[i]? := by
  induction l using List.reverseRecOn with
  | nil => rfl
  | append_singleton l x ih =>
    rw [List.foldl_append, List.foldl_cons, List.foldl_nil, Std.TreeMap.getElem?_insert, ih, lastOf_concat]
    by_cases hx : x.1.toNat = i
    · simp [hx]
    · simp [hx]

namespace NameSubsection

def moduleName? : NameSubsection → Option String
  | module name => some name
  | _ => none

def functionNames : NameSubsection → List (UInt32 × String)
  | functions names => names.items
  | _ => []

def localLists : NameSubsection → List (UInt32 × List (UInt32 × String))
  | locals lists => lists.items.map fun x => (x.1, x.2.items)
  | _ => []

def Whole : NameSubsection → Prop
  | functions names => names.complete = true
  | locals lists => lists.complete = true ∧ ∀ x ∈ lists.items, x.2.complete = true
  | module _ | other => True

/-- Without the names of functions with an index of `n` or more. -/
def below (n : Nat) : NameSubsection → NameSubsection
  | functions names => functions { names with items := names.items.filter fun x => x.1.toNat < n }
  | locals lists => locals { lists with items := lists.items.filter fun x => x.1.toNat < n }
  | s => s

lemma whole_below {n : Nat} {s : NameSubsection} (h : s.Whole) : (s.below n).Whole := by
  cases s with
  | locals lists => exact ⟨h.1, fun x hx => h.2 x (List.mem_filter.mp hx).1⟩
  | _ => exact h

end NameSubsection

namespace DebugNames

def markSlots (slots : List (UInt32 × String)) : List (UInt32 × String) := slots.map fun x => (x.1, marked x.2)

def extend (d : DebugNames) (s : NameSubsection) : DebugNames where
  module := (s.moduleName?.map marked).or d.module
  funcs := s.functionNames.foldl (fun t x => t.insert x.1.toNat (marked x.2)) d.funcs
  locals := s.localLists.foldl (fun t x => t.insert x.1.toNat (markSlots x.2)) d.locals

variable {d d' : DebugNames}

lemma foldlM_addFunction (l : List (UInt32 × String)) :
    l.foldlM addFunction d =
      .ok { d with funcs := l.foldl (fun t x => t.insert x.1.toNat (marked x.2)) d.funcs } := by
  induction l generalizing d with
  | nil => rfl
  | cons x l ih => exact ih

lemma addLocals_eq_ok {x : UInt32 × NameList} :
    d.addLocals x = .ok d' ↔
      x.2.complete = true ∧ { d with locals := d.locals.insert x.1.toNat (markSlots x.2.items) } = d' := by
  have hm (l : List (UInt32 × String)) (done : Array (UInt32 × String)) :
      l.foldlM (fun done n => (.ok (done.push (n.1, marked n.2)) : Reading _)) done =
        .ok (done ++ (markSlots l).toArray) := by
    induction l generalizing done with
    | nil => simp [markSlots, pure, Except.pure]
    | cons x l ih => exact (ih _).trans (by simp [markSlots])
  rw [addLocals, Reading.bind_eq_ok]
  simp only [Batch.foldRead_eq_ok, hm, Reading.pure_eq_ok, Except.ok.injEq]
  constructor
  · rintro ⟨_, ⟨hc, rfl⟩, rfl⟩
    exact ⟨hc, by simp⟩
  · rintro ⟨hc, rfl⟩
    exact ⟨_, ⟨hc, rfl⟩, by simp⟩

lemma addSubsection_eq_ok {s : NameSubsection} : d.addSubsection s = .ok d' ↔ s.Whole ∧ d.extend s = d' := by
  cases s with
  | module name =>
    rw [addSubsection, NameSubsection.Whole, true_and, Except.ok.injEq]
    rfl
  | functions names =>
    rw [addSubsection, Batch.foldRead_eq_ok, foldlM_addFunction, Except.ok.injEq]
    rfl
  | locals lists =>
    have hl : d.extend (.locals lists) =
        lists.items.foldl (fun d x => { d with locals := d.locals.insert x.1.toNat (markSlots x.2.items) }) d := by
      rw [extend, NameSubsection.localLists, List.foldl_map]
      exact (List.foldl_hom (fun t => ({ d with locals := t } : DebugNames)) fun _ _ => rfl).symm
    rw [addSubsection, Batch.foldRead_eq_ok, NameSubsection.Whole, and_assoc, hl,
      Reading.foldlM_eq_ok (f := addLocals) fun _ _ _ => addLocals_eq_ok]
  | other =>
    rw [addSubsection, NameSubsection.Whole, true_and, Except.ok.injEq]
    rfl

lemma foldRead_addSubsection_eq_ok {b : Batch NameSubsection} :
    b.foldRead .readingSubsection addSubsection d = .ok d' ↔
      (b.complete = true ∧ ∀ s ∈ b.items, s.Whole) ∧ b.items.foldl extend d = d' := by
  rw [Batch.foldRead_eq_ok, and_assoc,
    Reading.foldlM_eq_ok (f := addSubsection) fun _ _ _ => addSubsection_eq_ok]

lemma foldl_extend (ss : List NameSubsection) (d : DebugNames) :
    ss.foldl extend d =
      { module := ((ss.filterMap NameSubsection.moduleName?).getLast?.map marked).or d.module
        funcs := (ss.flatMap NameSubsection.functionNames).foldl (fun t x => t.insert x.1.toNat (marked x.2)) d.funcs
        locals := (ss.flatMap NameSubsection.localLists).foldl (fun t x => t.insert x.1.toNat (markSlots x.2))
          d.locals } := by
  induction ss using List.reverseRecOn generalizing d with
  | nil => rfl
  | append_singleton ss s ih =>
    rw [List.foldl_append, ih]
    cases hm : s.moduleName? <;> simp [extend, hm]

end DebugNames

namespace Entry

/-- The subsections that an entry names with, none unless names are asked for. -/
def subsections (o : ReadOptions) : Entry → List NameSubsection
  | names b => if o.debugNames then b.items else []
  | _ => []

def below (n : Nat) : Entry → Entry
  | names b => names { b with items := b.items.map (·.below n) }
  | e => e

lemma Declares.subsections {o : ReadOptions} {types : List Signature} {e : Entry} {f : Field}
    (h : e.Declares o types f) : e.subsections o = [] := by
  cases h <;> rfl

lemma Declares.below {o : ReadOptions} {types : List Signature} {e : Entry} {f : Field}
    (h : e.Declares o types f) (n : Nat) : e.below n = e := by
  cases h <;> rfl

end Entry

def Payload.below (n : Nat) : Payload → Payload
  | names b => names { b with items := b.items.map (·.below n) }
  | p => p

def Batch.below (n : Nat) (ps : Batch Payload) : Batch Payload := { ps with items := ps.items.map (Payload.below n) }

def functionNames (o : ReadOptions) (es : List Entry) : List (UInt32 × String) :=
  (es.flatMap (Entry.subsections o)).flatMap NameSubsection.functionNames

/-- The lists of named slots, one after the other, each with the index of its function. -/
def localLists (o : ReadOptions) (es : List Entry) : List (UInt32 × List (UInt32 × String)) :=
  (es.flatMap (Entry.subsections o)).flatMap NameSubsection.localLists

namespace Collected

variable {o : ReadOptions} {c c' : Collected} {e : Entry} {es : List Entry}

lemma Enters.names_eq (h : Enters o c e c') : c'.names = (e.subsections o).foldl DebugNames.extend c.names := by
  cases h with
  | declares hf =>
    rw [hf.subsections]
    rfl
  | names hn hd =>
    obtain ⟨-, rfl⟩ := DebugNames.foldRead_addSubsection_eq_ok.mp hd
    rw [Entry.subsections, if_pos hn]
  | noNames b hn =>
    rw [Entry.subsections, if_neg (by simp [hn])]
    rfl
  | _ => rfl

lemma EntersAll.names_eq (h : EntersAll o c es c') :
    c'.names = (es.flatMap (Entry.subsections o)).foldl DebugNames.extend c.names := by
  induction h with
  | nil => rfl
  | cons hx _ ih => rw [List.flatMap_cons, List.foldl_append, ← hx.names_eq, ih]

lemma Enters.trim (h : Enters o c e c') (n : Nat) (d : DebugNames) :
    Enters o { c with names := d } (e.below n)
      { c' with names := ((e.below n).subsections o).foldl DebugNames.extend d } := by
  cases h with
  | declares hf =>
    rw [hf.below, hf.subsections]
    exact .declares hf
  | inactive offset => exact .inactive offset
  | passive offset => exact .passive offset
  | body hp hb => exact .body hp hb
  | names hn hd =>
    obtain ⟨⟨hc, hw⟩, -⟩ := DebugNames.foldRead_addSubsection_eq_ok.mp hd
    refine .names hn (DebugNames.foldRead_addSubsection_eq_ok.mpr ⟨⟨hc, ?_⟩, ?_⟩)
    · intro s hs
      obtain ⟨s', hs', rfl⟩ := List.mem_map.mp hs
      exact NameSubsection.whole_below (hw s' hs')
    · rw [Entry.below, Entry.subsections, if_pos hn]
  | noNames b hn =>
    rw [Entry.below, Entry.subsections, if_neg (by simp [hn])]
    exact .noNames _ hn

lemma EntersAll.trim (h : EntersAll o c es c') (n : Nat) (d : DebugNames) :
    EntersAll o { c with names := d } (es.map (Entry.below n))
      { c' with names := ((es.map (Entry.below n)).flatMap (Entry.subsections o)).foldl DebugNames.extend d } := by
  induction h generalizing d with
  | nil => exact .nil
  | cons hx _ ih =>
    rw [List.map_cons, List.flatMap_cons, List.foldl_append]
    exact .cons (hx.trim n d) (ih _)

end Collected

/-- The slot that a name stands for: the first parameter that is given it, else the first local. -/
def slotNamed (params : Nat) (slots : List (UInt32 × String)) (n : String) : Option UInt32 :=
  ((slots.find? fun x => x.1.toNat < params ∧ x.2 = n).or
    (slots.find? fun x => params ≤ x.1.toNat ∧ x.2 = n)).map Prod.fst

/-- The function has the name, and its slots are named by the list and by nothing else. The index of a
local is rebased by the number of parameters, which gives the listed index of 32 bits when it is added again. -/
structure Func.Named (name? : Option String) (slots : List (UInt32 × String)) (f : Func) : Prop where
  name_eq : f.name = name?.map DebugNames.marked
  localIndex?_eq : ∀ loc n, f.localIndex? ⟨loc, .name (DebugNames.marked n)⟩ =
    (slotNamed f.params.length slots n).map UInt32.toNat
  unbound : ∀ s b, (∀ x ∈ slots, s ≠ DebugNames.marked x.2) →
    ¬f.paramBindings.Holds (s, b) ∧ ¬f.localBindings.Holds (s, b)
  paramIndex : ∀ s b, f.paramBindings.Holds (s, b) → ∃ x ∈ slots, b.index = x.1.toNat ∧ x.1.toNat < f.params.length
  localIndex : ∀ s b, f.localBindings.Holds (s, b) → ∃ x ∈ slots, f.params.length + b.index = x.1.toNat

namespace DebugNames

lemma marked_inj {m n : String} : marked m = marked n ↔ m = n := by
  simp [marked]

section Slots

variable (params : Nat) (slots : List (UInt32 × String))

lemma mem_paramEntries {x : String × Binding} :
    x ∈ paramEntries params (markSlots slots) ↔
      ∃ y ∈ slots, y.1.toNat < params ∧ (marked y.2, ⟨.unknown, y.1.toNat⟩) = x := by
  simp [paramEntries, markSlots, List.filter_map, and_assoc]

lemma mem_localEntries {x : String × Binding} :
    x ∈ localEntries params (markSlots slots) ↔
      ∃ y ∈ slots, params ≤ y.1.toNat ∧ (marked y.2, ⟨.unknown, y.1.toNat - params⟩) = x := by
  simp [localEntries, markSlots, List.filter_map, and_assoc]

lemma find?_paramEntries (n : String) :
    ((paramEntries params (markSlots slots)).find? fun x => x.1 = marked n).map (·.2.index) =
      (slots.find? fun x => x.1.toNat < params ∧ x.2 = n).map (·.1.toNat) := by
  simp [paramEntries, markSlots, List.filter_map, List.find?_filter, Function.comp_def, marked_inj]

lemma find?_localEntries (n : String) :
    ((localEntries params (markSlots slots)).find? fun x => x.1 = marked n).map (params + ·.2.index) =
      (slots.find? fun x => params ≤ x.1.toNat ∧ x.2 = n).map (·.1.toNat) := by
  have hr : (slots.find? fun x => params ≤ x.1.toNat ∧ x.2 = n).map (fun x => params + (x.1.toNat - params)) =
      (slots.find? fun x => params ≤ x.1.toNat ∧ x.2 = n).map (·.1.toNat) := by
    refine Option.map_congr fun x hx => ?_
    have hle := List.find?_some hx
    rw [decide_eq_true_eq] at hle
    exact Nat.add_sub_cancel' hle.1
  rw [← hr]
  simp [localEntries, markSlots, List.filter_map, List.find?_filter, Function.comp_def, marked_inj]

lemma slotNamed_eq (n : String) :
    (slotNamed params slots n).map UInt32.toNat =
      (((paramEntries params (markSlots slots)).find? fun x => x.1 = marked n).map (·.2.index)).or
        (((localEntries params (markSlots slots)).find? fun x => x.1 = marked n).map (params + ·.2.index)) := by
  rw [find?_paramEntries, find?_localEntries, slotNamed, Option.map_map, Option.map_or]
  rfl

end Slots

variable {d : DebugNames} {i : Nat} {f : Func} {name? : Option String} {slots? : Option (List (UInt32 × String))}

lemma named_apply (hf : (f.name, f.paramBindings, f.localBindings) = (none, ∅, ∅))
    (hn : d.funcs[i]? = name?.map marked) (hs : d.locals[i]? = slots?.map markSlots) :
    (d.apply i f).Named name? (slots?.getD []) := by
  have hslots : d.locals[i]?.getD [] = markSlots (slots?.getD []) := by
    rw [hs]
    cases slots? <;> rfl
  simp only [Prod.mk.injEq] at hf
  rw [apply_eq, hf.1, hf.2.1, hf.2.2, hn, hslots, Option.or_none]
  constructor
  · rfl
  · intro loc n
    rw [slotNamed_eq]
    simp only [Func.localIndex?, BindingTable.find?_insertAll, BindingTable.find?_empty, Option.none_or, Func.params]
    cases (paramEntries _ _).find? _ with
    | some x => rfl
    | none => rw [Option.map_none, Option.map_none, Option.none_or, Option.map_map]; rfl
  · intro s b hx
    simp only [BindingTable.holds_insertAll, mem_paramEntries, mem_localEntries, Prod.mk.injEq]
    constructor
    · rintro ⟨x, hm, -, he, -⟩
      exact hx x hm he.symm
    · rintro ⟨x, hm, -, he, -⟩
      exact hx x hm he.symm
  · intro s b hb
    obtain ⟨x, hx, hlt, he⟩ := (mem_paramEntries ..).mp ((BindingTable.holds_insertAll _ _).mp hb)
    obtain ⟨rfl, rfl⟩ := Prod.mk.inj he
    exact ⟨x, hx, rfl, hlt⟩
  · intro s b hb
    obtain ⟨x, hx, hle, he⟩ := (mem_localEntries ..).mp ((BindingTable.holds_insertAll _ _).mp hb)
    obtain ⟨rfl, rfl⟩ := Prod.mk.inj he
    exact ⟨x, hx, Nat.add_sub_cancel' hle⟩

end DebugNames

namespace Collected

variable {o : ReadOptions} {c : Collected} {es : List Entry}

lemma func?_module (c : Collected) (i : Nat) :
    c.module.func? i = (c.fields.toList.filterMap Field.func?)[i]?.map (c.names.apply i) := by
  have hp := c.consistent_module.projected.funcs
  rw [hp.item?_eq, hp.items_eq, fields_module, DebugNames.filterMap_func?_applyFrom, List.getElem?_mapIdx]
  simp only [Nat.zero_add]

lemma size_module (c : Collected) : c.module.size .funcs = (c.fields.toList.filterMap Field.func?).length := by
  have hp := c.consistent_module.projected.funcs
  rw [← hp.length_eq, hp.items_eq, fields_module, DebugNames.filterMap_func?_applyFrom, List.length_mapIdx]

lemma EntersAll.getElem?_funcs (h : EntersAll o .empty es c) (i : Nat) :
    c.names.funcs[i]? = (lastOf i (functionNames o es)).map DebugNames.marked := by
  rw [h.names_eq, DebugNames.foldl_extend, getElem?_foldl_insert]
  exact Option.or_none

lemma EntersAll.getElem?_locals (h : EntersAll o .empty es c) (i : Nat) :
    c.names.locals[i]? = (lastOf i (localLists o es)).map DebugNames.markSlots := by
  rw [h.names_eq, DebugNames.foldl_extend, getElem?_foldl_insert]
  exact Option.or_none

lemma EntersAll.exists_unnamed (h : EntersAll o .empty es c) {i : Nat} {f : Func} (hf : c.module.func? i = some f) :
    ∃ g : Func, (g.name, g.paramBindings, g.localBindings) = (none, ∅, ∅) ∧ c.names.apply i g = f := by
  rw [func?_module] at hf
  obtain ⟨g, hg, rfl⟩ := Option.map_eq_some_iff.mp hf
  refine ⟨g, h.laid.unnamed _ ?_, rfl⟩
  have hm : c.fields.toList.filterMap Field.labels? = (c.fields.toList.filterMap Field.func?).map
      fun g => (g.name, g.paramBindings, g.localBindings) := by
    rw [List.map_filterMap]
    rfl
  rw [hm]
  exact List.mem_map_of_mem (List.mem_of_getElem? hg)

lemma EntersAll.func?_named (h : EntersAll o .empty es c) {i : Nat} {f : Func} (hf : c.module.func? i = some f) :
    f.Named (lastOf i (functionNames o es)) ((lastOf i (localLists o es)).getD []) := by
  obtain ⟨g, hg, rfl⟩ := h.exists_unnamed hf
  exact DebugNames.named_apply hg (h.getElem?_funcs i) (h.getElem?_locals i)

end Collected

namespace DebugNames

variable {d d' : DebugNames}

lemma apply_congr {i : Nat} (hf : d.funcs[i]? = d'.funcs[i]?) (hl : d.locals[i]? = d'.locals[i]?) :
    d.apply i = d'.apply i := by
  funext f
  rw [apply_eq, apply_eq, hf, hl]

lemma applyFrom_congr {i : Nat} {fs : List Field}
    (h : ∀ k < i + (fs.filterMap Field.func?).length, d.apply k = d'.apply k) :
    d.applyFrom i fs = d'.applyFrom i fs := by
  induction fs generalizing i with
  | nil => rfl
  | cons f fs ih =>
    cases hf : f.func? with
    | none =>
      rw [List.filterMap_cons_none hf] at h
      rw [applyFrom, applyFrom, applyNext_of_func?_eq_none hf, applyNext_of_func?_eq_none hf, ih h]
    | some g =>
      rw [List.filterMap_cons_some hf, List.length_cons] at h
      have hi := h i (by omega)
      have hn : d.applyNext i f = d'.applyNext i f := by rw [applyNext, applyNext, hi]
      rw [applyFrom, applyFrom, hn, (applyNext_of_func? hf).2, ih fun k hk => h k (by omega)]

end DebugNames

section Below

variable (n : Nat) (o : ReadOptions)

namespace NameSubsection

variable (s : NameSubsection)

lemma moduleName?_below : (s.below n).moduleName? = s.moduleName? := by
  cases s <;> rfl

lemma functionNames_below : (s.below n).functionNames = s.functionNames.filter fun x => x.1.toNat < n := by
  cases s <;> rfl

lemma localLists_below : (s.below n).localLists = s.localLists.filter fun x => x.1.toNat < n := by
  cases s with
  | locals lists => simp [below, localLists, List.filter_map, Function.comp_def]
  | _ => rfl

end NameSubsection

lemma Entry.subsections_below (e : Entry) : (e.below n).subsections o = (e.subsections o).map (·.below n) := by
  cases e with
  | names b =>
    rw [below, subsections, subsections]
    cases o.debugNames <;> rfl
  | _ => rfl

lemma functionNames_below (es : List Entry) :
    functionNames o (es.map (Entry.below n)) = (functionNames o es).filter fun x => x.1.toNat < n := by
  simp only [functionNames, List.flatMap_map, List.flatMap_assoc, List.filter_flatMap, Entry.subsections_below,
    NameSubsection.functionNames_below]

lemma localLists_below (es : List Entry) :
    localLists o (es.map (Entry.below n)) = (localLists o es).filter fun x => x.1.toNat < n := by
  simp only [localLists, List.flatMap_map, List.flatMap_assoc, List.filter_flatMap, Entry.subsections_below,
    NameSubsection.localLists_below]

lemma moduleNames_below (es : List Entry) :
    ((es.map (Entry.below n)).flatMap (Entry.subsections o)).filterMap NameSubsection.moduleName? =
      (es.flatMap (Entry.subsections o)).filterMap NameSubsection.moduleName? := by
  simp only [List.flatMap_map, List.filterMap_flatMap, Entry.subsections_below, List.filterMap_map,
    Function.comp_def, NameSubsection.moduleName?_below]

lemma Payload.entries_below (p : Payload) : (p.below n).entries = p.entries.map (Entry.below n) := by
  cases p with
  | names b => rfl
  | header => rfl
  | skipped => rfl
  | start => rfl
  | body => rfl
  | _ => simp [below, entries, Entry.below]

lemma Payload.whole_below (p : Payload) : (p.below n).Whole o ↔ p.Whole o := by
  cases p <;> rfl

namespace Batch

variable {n o} {ps : Batch Payload}

lemma entries_below : (ps.below n).entries = ps.entries.map (Entry.below n) := by
  simp only [Batch.below, entries, List.flatMap_map, List.map_flatMap, Payload.entries_below]

lemma Whole.below (h : ps.Whole o) : (ps.below n).Whole o := by
  refine ⟨h.1, fun p hp => ?_⟩
  obtain ⟨p', hp', rfl⟩ := List.mem_map.mp hp
  exact (p'.whole_below n o).mpr (h.2 p' hp')

end Batch

end Below

namespace Collected

variable {o : ReadOptions} {c : Collected} {es : List Entry} {n : Nat} {d : DebugNames}

lemma EntersAll.module_below (h : EntersAll o .empty es c)
    (hd : EntersAll o .empty (es.map (Entry.below n)) { c with names := d }) (hn : c.module.size .funcs ≤ n) :
    ({ c with names := d } : Collected).module = c.module := by
  have hm : d.module = c.names.module := by
    have hm' : d.module = _ := congrArg DebugNames.module hd.names_eq
    rw [hm', h.names_eq, DebugNames.foldl_extend, DebugNames.foldl_extend, moduleNames_below]
  have hf : d.applyFrom 0 c.fields.toList = c.names.applyFrom 0 c.fields.toList := by
    refine DebugNames.applyFrom_congr fun k hk => DebugNames.apply_congr ?_ ?_
    · refine (hd.getElem?_funcs k).trans ?_
      rw [h.getElem?_funcs, functionNames_below, lastOf_filter_lt (by rw [size_module] at hn; omega)]
    · refine (hd.getElem?_locals k).trans ?_
      rw [h.getElem?_locals, localLists_below, lastOf_filter_lt (by rw [size_module] at hn; omega)]
  rw [module, module, DebugNames.toList_applyAll, DebugNames.toList_applyAll, hf, hm]

end Collected

lemma readPayloads_below {o : ReadOptions} {ps : Batch Payload} {m : Module} (h : readPayloads o ps = .ok m) :
    readPayloads o (ps.below (m.size .funcs)) = .ok m := by
  obtain ⟨hw, c, he, hb, rfl⟩ := readPayloads_eq_ok.mp h
  obtain ⟨d, hd⟩ : ∃ d, Collected.EntersAll o .empty (ps.entries.map (Entry.below (c.module.size .funcs)))
      { c with names := d } := ⟨_, he.trim _ .empty⟩
  exact readPayloads_eq_ok.mpr
    ⟨hw.below, { c with names := d }, Batch.entries_below ▸ hd, hb, he.module_below hd (Nat.le_refl _)⟩

lemma func?_named {o : ReadOptions} {ps : Batch Payload} {m : Module} (h : readPayloads o ps = .ok m) {i : Nat}
    {f : Func} (hf : m.func? i = some f) :
    f.Named (lastOf i (functionNames o ps.entries)) ((lastOf i (localLists o ps.entries)).getD []) := by
  obtain ⟨-, c, he, -, rfl⟩ := readPayloads_eq_ok.mp h
  exact he.func?_named hf

def slots : List (UInt32 × String) := [(0, "p"), (1, "x"), (2, "p"), (3, "x")]

def scattered : Batch Payload where
  items := [.types 10 ⟨[⟨[.number .i32], []⟩], true⟩, .names ⟨[.functions ⟨[(0, "f"), (2, "h")], true⟩], true⟩,
    .functions ⟨[⟨40, 0⟩], true⟩, .body (oneLocal .i64), .imports ⟨[⟨20, "env", "f", .func 0⟩], true⟩,
    .names ⟨[.locals ⟨[(0, ⟨slots, true⟩)], true⟩, .functions ⟨[(0, "g")], true⟩], true⟩]
  complete := true

end WasmTree
