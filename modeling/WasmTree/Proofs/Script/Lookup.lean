import WasmTree.Proofs.Binding
import WasmTree.Proofs.Script.Current

/-!
The modules of a script by name, by position and by order. Names are bound to the positions of
commands, and only the commands that define modules have any.
-/

namespace WasmTree

section Positions

variable {α : Type} {l : List α} {p : Nat} {P : α → Prop}

lemma mem_take_iff {x : α} : x ∈ l.take p ↔ ∃ q < p, l[q]? = some x := by
  simp only [List.mem_iff_getElem?, List.getElem?_take, Option.ite_none_right_eq_some]

lemma mem_drop_iff {x : α} : x ∈ l.drop p ↔ ∃ q ≥ p, l[q]? = some x := by
  simp only [List.mem_iff_getElem?, List.getElem?_drop]
  constructor
  · rintro ⟨q, hq⟩
    exact ⟨p + q, Nat.le_add_right p q, hq⟩
  · rintro ⟨q, hle, hq⟩
    refine ⟨q - p, ?_⟩
    rw [Nat.add_sub_cancel' hle, hq]

lemma forall_mem_take_iff : (∀ x ∈ l.take p, P x) ↔ ∀ q < p, ∀ x, l[q]? = some x → P x := by
  simp only [mem_take_iff]
  exact ⟨fun h q hq x hx => h x ⟨q, hq, hx⟩, fun h x ⟨q, hq, hx⟩ => h q hq x hx⟩

lemma forall_mem_drop_iff : (∀ x ∈ l.drop p, P x) ↔ ∀ q ≥ p, ∀ x, l[q]? = some x → P x := by
  simp only [mem_drop_iff]
  exact ⟨fun h q hq x hx => h x ⟨q, hq, hx⟩, fun h x ⟨q, hq, hx⟩ => h q hq x hx⟩

/-- A list that is cut at an element is one that is cut at a position. -/
lemma exists_cut_iff {R : List α → α → List α → Prop} :
    (∃ before a after, l = before ++ a :: after ∧ R before a after) ↔
      ∃ p a, l[p]? = some a ∧ R (l.take p) a (l.drop (p + 1)) := by
  constructor
  · rintro ⟨before, a, after, rfl, h⟩
    refine ⟨before.length, a, by simp, ?_⟩
    rwa [List.take_left, List.drop_append, List.drop_eq_nil_of_le (Nat.le_succ _), Nat.add_sub_cancel_left]
  · rintro ⟨p, a, ha, h⟩
    obtain ⟨hp, rfl⟩ := List.getElem?_eq_some_iff.mp ha
    refine ⟨_, _, _, ?_, h⟩
    rw [List.getElem_cons_drop, List.take_append_drop]

end Positions

namespace Command

def label (c : Command) : Label := ⟨c.module?.bind Module.name, c.module?.elim .unknown Module.loc⟩

def moduleNamed? (n : String) (c : Command) : Option Module := c.module?.filter fun m => m.name = some n

lemma module?_eq_some_iff {c : Command} {m : Module} : c.module? = some m ↔ c = .module m := by
  cases c <;> simp [module?]

lemma moduleNamed?_eq_some_iff {n : String} {c : Command} {m : Module} :
    c.moduleNamed? n = some m ↔ c = .module m ∧ m.name = some n := by
  rw [moduleNamed?, Option.filter_eq_some_iff, module?_eq_some_iff, decide_eq_true_eq]

lemma module?_eq_none_iff {c : Command} : c.module? = none ↔ ∀ m, c ≠ .module m := by
  simp only [Option.eq_none_iff_forall_ne_some, ne_eq, module?_eq_some_iff]

lemma label_name_eq_some_iff {n : String} {c : Command} :
    c.label.name = some n ↔ ∃ m, c = .module m ∧ m.name = some n := by
  simp only [label, Option.bind_eq_some_iff, module?_eq_some_iff]

end Command

namespace Script

variable {cs : List Command}

def Defines (cs : List Command) (p : Nat) (m : Module) : Prop := cs[p]? = some (.module m)

section Search

variable {f : Command → Option Module} {P : Module → Prop} (hf : ∀ c m, f c = some m ↔ c = .module m ∧ P m)

include hf

lemma eq_none_iff_of_search {c : Command} : f c = none ↔ ∀ m, c = .module m → ¬P m := by
  simp only [Option.eq_none_iff_forall_ne_some, ne_eq, hf, not_and]

/-- A search for a module of a kind ends at the first position that defines one. -/
lemma findSome?_iff {m : Module} :
    cs.findSome? f = some m ↔ ∃ p, Defines cs p m ∧ P m ∧ ∀ q < p, ∀ m', Defines cs q m' → ¬P m' := by
  rw [List.findSome?_eq_some_iff, exists_cut_iff]
  simp only [hf, eq_none_iff_of_search hf, forall_mem_take_iff]
  constructor
  · rintro ⟨p, _, hp, ⟨rfl, hm⟩, hq⟩
    exact ⟨p, hp, hm, fun q hlt m' hm' => hq q hlt _ hm' m' rfl⟩
  · rintro ⟨p, hp, hm, hq⟩
    refine ⟨p, _, hp, ⟨rfl, hm⟩, ?_⟩
    rintro q hlt _ hc m' rfl
    exact hq q hlt m' hc

lemma isSome_findSome?_iff : (cs.findSome? f).isSome ↔ ∃ p m, Defines cs p m ∧ P m := by
  rw [List.findSome?_isSome_iff]
  simp only [Option.isSome_iff_exists, hf]
  constructor
  · rintro ⟨_, hc, m, rfl, hm⟩
    obtain ⟨p, hp⟩ := List.mem_iff_getElem?.mp hc
    exact ⟨p, m, hp, hm⟩
  · rintro ⟨p, m, hp, hm⟩
    exact ⟨_, List.mem_of_getElem? hp, m, rfl, hm⟩

end Search

lemma bindings_built (cs : List Command) : (built cs).bindings = .ofLabels (cs.map Command.label) := by
  induction cs using List.reverseRecOn with
  | nil => rfl
  | append_singleton cs c ih =>
    have hs : (built cs).commands.size = cs.length := by rw [← Array.length_toList, commands_built]
    rw [built_concat, List.map_append, List.map_singleton, BindingTable.ofLabels_concat, ← ih, List.length_map, ← hs]
    cases c <;> rfl

lemma getElem?_commands (i : Nat) : (built cs).commands[i]? = cs[i]? := by
  rw [← Array.getElem?_toList, commands_built]

lemma getModule?_index (loc : Location) (i : UInt32) :
    (built cs).getModule? ⟨loc, .index i⟩ = cs[i.toNat]?.bind Command.module? := by
  rw [← getElem?_commands]
  rfl

lemma bind_find?_label (cs : List Command) (n : String) :
    (cs.find? fun c => c.label.name = some n).bind Command.module? = cs.findSome? (Command.moduleNamed? n) := by
  induction cs with
  | nil => rfl
  | cons c cs ih =>
    rw [List.find?_cons, List.findSome?_cons, ← ih]
    cases hc : c.module? with
    | none => simp [Command.label, Command.moduleNamed?, hc]
    | some m => by_cases hm : m.name = some n <;> simp [Command.label, Command.moduleNamed?, Option.filter, hc, hm]

lemma getModule?_name (loc : Location) (n : String) :
    (built cs).getModule? ⟨loc, .name n⟩ = cs.findSome? (Command.moduleNamed? n) := by
  have hr : (built cs).bindings.resolve ⟨loc, .name n⟩ = cs.findIdx? fun c => c.label.name = some n := by
    refine (congrArg (fun t => (BindingTable.find? t n).map Binding.index) (bindings_built cs)).trans ?_
    rw [BindingTable.find?_ofLabels, List.findIdx?_map]
    rfl
  -- the position that the name is bound to is where the search for the name ends
  rw [getModule?, hr]
  simp only [getElem?_commands]
  rw [← Option.bind_assoc, ← List.find?_eq_bind_findIdx?_getElem?]
  exact bind_find?_label cs n

lemma getModule?_name_iff {loc : Location} {n : String} {m : Module} :
    (built cs).getModule? ⟨loc, .name n⟩ = some m ↔
      ∃ p, Defines cs p m ∧ m.name = some n ∧ ∀ q < p, ∀ m', Defines cs q m' → m'.name ≠ some n := by
  rw [getModule?_name]
  exact findSome?_iff fun _ _ => Command.moduleNamed?_eq_some_iff

lemma isSome_getModule?_name_iff {loc : Location} {n : String} :
    ((built cs).getModule? ⟨loc, .name n⟩).isSome ↔ ∃ p m, Defines cs p m ∧ m.name = some n := by
  rw [getModule?_name]
  exact isSome_findSome?_iff fun _ _ => Command.moduleNamed?_eq_some_iff

lemma getModule?_index_iff {loc : Location} {i : UInt32} {m : Module} :
    (built cs).getModule? ⟨loc, .index i⟩ = some m ↔ Defines cs i.toNat m := by
  simp only [getModule?_index, Option.bind_eq_some_iff, Command.module?_eq_some_iff, Defines, exists_eq_right]

lemma getModule?_name_append {loc : Location} {n : String} {m : Module} (more : List Command)
    (h : (built cs).getModule? ⟨loc, .name n⟩ = some m) : (built (cs ++ more)).getModule? ⟨loc, .name n⟩ = some m := by
  rw [getModule?_name] at h ⊢
  rw [List.findSome?_append, h, Option.some_or]

lemma getModule?_name_without {before after : List Command} {c : Command} (hc : ∀ m, c ≠ .module m)
    (loc : Location) (n : String) :
    (built (before ++ c :: after)).getModule? ⟨loc, .name n⟩ = (built (before ++ after)).getModule? ⟨loc, .name n⟩ := by
  have hn : c.moduleNamed? n = none :=
    (eq_none_iff_of_search fun _ _ => Command.moduleNamed?_eq_some_iff).mpr fun m hm => absurd hm (hc m)
  simp only [getModule?_name, List.findSome?_append, List.findSome?_cons, hn]

lemma firstModule?_iff {m : Module} :
    (built cs).firstModule? = some m ↔ ∃ p, Defines cs p m ∧ ∀ q < p, ∀ m', ¬Defines cs q m' := by
  have hf (c : Command) (m : Module) : c.module? = some m ↔ c = .module m ∧ True := by
    rw [Command.module?_eq_some_iff, and_true]
  rw [firstModule?, commands_built, findSome?_iff hf]
  simp only [true_and, not_true, imp_false]

lemma lastModule?_iff {m : Module} :
    (built cs).lastModule? = some m ↔ ∃ p, Defines cs p m ∧ ∀ q > p, ∀ m', ¬Defines cs q m' := by
  have hcut : current? cs = some m ↔ ∃ before c after, cs = before ++ c :: after ∧
      c = .module m ∧ ∀ c ∈ after, c.module? = none := by
    rw [current?_eq_some_iff]
    constructor
    · rintro ⟨before, after, hcs, ha⟩
      exact ⟨before, _, after, hcs, rfl, ha⟩
    · rintro ⟨before, _, after, hcs, rfl, ha⟩
      exact ⟨before, after, hcs, ha⟩
  rw [lastModule?_built, hcut, exists_cut_iff]
  simp only [forall_mem_drop_iff, Command.module?_eq_none_iff]
  constructor
  · rintro ⟨p, _, hp, rfl, hq⟩
    exact ⟨p, hp, fun q hlt m' hm' => hq q hlt _ hm' m' rfl⟩
  · rintro ⟨p, hp, hq⟩
    refine ⟨p, _, hp, rfl, ?_⟩
    rintro q hlt _ hc m' rfl
    exact hq q hlt m' hc

lemma forall_module?_eq_none_iff : (∀ c ∈ cs, c.module? = none) ↔ ∀ p m, ¬Defines cs p m := by
  simp only [Command.module?_eq_none_iff]
  constructor
  · intro h p m hp
    exact h _ (List.mem_of_getElem? hp) m rfl
  · rintro h _ hc m rfl
    obtain ⟨p, hp⟩ := List.mem_iff_getElem?.mp hc
    exact h p m hp

lemma firstModule?_eq_none_iff : (built cs).firstModule? = none ↔ ∀ p m, ¬Defines cs p m := by
  rw [firstModule?, commands_built, List.findSome?_eq_none_iff, forall_module?_eq_none_iff]

lemma lastModule?_eq_none_iff : (built cs).lastModule? = none ↔ ∀ p m, ¬Defines cs p m := by
  rw [lastModule?_built, current?_eq_none_iff, forall_module?_eq_none_iff]

lemma exists_label_iff {n : String} {b : Binding} :
    (∃ l, (cs.map Command.label)[b.index]? = some l ∧ l.name = some n ∧ l.loc = b.loc) ↔
      ∃ m, Defines cs b.index m ∧ m.name = some n ∧ m.loc = b.loc := by
  simp only [List.getElem?_map, Option.map_eq_some_iff]
  constructor
  · rintro ⟨_, ⟨c, hc, rfl⟩, hn, hl⟩
    obtain ⟨m, rfl, hn⟩ := Command.label_name_eq_some_iff.mp hn
    exact ⟨m, hc, hn, hl⟩
  · rintro ⟨m, hm, hn, hl⟩
    exact ⟨_, ⟨_, hm, rfl⟩, hn, hl⟩

lemma exists_earlier_label_iff {n : String} {p : Nat} :
    (∃ l ∈ (cs.map Command.label).take p, l.name = some n) ↔ ∃ q < p, ∃ m, Defines cs q m ∧ m.name = some n := by
  simp only [mem_take_iff, List.getElem?_map, Option.map_eq_some_iff]
  constructor
  · rintro ⟨_, ⟨q, hlt, c, hc, rfl⟩, hn⟩
    obtain ⟨m, rfl, hn⟩ := Command.label_name_eq_some_iff.mp hn
    exact ⟨q, hlt, m, hc, hn⟩
  · rintro ⟨q, hlt, m, hm, hn⟩
    exact ⟨_, ⟨q, hlt, _, hm, rfl⟩, hn⟩

lemma holds_bindings_iff {n : String} {b : Binding} :
    (built cs).bindings.Holds (n, b) ↔ ∃ m, Defines cs b.index m ∧ m.name = some n ∧ m.loc = b.loc := by
  rw [bindings_built, BindingTable.holds_ofLabels, exists_label_iff]

lemma mem_duplicates_iff {n : String} {b : Binding} :
    (n, b) ∈ (built cs).bindings.duplicates.toList ↔
      (∃ m, Defines cs b.index m ∧ m.name = some n ∧ m.loc = b.loc) ∧
        ∃ q < b.index, ∃ m, Defines cs q m ∧ m.name = some n := by
  rw [bindings_built, BindingTable.duplicates_ofLabels, BindingTable.mem_repeated, ← exists_label_iff,
    ← exists_earlier_label_iff]
  simp only [← and_assoc, exists_and_right]

/-- What a script answers, told from the commands that were appended. -/
structure Answers (cs : List Command) : Prop where
  named : ∀ loc n m, (built cs).getModule? ⟨loc, .name n⟩ = some m ↔
    ∃ p, Defines cs p m ∧ m.name = some n ∧ ∀ q < p, ∀ m', Defines cs q m' → m'.name ≠ some n
  isSome_named : ∀ loc n, ((built cs).getModule? ⟨loc, .name n⟩).isSome ↔ ∃ p m, Defines cs p m ∧ m.name = some n
  indexed : ∀ loc i m, (built cs).getModule? ⟨loc, .index i⟩ = some m ↔ Defines cs i.toNat m
  settled : ∀ more loc n m, (built cs).getModule? ⟨loc, .name n⟩ = some m →
    (built (cs ++ more)).getModule? ⟨loc, .name n⟩ = some m
  bound : ∀ n b, (built cs).bindings.Holds (n, b) ↔ ∃ m, Defines cs b.index m ∧ m.name = some n ∧ m.loc = b.loc
  recorded : ∀ n b, (n, b) ∈ (built cs).bindings.duplicates.toList ↔
    (∃ m, Defines cs b.index m ∧ m.name = some n ∧ m.loc = b.loc) ∧
      ∃ q < b.index, ∃ m, Defines cs q m ∧ m.name = some n
  ordered : (built cs).bindings.duplicates.toList.Pairwise fun x y => x.2.index < y.2.index
  without : ∀ before c after, cs = before ++ c :: after → (∀ m, c ≠ .module m) → ∀ loc n,
    (built cs).getModule? ⟨loc, .name n⟩ = (built (before ++ after)).getModule? ⟨loc, .name n⟩
  first : ∀ m, (built cs).firstModule? = some m ↔ ∃ p, Defines cs p m ∧ ∀ q < p, ∀ m', ¬Defines cs q m'
  last : ∀ m, (built cs).lastModule? = some m ↔ ∃ p, Defines cs p m ∧ ∀ q > p, ∀ m', ¬Defines cs q m'
  first_eq_none : (built cs).firstModule? = none ↔ ∀ p m, ¬Defines cs p m
  last_eq_none : (built cs).lastModule? = none ↔ ∀ p m, ¬Defines cs p m

/-- However its commands follow each other, a script answers for the modules that they define and for
nothing else. A name stays with the first module that has it. -/
theorem answers_built (cs : List Command) : Answers cs where
  named _ _ _ := getModule?_name_iff
  isSome_named _ _ := isSome_getModule?_name_iff
  indexed _ _ _ := getModule?_index_iff
  settled more _ _ _ := getModule?_name_append more
  bound _ _ := holds_bindings_iff
  recorded _ _ := mem_duplicates_iff
  ordered := by
    rw [bindings_built, BindingTable.duplicates_ofLabels]
    exact BindingTable.pairwise_repeated _
  without := by
    rintro before c after rfl hc loc n
    exact getModule?_name_without hc loc n
  first _ := firstModule?_iff
  last _ := lastModule?_iff
  first_eq_none := firstModule?_eq_none_iff
  last_eq_none := lastModule?_eq_none_iff

def sameName : List Command :=
  [.module { Module.empty with name := some "$A" }, .register "a" none, .module { Module.empty with name := some "$A" }]

example : (built sameName).bindings.duplicates.toList = [("$A", ⟨.unknown, 2⟩)] := by decide

end Script

end WasmTree
