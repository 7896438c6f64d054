import Mathlib.Data.List.Nodup
import WasmTree.Proofs.Module.Changes

/-!
Interning signatures. A signature keeps the index it got, whatever is appended, interned or edited
afterwards, and no other signature gets that index.
-/

namespace WasmTree

/-- What the change adds to the types, it interns. -/
def Change.InternsTypes : Change → Prop
  | .grow (.append f) => f.type? = none
  | .grow (.intern ..) | .edit _ => True

namespace Module

def signatures (m : Module) : List Signature := m.types.map FuncType.sig

/-- An anonymous type stands at the end, and nothing else is new. -/
structure Extended (m : Module) (loc : Location) (sig : Signature) (m' : Module) : Prop where
  fields : m'.fields = m.fields.push ⟨loc, .type ⟨none, sig⟩⟩
  types : m'.types = m.types ++ [⟨none, sig⟩]
  head : m'.loc = m.loc ∧ m'.name = m.name ∧ m'.start? = m.start?
  space : ∀ k, k ≠ .types → m'.space k = m.space k ∧ m'.entries k = m.entries k
  bindings : ∀ k, m'.bindings k = m.bindings k
  importCount : ∀ k, m'.importCount k = m.importCount k
  entry? : ∀ k i f, m.entry? k i = some f → m'.entry? k i = some f
  index? : ∀ k v i, m.index? k v = some i → m'.index? k v = some i

structure Interned (m : Module) (loc : Location) (sig : Signature) (m' : Module) (i : Nat) : Prop where
  found : ∃ t, m'.type? i = some t ∧ t.sig = sig
  least : ∀ j t, m'.type? j = some t → t.sig = sig → i ≤ j
  known : (∃ j t, m.type? j = some t ∧ t.sig = sig) → m' = m
  new : (¬∃ j t, m.type? j = some t ∧ t.sig = sig) → m.Extended loc sig m'

structure Settled (m : Module) (sig : Signature) (i : Nat) : Prop where
  intern : ∀ loc, m.intern loc sig = (m, i)
  signatureIndex? : m.signatureIndex? sig = some i
  declarationIndex? : m.declarationIndex? (.inline sig) = some i
  intern_eq_iff : ∀ loc t, (m.intern loc t).2 = i ↔ t.params = sig.params ∧ t.results = sig.results

variable {m : Module} {loc : Location} {sig : Signature} {i : Nat}

lemma signatureIndex?_eq (m : Module) (sig : Signature) :
    m.signatureIndex? sig = m.signatures.findIdx? (· = sig) := by
  rw [signatureIndex?, signatures, List.findIdx?_map]
  rfl

lemma signatureIndex?_eq_none_iff : m.signatureIndex? sig = none ↔ sig ∉ m.signatures := by
  rw [signatureIndex?_eq, List.findIdx?_eq_none_iff]
  constructor
  · intro h hm
    simpa using h sig hm
  · intro hm s hs
    exact decide_eq_false fun he => hm (he ▸ hs)

lemma intern_of_some (loc : Location) (hi : m.signatureIndex? sig = some i) : m.intern loc sig = (m, i) := by
  rw [intern, hi]

lemma intern_of_none (loc : Location) (hi : m.signatureIndex? sig = none) :
    m.intern loc sig = (m.append ⟨loc, .type ⟨none, sig⟩⟩, m.size .types) := by
  rw [intern, hi]

lemma size_le_append (f : Field) (k : SpaceKind) : m.size k ≤ (m.append f).size k := by
  rw [size, size, append_space]
  cases f.membership? k with
  | none => exact Nat.le_refl _
  | some x =>
    rw [Option.elim_some, Space.enter_positions, Array.size_push]
    exact Nat.le_succ _

namespace Consistent

lemma signatures_eq (h : m.Consistent) :
    m.signatures = (m.fields.toList.filterMap Field.type?).map FuncType.sig := by
  rw [signatures, h.projected.types.items_eq]

lemma getElem?_signatures (h : m.Consistent) (i : Nat) : m.signatures[i]? = (m.type? i).map FuncType.sig := by
  rw [signatures, List.getElem?_map, h.projected.types.item?_eq]

lemma length_signatures (h : m.Consistent) : m.signatures.length = m.size .types := by
  rw [signatures, List.length_map, h.projected.types.length_eq]

lemma exists_type?_iff (h : m.Consistent) : (∃ t, m.type? i = some t ∧ t.sig = sig) ↔ m.signatures[i]? = some sig := by
  rw [h.getElem?_signatures, Option.map_eq_some_iff]

lemma exists_index_iff (h : m.Consistent) : (∃ j t, m.type? j = some t ∧ t.sig = sig) ↔ sig ∈ m.signatures := by
  simp only [h.exists_type?_iff, List.mem_iff_getElem?]

lemma map_entries (h : m.Consistent) (k : SpaceKind) :
    (m.space k).positions.toList.map (m.fields[·]?) = (m.fields.toList.filter (Field.belongs k)).map some := by
  rw [h.positions k, ← map_getElem?_findIdxs]
  simp only [Array.getElem?_toList]

lemma entries_eq (h : m.Consistent) (k : SpaceKind) : m.entries k = m.fields.toList.filter (Field.belongs k) :=
  filterMap_of_map_some (h.map_entries k)

lemma entry?_eq (h : m.Consistent) (k : SpaceKind) (i : Nat) :
    m.entry? k i = (m.fields.toList.filter (Field.belongs k))[i]? := by
  rw [Module.entry?, ← getElem?_bind_of_map_some (h.map_entries k), Array.getElem?_toList]

lemma entries_append (h : m.Consistent) (f : Field) (k : SpaceKind) :
    (m.append f).entries k = m.entries k ++ [f].filter (Field.belongs k) := by
  rw [(h.append f).entries_eq, h.entries_eq, append_fields, Array.toList_push, List.filter_append]

lemma entry?_append (h : m.Consistent) (f : Field) {k : SpaceKind} {g : Field} (hi : m.entry? k i = some g) :
    Module.entry? (m.append f) k i = some g := by
  rw [h.entry?_eq] at hi
  have hl := (List.getElem?_eq_some_iff.mp hi).1
  have ha := h.append f
  rw [ha.entry?_eq, append_fields, Array.toList_push, List.filter_append,
    List.getElem?_append_left hl, hi]

lemma signatures_append (h : m.Consistent) (f : Field) :
    (m.append f).signatures = m.signatures ++ (f.type?.map FuncType.sig).toList := by
  rw [(h.append f).signatures_eq, h.signatures_eq, append_fields, Array.toList_push, List.filterMap_append,
    List.map_append]
  cases hf : f.type? <;> simp [hf]

lemma signatures_grow (h : m.Consistent) (g : Growth) :
    m.signatures <+: (m.grow g).signatures := by
  rw [(h.grow g).signatures_eq, h.signatures_eq, grow_fields h, List.filterMap_append, List.map_append]
  exact List.prefix_append _ _

lemma signatures_edit (h : m.Consistent) (e : Edit) : (m.change (.edit e)).signatures = m.signatures := by
  rw [(h.change (.edit e)).signatures_eq, h.signatures_eq]
  rcases change_edit m e with he | ⟨p, f, g, hp, hr, he⟩
  · rw [he]
  · have hf : m.fields.toList[p]? = some f := by simpa using hp
    have hs : List.Forall₂ Field.Rewrites m.fields.toList m.fields.toList :=
      List.forall₂_same.mpr fun f _ => .kept f
    have ht := Field.Rewrites.types_eq (Field.Rewrites.forall₂_set hs hf hr)
    rw [he, Array.toList_setIfInBounds, ← ht]

lemma signatures_change (h : m.Consistent) (c : Change) : m.signatures <+: (m.change c).signatures := by
  cases c with
  | grow g => exact h.signatures_grow g
  | edit e => exact h.signatures_edit e ▸ List.prefix_rfl

lemma foldl_change (h : m.Consistent) (cs : List Change) :
    (cs.foldl Module.change m).Consistent ∧ m.signatures <+: (cs.foldl Module.change m).signatures := by
  induction cs generalizing m with
  | nil => exact ⟨h, List.prefix_rfl⟩
  | cons c cs ih =>
    obtain ⟨hc, hs⟩ := ih (h.change c)
    exact ⟨hc, (h.signatures_change c).trans hs⟩

lemma intern (h : m.Consistent) (loc : Location) (sig : Signature) : (m.intern loc sig).1.Consistent :=
  h.grow (.intern loc sig)

lemma signatureIndex?_intern (h : m.Consistent) (loc : Location) (sig : Signature) :
    (m.intern loc sig).1.signatureIndex? sig = some (m.intern loc sig).2 := by
  cases hi : m.signatureIndex? sig with
  | some i =>
    rw [intern_of_some loc hi]
    exact hi
  | none =>
    have hn : m.signatures.findIdx? (· = sig) = none := signatureIndex?_eq m sig ▸ hi
    rw [intern_of_none loc hi, signatureIndex?_eq, h.signatures_append, List.findIdx?_append, hn]
    simp [Field.type?, h.length_signatures]

lemma getElem?_signatures_intern (h : m.Consistent) (loc : Location) (sig : Signature) :
    (m.intern loc sig).1.signatures[(m.intern loc sig).2]? = some sig := by
  have hi := h.signatureIndex?_intern loc sig
  rw [signatureIndex?_eq, List.findIdx?_eq_some_iff_getElem] at hi
  obtain ⟨hl, hs, -⟩ := hi
  rw [List.getElem?_eq_getElem hl, of_decide_eq_true hs]

lemma extended (h : m.Consistent) (loc : Location) (sig : Signature) :
    m.Extended loc sig (m.append ⟨loc, .type ⟨none, sig⟩⟩) := by
  have ha := h.append ⟨loc, .type ⟨none, sig⟩⟩
  have hbind (k : SpaceKind) : (m.append ⟨loc, .type ⟨none, sig⟩⟩).bindings k = m.bindings k := by
    cases k <;> rfl
  constructor
  case fields => rfl
  case types =>
    rw [ha.projected.types.items_eq, h.projected.types.items_eq, append_fields, Array.toList_push,
      List.filterMap_append]
    rfl
  case head =>
    refine ⟨rfl, rfl, ?_⟩
    rw [ha.start?_eq, h.start?_eq, append_fields, Array.toList_push, List.filterMap_append]
    exact congrArg _ (List.append_nil _)
  case space =>
    intro k hk
    rw [h.entries_append]
    cases k with
    | types => exact absurd rfl hk
    | _ => exact ⟨rfl, List.append_nil _⟩
  case bindings => exact hbind
  case importCount =>
    intro k
    cases k <;> rfl
  case entry? => exact fun k i f hi => h.entry?_append _ hi
  case index? =>
    intro k v i hi
    obtain ⟨hr, hl⟩ := Option.filter_eq_some_iff.mp hi
    refine Option.filter_eq_some_iff.mpr ⟨hbind k ▸ hr, ?_⟩
    exact decide_eq_true (Nat.lt_of_lt_of_le (of_decide_eq_true hl) (size_le_append _ k))

lemma interned (h : m.Consistent) (loc : Location) (sig : Signature) :
    m.Interned loc sig (m.intern loc sig).1 (m.intern loc sig).2 := by
  have hc := h.intern loc sig
  have hi := h.signatureIndex?_intern loc sig
  rw [signatureIndex?_eq, List.findIdx?_eq_some_iff_getElem] at hi
  obtain ⟨_, _, hleast⟩ := hi
  constructor
  case found => exact hc.exists_type?_iff.mpr (h.getElem?_signatures_intern loc sig)
  case least =>
    intro j t ht hs
    have hj : (m.intern loc sig).1.signatures[j]? = some sig := hc.exists_type?_iff.mp ⟨t, ht, hs⟩
    obtain ⟨hl, hj⟩ := List.getElem?_eq_some_iff.mp hj
    by_contra hlt
    have hne := hleast j (Nat.lt_of_not_le hlt)
    simp [hj] at hne
  case known =>
    intro hk
    cases hi : m.signatureIndex? sig with
    | none => exact absurd (h.exists_index_iff.mp hk) (signatureIndex?_eq_none_iff.mp hi)
    | some i => rw [intern_of_some loc hi]
  case new =>
    intro hn
    rw [h.exists_index_iff] at hn
    rw [intern_of_none loc (signatureIndex?_eq_none_iff.mpr hn)]
    exact h.extended loc sig

lemma settled (h : m.Consistent) (hi : m.signatureIndex? sig = some i) : m.Settled sig i where
  intern loc := intern_of_some loc hi
  signatureIndex? := hi
  declarationIndex? := hi
  intern_eq_iff loc t := by
    constructor
    · intro he
      -- what stands at the index before still stands there after `t` is interned
      have ht := h.getElem?_signatures_intern loc t
      have hs : m.signatures[i]? = some sig := by
        have hg := h.getElem?_signatures_intern loc sig
        rwa [intern_of_some loc hi] at hg
      obtain ⟨rest, hp⟩ := h.signatures_grow (.intern loc t)
      have hl := (List.getElem?_eq_some_iff.mp hs).1
      have hg : (m.intern loc t).1.signatures = m.signatures ++ rest := hp.symm
      rw [he, hg, List.getElem?_append_left hl, hs] at ht
      obtain rfl := Option.some.inj ht
      exact ⟨rfl, rfl⟩
    · rintro ⟨hp, hr⟩
      obtain rfl : t = sig := by
        rcases t with ⟨params, results⟩
        rcases sig with ⟨params', results'⟩
        obtain rfl : params = params' := hp
        obtain rfl : results = results' := hr
        rfl
      rw [intern_of_some loc hi]

lemma settled_foldl (h : m.Consistent) (loc : Location) (sig : Signature) (more : List Change) :
    (more.foldl Module.change (m.intern loc sig).1).Settled sig (m.intern loc sig).2 := by
  obtain ⟨hc, hp⟩ := (h.intern loc sig).foldl_change more
  have hi := h.signatureIndex?_intern loc sig
  rw [signatureIndex?_eq] at hi
  exact hc.settled ((signatureIndex?_eq _ _).trans (hp.findIdx?_eq_some hi))

lemma nodup_change (h : m.Consistent) {c : Change} (hc : c.InternsTypes) (hn : m.signatures.Nodup) :
    (m.change c).signatures.Nodup := by
  cases c with
  | edit e => rwa [h.signatures_edit e]
  | grow g =>
    cases g with
    | append f =>
      have hf : f.type? = none := hc
      have hs := h.signatures_append f
      rw [hf, Option.map_none, Option.toList_none, List.append_nil] at hs
      exact hs ▸ hn
    | intern loc sig =>
      have hg : m.change (.grow (.intern loc sig)) = (m.intern loc sig).1 := rfl
      rw [hg]
      cases hi : m.signatureIndex? sig with
      | some i => rwa [intern_of_some loc hi]
      | none =>
        have hm := signatureIndex?_eq_none_iff.mp hi
        have hs : (m.append ⟨loc, .type ⟨none, sig⟩⟩).signatures = m.signatures ++ [sig] :=
          h.signatures_append ⟨loc, .type ⟨none, sig⟩⟩
        rw [intern_of_none loc hi, hs]
        exact List.concat_eq_append ▸ List.Nodup.concat hm hn

lemma nodup_foldl (h : m.Consistent) {cs : List Change} (hcs : ∀ c ∈ cs, c.InternsTypes)
    (hn : m.signatures.Nodup) : (cs.foldl Module.change m).signatures.Nodup := by
  induction cs generalizing m with
  | nil => exact hn
  | cons c cs ih =>
    obtain ⟨hc, hcs⟩ := List.forall_mem_cons.mp hcs
    exact ih (h.change c) hcs (h.nodup_change hc hn)

end Consistent

lemma built_append (cs ds : List Change) : built (cs ++ ds) = ds.foldl change (built cs) :=
  List.foldl_append

/-- A signature is interned at the first index that shows it, where it stays for good, and types that
are only interned do not repeat. -/
theorem interned_built (cs : List Change) (loc : Location) (sig : Signature) :
    (built cs).Interned loc sig ((built cs).intern loc sig).1 ((built cs).intern loc sig).2 ∧
      (∀ more, (built (cs ++ .grow (.intern loc sig) :: more)).Settled sig ((built cs).intern loc sig).2) ∧
      ∀ more, (built cs).signatures.Nodup → (∀ c ∈ more, c.InternsTypes) →
        (built (cs ++ more)).signatures.Nodup := by
  have h := consistent_built cs
  refine ⟨h.interned loc sig, fun more => ?_, fun more hn hm => ?_⟩
  · rw [built_append]
    exact h.settled_foldl loc sig more
  · rw [built_append]
    exact h.nodup_foldl hm hn

def namedTypes : List Change :=
  [.grow (.append ⟨.binary 10, .type ⟨none, ⟨[.i64], []⟩⟩⟩),
    .grow (.append ⟨.binary 20, .entity (.memory ⟨some "m", ⟨1, none, false⟩⟩)⟩),
    .grow (.append ⟨.binary 30, .type ⟨some "t", ⟨[.i32], []⟩⟩⟩)]

def laterTypes : List Change :=
  [.grow (.intern .unknown ⟨[], [.i32]⟩), .grow (.append ⟨.binary 40, .start (.ofIndex 0)⟩),
    .grow (.intern .unknown ⟨[.i32], []⟩)]

theorem interned_namedTypes :
    (built namedTypes).signatures.Nodup ∧ (∀ c ∈ laterTypes, c.InternsTypes) ∧
      ((built namedTypes).intern .unknown ⟨[.i32], []⟩).1 = built namedTypes ∧
      ((built namedTypes).intern .unknown ⟨[.i32], []⟩).2 = 1 ∧
      (built (namedTypes ++ .grow (.intern .unknown ⟨[.i32], []⟩) :: laterTypes)).signatureIndex? ⟨[.i32], []⟩ =
        some 1 ∧
      (built namedTypes).Extended .unknown ⟨[], []⟩ ((built namedTypes).intern .unknown ⟨[], []⟩).1 ∧
      (built (namedTypes ++ laterTypes)).signatures = [⟨[.i64], []⟩, ⟨[.i32], []⟩, ⟨[], [.i32]⟩] ∧
      (built (namedTypes ++ laterTypes)).signatures.Nodup := by
  have hn : (built namedTypes).signatures.Nodup := by decide
  have hm : ∀ c ∈ laterTypes, c.InternsTypes := by simp [laterTypes, Change.InternsTypes, Field.type?]
  obtain ⟨hi, hs, hd⟩ := interned_built namedTypes .unknown ⟨[.i32], []⟩
  have hindex : ((built namedTypes).intern .unknown ⟨[.i32], []⟩).2 = 1 := by decide
  have hnew : ¬∃ j t, (built namedTypes).type? j = some t ∧ t.sig = ⟨[], []⟩ := by
    rw [(consistent_built namedTypes).exists_index_iff]
    decide
  exact ⟨hn, hm, hi.known ⟨1, ⟨some "t", ⟨[.i32], []⟩⟩, by decide, rfl⟩, hindex,
    hindex ▸ (hs laterTypes).signatureIndex?, (interned_built namedTypes .unknown ⟨[], []⟩).1.new hnew,
    by decide, hd laterTypes hn hm⟩

end Module

end WasmTree
