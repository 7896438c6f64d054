import WasmTree.Proofs.Module.Interning
import WasmTree.Proofs.Module.Names
import WasmTree.Proofs.Reading.Layout

/-!
Types and what refers to them. A signature is copied from the list of the types read so far, which ends
up as the type space of the module.
-/

namespace WasmTree

namespace Entry

def isType : Entry → Bool
  | type .. => true
  | _ => false

def typeIndex? : Entry → Option UInt32
  | imported ⟨_, _, _, .func t⟩ | imported ⟨_, _, _, .tag t⟩ => some t
  | function ⟨_, t⟩ | tag ⟨_, t⟩ => some t
  | _ => none

lemma isType_of_signature? {e : Entry} (h : e.signature?.isSome) : e.isType = true := by
  cases e <;> simp_all [signature?, isType]

lemma declares_of_signature? {e : Entry} (h : e.signature?.isSome) : e.declares = true := by
  cases e <;> simp_all [signature?, declares]

namespace Declares

variable {o : ReadOptions} {types : List Signature} {e : Entry} {f : Field}

lemma decl_eq (h : e.Declares o types f) {g : Func} (hg : f.func? = some g) :
    ∃ (t : UInt32) (sig : Signature), types[t.toNat]? = some sig ∧ g.decl = .typed (.ofIndex t) sig := by
  cases h with
  | @imported i _ offset hb =>
    rcases i with ⟨m, n, k⟩
    cases hb with
    | func hs =>
      cases hg
      exact ⟨_, _, hs, rfl⟩
    | _ => cases hg
  | function offset hs =>
    cases hg
    exact ⟨_, _, hs, rfl⟩
  | _ => cases hg

lemma except_eq (h : e.Declares o types f) {x : Exception} (hx : f.except? = some x) :
    o.exceptions = true ∧ ∃ sig ∈ types, x.params = sig.params := by
  cases h with
  | @imported i _ offset hb =>
    rcases i with ⟨m, n, k⟩
    cases hb with
    | tag ho hs =>
      cases hx
      exact ⟨ho, _, List.mem_of_getElem? hs, rfl⟩
    | _ => cases hx
  | tag offset ho hs =>
    cases hx
    exact ⟨ho, _, List.mem_of_getElem? hs, rfl⟩
  | _ => cases hx

lemma exists_signature (h : e.Declares o types f) {t : UInt32} (ht : e.typeIndex? = some t) :
    ∃ sig, types[t.toNat]? = some sig := by
  cases h with
  | @imported i _ offset hb =>
    rcases i with ⟨m, n, k⟩
    cases hb with
    | func hs | tag _ hs =>
      cases ht
      exact ⟨_, hs⟩
    | _ => cases ht
  | function offset hs | tag offset _ hs =>
    cases ht
    exact ⟨_, hs⟩
  | _ => cases ht

end Declares

end Entry

lemma exists_eq_append_of_mem_occurrences {es : List Entry} {x : List Entry × Entry} (h : x ∈ occurrences es) :
    ∃ ys, es = x.1 ++ x.2 :: ys := by
  induction es using List.reverseRecOn with
  | nil => cases h
  | append_singleton es e ih =>
    rw [occurrences_concat] at h
    rcases List.mem_append.mp h with h | h
    · obtain ⟨ys, hys⟩ := ih h
      exact ⟨ys ++ [e], by rw [hys, List.append_assoc, List.cons_append]⟩
    · obtain rfl := List.mem_singleton.mp h
      exact ⟨[], rfl⟩

lemma typesOf_prefix_of_mem {es : List Entry} {x : List Entry × Entry} (h : x ∈ occurrences es) :
    typesOf x.1 <+: typesOf es := by
  obtain ⟨ys, hys⟩ := exists_eq_append_of_mem_occurrences h
  rw [hys]
  exact (List.prefix_append _ _).filterMap _

lemma filterMap_signature?_occurrences (es : List Entry) :
    ((occurrences es).filter (·.2.declares)).filterMap (·.2.signature?) = typesOf es := by
  rw [List.filterMap_filter]
  calc
    _ = (occurrences es).filterMap (·.2.signature?) := by
      apply List.filterMap_congr
      intro x _
      cases hs : x.2.signature? with
      | none => exact ite_self none
      | some sig => exact if_pos (Entry.declares_of_signature? (by rw [hs, Option.isSome_some]))
    _ = ((occurrences es).map Prod.snd).filterMap Entry.signature? := by
      rw [List.filterMap_map]
      rfl
    _ = typesOf es := by rw [map_snd_occurrences, typesOf]

lemma length_typesOf_le (es : List Entry) : (typesOf es).length ≤ es.countP Entry.isType := by
  rw [typesOf, List.length_filterMap_eq_countP]
  exact List.countP_mono_left fun e _ => Entry.isType_of_signature?

namespace Layout

variable {o : ReadOptions} {es : List Entry} {fields : List Field} {m : Module}

lemma declares_of_mem (h : Layout o es fields) {f : Field} (hf : f ∈ fields) :
    ∃ y ∈ occurrences es, y.2.Declares o (typesOf y.1) f.bare := by
  obtain ⟨i, hi, rfl⟩ := List.getElem_of_mem hf
  have hl := h.declared.length_eq.symm ▸ hi
  exact ⟨_, (List.mem_filter.mp (List.getElem_mem hl)).1, h.declared.get hl hi⟩

lemma signatures_eq (h : Layout o es m.fields.toList) (hm : m.Consistent) : m.signatures = typesOf es := by
  have hs : m.fields.toList.map (fun f => f.type?.map FuncType.sig) =
      ((occurrences es).filter (·.2.declares)).map fun x => x.2.signature? := by
    rw [← List.forall₂_eq_eq_eq, List.forall₂_map_left_iff, List.forall₂_map_right_iff]
    refine h.declared.flip.imp fun f x hf => ?_
    exact hf.signature? ▸ congrArg (Option.map FuncType.sig) Field.others_mapFunc?.1.symm
  have ht := congrArg (List.filterMap id) hs
  rw [List.filterMap_map, List.filterMap_map] at ht
  rw [hm.signatures_eq, List.map_filterMap, ← filterMap_signature?_occurrences es]
  exact ht

/-- A type that stood before an entry has the same place in the type space. -/
lemma exists_type? (h : Layout o es m.fields.toList) (hm : m.Consistent) {x : List Entry × Entry}
    (hx : x ∈ occurrences es) {t : Nat} {sig : Signature} (ht : (typesOf x.1)[t]? = some sig) :
    ∃ ty, m.type? t = some ty ∧ ty.sig = sig := by
  obtain ⟨rest, hr⟩ := typesOf_prefix_of_mem hx
  have hl := (List.getElem?_eq_some_iff.mp ht).1
  rw [hm.exists_type?_iff, h.signatures_eq hm, ← hr, List.getElem?_append_left hl, ht]

end Layout

/-- A function refers to the type it has the signature of, and an exception carries what the functions
of some type take. -/
structure Module.Typed (m : Module) : Prop where
  func : ∀ f ∈ m.funcs, ∃ t : UInt32, f.decl.typeVar = some (.ofIndex t) ∧ t.toNat < m.size .types ∧
    (∃ ty, m.type? t.toNat = some ty ∧ f.decl.sig = ty.sig) ∧ m.declarationIndex? f.decl = some t.toNat
  except : ∀ x ∈ m.excepts, ∃ ty ∈ m.types, x.params = ty.sig.params

lemma Layout.typed {o : ReadOptions} {es : List Entry} {m : Module} (h : Layout o es m.fields.toList)
    (hm : m.Consistent) : m.Typed where
  func f hf := by
    rw [hm.projected.funcs.items_eq] at hf
    obtain ⟨x, hx, hf⟩ := List.mem_filterMap.mp hf
    obtain ⟨y, hy, hd⟩ := h.declares_of_mem hx
    have hb : x.bare.func? = some (.ofDeclaration f.decl) := by
      rw [Field.bare, Field.func?_mapFunc?, hf, Option.map_some]
    obtain ⟨t, sig, ht, hg⟩ := hd.decl_eq hb
    obtain ⟨ty, hty, rfl⟩ := h.exists_type? hm hy ht
    have hdecl : f.decl = .typed (.ofIndex t) ty.sig := hg
    have hlt : t.toNat < m.size .types := by
      by_contra hn
      rw [(hm.projected.types.eq_none_iff _).mpr (Nat.le_of_not_lt hn)] at hty
      cases hty
    have hi : m.declarationIndex? (.typed (.ofIndex t) ty.sig) = m.index? .types (.ofIndex t) := rfl
    rw [hdecl]
    exact ⟨t, rfl, hlt, ⟨ty, hty, rfl⟩, hi.trans ((m.index?_index .types .unknown t).trans (if_pos hlt))⟩
  except x hx := by
    rw [hm.projected.excepts.items_eq] at hx
    obtain ⟨f, hf, hx⟩ := List.mem_filterMap.mp hx
    obtain ⟨y, hy, hd⟩ := h.declares_of_mem hf
    obtain ⟨-, sig, hs, hp⟩ := hd.except_eq (Field.others_mapFunc?.2.2.1.trans hx)
    obtain ⟨t, ht⟩ := List.mem_iff_getElem?.mp hs
    obtain ⟨ty, hty, rfl⟩ := h.exists_type? hm hy ht
    exact ⟨ty, List.mem_of_getElem? (hm.projected.types.item?_eq t ▸ hty), hp⟩

/-- No entry refers to a type that is not declared before it. -/
def TypesFirst (es : List Entry) : Prop :=
  ∀ xs e ys, es = xs ++ e :: ys → ∀ t, e.typeIndex? = some t → t.toNat < xs.countP Entry.isType

lemma Collected.EntersAll.typesFirst {o : ReadOptions} {es : List Entry} {c : Collected}
    (h : EntersAll o .empty es c) : TypesFirst es := by
  intro xs e ys hes t ht
  subst hes
  obtain ⟨d, hxs, hys⟩ := entersAll_append_iff.mp h
  obtain ⟨d', hx, -⟩ := entersAll_cons_iff.mp hys
  cases hx with
  | declares hf =>
    obtain ⟨sig, hs⟩ := hf.exists_signature ht
    have hlt := (List.getElem?_eq_some_iff.mp hs).1
    rw [hxs.laid.types] at hlt
    exact Nat.lt_of_lt_of_le hlt (length_typesOf_le xs)
  | _ => cases ht

/-- What refers to a type refers to one that was read before it and has its signature, or reading
fails. -/
theorem readPayloads_typed (o : ReadOptions) (ps : Batch Payload) :
    (∀ m, readPayloads o ps = .ok m → m.Typed) ∧
      (¬TypesFirst ps.entries → ∃ e, readPayloads o ps = .error e) := by
  constructor
  · intro m h
    obtain ⟨hm, hl⟩ := layout_of_readPayloads h
    exact hl.typed hm
  · intro hn
    cases h : readPayloads o ps with
    | error e => exact ⟨e, rfl⟩
    | ok m =>
      obtain ⟨-, c, he, -, -⟩ := readPayloads_eq_ok.mp h
      exact absurd he.typesFirst hn

def secondTypes : Batch Payload where
  items := [.types 10 ⟨[⟨[.number .i64], []⟩], true⟩,
    .imports ⟨[⟨20, "env", "f", .func 0⟩, ⟨30, "env", "x", .tag 0⟩], true⟩,
    .types 40 ⟨[⟨[.number .f32], []⟩], true⟩, .functions ⟨[⟨50, 1⟩], true⟩, .tags ⟨[⟨60, 1⟩], true⟩,
    .body (oneLocal .i64)]
  complete := true

def lateTypes : Batch Payload where
  items := [.types 10 ⟨[⟨[], []⟩], true⟩, .functions ⟨[⟨20, 1⟩], true⟩, .types 30 ⟨[⟨[], []⟩], true⟩,
    .body (oneLocal .i64)]
  complete := true

theorem readPayloads_secondTypes :
    (∃ m, readPayloads ⟨true, true⟩ secondTypes = .ok m ∧ m.Typed ∧
      m.funcs.map Func.decl = [.typed (.ofIndex 0) ⟨[.i64], []⟩, .typed (.ofIndex 1) ⟨[.f32], []⟩] ∧
      m.excepts.map Exception.params = [[.i64], [.f32]]) ∧
    ¬TypesFirst lateTypes.entries ∧ ∃ e, readPayloads ⟨true, true⟩ lateTypes = .error e := by
  have hv : (readPayloads ⟨true, true⟩ secondTypes).toOption.map
      (fun m => (m.funcs.map Func.decl, m.excepts.map Exception.params)) =
        some ([.typed (.ofIndex 0) ⟨[.i64], []⟩, .typed (.ofIndex 1) ⟨[.f32], []⟩], [[.i64], [.f32]]) := by
    decide +kernel
  obtain ⟨m, hm, hp⟩ := Option.map_eq_some_iff.mp hv
  obtain ⟨hf, hx⟩ := Prod.mk.inj hp
  have h := Reading.toOption_eq_some.mp hm
  have ht : ¬TypesFirst lateTypes.entries := fun ht =>
    absurd (ht [.type 10 ⟨[], []⟩] _ _ rfl 1 rfl) (by decide)
  refine ⟨⟨m, h, (readPayloads_typed ⟨true, true⟩ secondTypes).1 m h, hf, hx⟩, ht, ?_⟩
  exact (readPayloads_typed ⟨true, true⟩ lateTypes).2 ht

end WasmTree
