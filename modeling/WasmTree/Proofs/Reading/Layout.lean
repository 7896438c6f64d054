import Mathlib.Data.List.Forall2
import Mathlib.Data.List.Induction
import WasmTree.Proofs.Module.Changes
import WasmTree.Proofs.Reading.Entries
import WasmTree.Proofs.Reading.Naming

/-!
Which fields a module is read into. They are declared entry after entry, and the functions it defines
take the bodies in turn, however the payloads of either lie between the others.
-/

namespace WasmTree

section Selection

open List

variable {α β : Type} {l : List α}

lemma map_modify_eq_self {q : α → β} {i : Nat} {r : α → α} (hq : ∀ a, l[i]? = some a → q (r a) = q a) :
    (l.modify i r).map q = l.map q := by
  apply List.ext_getElem?
  intro j
  rw [getElem?_map, getElem?_map, getElem?_modify]
  by_cases hj : i = j
  · subst hj
    cases ha : l[i]? with
    | none => rfl
    | some a => simp [hq a ha]
  · simp [hj]

lemma forall_mem_filterMap_concat {p : α → Option β} {P : β → Prop} (h : ∀ b ∈ l.filterMap p, P b) {a : α}
    (ha : ∀ b, p a = some b → P b) : ∀ b ∈ (l ++ [a]).filterMap p, P b := by
  rw [filterMap_append]
  intro b hb
  rcases mem_append.mp hb with hb | hb
  · exact h b hb
  · obtain ⟨a', ha', hp⟩ := mem_filterMap.mp hb
    obtain rfl := mem_singleton.mp ha'
    exact ha b hp

lemma filterMap_eq_of_map_eq {l' : List α} {p : α → Option β} (h : l.map p = l'.map p) :
    l.filterMap p = l'.filterMap p := by
  have hs := congrArg (filterMap id) h
  simpa only [filterMap_map, Function.id_comp] using hs

lemma filterMap_modify {part? : α → Option β} {r : α → α} {r' : β → β}
    (hr : ∀ a, part? (r a) = (part? a).map r') {k s i : Nat}
    (hk : (l.findIdxs (fun a => (part? a).isSome) s)[k]? = some (s + i)) :
    (l.modify i r).filterMap part? = (l.filterMap part?).modify k r' := by
  -- the positions of the list start at `s`, so that those of its tail can start one further
  induction l generalizing k s i with
  | nil => simp at hk
  | cons a l ih =>
    rw [findIdxs_cons] at hk
    cases ha : part? a with
    | some b =>
      simp only [ha, Option.isSome_some, if_true] at hk
      cases k with
      | zero =>
        obtain rfl : i = 0 := by simpa using hk.symm
        simp [hr, ha]
      | succ k =>
        rw [getElem?_cons_succ] at hk
        have hle := ge_of_mem_findIdxs _ (mem_of_getElem? hk)
        obtain ⟨i, rfl⟩ : ∃ j, i = j + 1 := ⟨i - 1, by omega⟩
        rw [← Nat.add_assoc, Nat.add_right_comm] at hk
        simp [ha, ih hk]
    | none =>
      simp only [ha, Option.isSome_none, Bool.false_eq_true, if_false] at hk
      have hle := ge_of_mem_findIdxs _ (mem_of_getElem? hk)
      obtain ⟨i, rfl⟩ : ∃ j, i = j + 1 := ⟨i - 1, by omega⟩
      rw [← Nat.add_assoc, Nat.add_right_comm] at hk
      simp [ha, ih hk]

lemma take_modify_concat {k : Nat} {a : α} {r : α → α} (hk : l[k]? = some a) :
    (l.modify k r).take (k + 1) = l.take k ++ [r a] := by
  have hr : (l.modify k r)[k]? = some (r a) := by simp [hk]
  have ht : (l.modify k r).take k = l.take k := by
    apply List.ext_getElem?
    intro j
    simp only [getElem?_take, getElem?_modify]
    by_cases hj : j < k
    · simp [hj, Nat.ne_of_gt hj]
    · simp [hj]
  rw [take_add_one, hr, ht]
  rfl

lemma filterMap_or {p q : α → Option β} (hx : ∀ a, (q a).isSome → p a = none)
    (h : l.Pairwise fun a b => (q a).isSome → p b = none) :
    l.filterMap (fun a => (p a).or (q a)) = l.filterMap p ++ l.filterMap q := by
  induction l with
  | nil => rfl
  | cons a l ih =>
    obtain ⟨ha, hl⟩ := pairwise_cons.mp h
    cases hq : q a with
    | none => cases hp : p a <;> simp [hp, hq, ih hl]
    | some b =>
      have hn : l.filterMap p = [] := filterMap_eq_nil_iff.mpr fun c hc => ha c hc (by simp [hq])
      simp [hx a (by simp [hq]), hq, ih hl, hn]

end Selection

namespace Entry

def signature? : Entry → Option Signature
  | type _ s => s.signature?
  | _ => none

def body? : Entry → Option WireBody
  | body b => some b
  | _ => none

def isFunction : Entry → Bool
  | function _ => true
  | _ => false

def importsFunction : Entry → Bool
  | imported ⟨_, _, _, .func _⟩ => true
  | _ => false

lemma isFunction_or_importsFunction_and_declares (e : Entry) :
    ((e.isFunction || e.importsFunction) && e.declares) = (e.isFunction || e.importsFunction) := by
  cases e with
  | imported i => exact Bool.and_true _
  | element e => rfl
  | data d => rfl
  | _ => rfl

end Entry

def typesOf (es : List Entry) : List Signature := es.filterMap Entry.signature?

/-- Every entry after those that stand before it. -/
def occurrences (es : List Entry) : List (List Entry × Entry) := es.zipIdx.map fun (e, i) => (es.take i, e)

def bodiesOf (es : List Entry) : List (List Entry × WireBody) :=
  (occurrences es).filterMap fun x => x.2.body?.map fun b => (x.1, b)

lemma typesOf_concat (es : List Entry) (e : Entry) : typesOf (es ++ [e]) = typesOf es ++ e.signature?.toList := by
  rw [typesOf, List.filterMap_append]
  cases h : e.signature? <;> simp [typesOf, h]

lemma occurrences_concat (es : List Entry) (e : Entry) : occurrences (es ++ [e]) = occurrences es ++ [(es, e)] := by
  rw [occurrences, List.zipIdx_append, List.map_append]
  congr 1
  · apply List.map_congr_left
    rintro ⟨x, i⟩ hx
    have hlt := (List.mem_zipIdx hx).2.1
    have ht : (es ++ [e]).take i = es.take i := List.take_append_of_le_length (by omega)
    simp only [ht]
  · simp

lemma bodiesOf_concat (es : List Entry) (e : Entry) :
    bodiesOf (es ++ [e]) = bodiesOf es ++ (e.body?.map fun b => (es, b)).toList := by
  rw [bodiesOf, occurrences_concat, List.filterMap_append]
  cases h : e.body? <;> simp [bodiesOf, h]

lemma map_snd_occurrences (es : List Entry) : (occurrences es).map Prod.snd = es := by
  rw [occurrences, List.map_map]
  exact List.zipIdx_map_fst 0 es

lemma length_bodiesOf (es : List Entry) : (bodiesOf es).length = es.countP fun e => e.body?.isSome := by
  induction es using List.reverseRecOn with
  | nil => rfl
  | append_singleton es e ih =>
    rw [bodiesOf_concat, List.length_append, List.countP_append, ih]
    cases h : e.body? <;> simp [h]

namespace Entry.Declares

variable {o : ReadOptions} {types : List Signature} {e : Entry} {f : Field}

lemma declares (h : e.Declares o types f) : e.declares = true := by
  cases h <;> rfl

lemma body? (h : e.Declares o types f) : e.body? = none := by
  cases h <;> rfl

lemma bare (h : e.Declares o types f) : f.bare = f := by
  cases h with
  | @imported i _ offset hb =>
    rcases i with ⟨m, n, k⟩
    cases hb <;> rfl
  | _ => rfl

lemma signature? (h : e.Declares o types f) : f.type?.map FuncType.sig = e.signature? := by
  cases h with
  | type position hs => exact hs.symm
  | _ => rfl

lemma isFunction (h : e.Declares o types f) : f.defined?.isSome = e.isFunction := by
  cases h <;> rfl

lemma importsFunction (h : e.Declares o types f) : f.importedFunc?.isSome = e.importsFunction := by
  cases h with
  | @imported i _ offset hb =>
    rcases i with ⟨m, n, k⟩
    cases hb <;> rfl
  | _ => rfl

lemma labels? (h : e.Declares o types f) {labels : Option String × BindingTable × BindingTable}
    (hl : f.labels? = some labels) : labels = (none, ∅, ∅) := by
  cases h with
  | @imported i _ offset hb =>
    rcases i with ⟨m, n, k⟩
    cases hb <;> cases hl
    rfl
  | function => exact (Option.some.inj hl).symm
  | _ => cases hl

lemma importedCode? (h : e.Declares o types f) {code : List ValueType × List Expr}
    (hc : f.importedCode? = some code) : code = ([], []) := by
  cases h with
  | @imported i _ offset hb =>
    rcases i with ⟨m, n, k⟩
    cases hb <;> cases hc
    rfl
  | _ => cases hc

end Entry.Declares

/-- The fields are those the entries declare, the bodies are in turn those of the functions defined,
and functions that are imported have none. -/
structure Layout (o : ReadOptions) (es : List Entry) (fields : List Field) : Prop where
  declared : List.Forall₂ (fun x f => x.2.Declares o (typesOf x.1) (Field.bare f))
    ((occurrences es).filter (·.2.declares)) fields
  bodies : List.Forall₂ (fun x code => x.2.read ⟨(typesOf x.1).toArray, o.exceptions⟩ = .ok code)
    (bodiesOf es) (fields.filterMap Field.code?)
  imported : ∀ code ∈ fields.filterMap Field.importedCode?, code = ([], [])

/-- No body stands before its function, and there are as many of either. -/
structure Paired (es : List Entry) : Prop where
  before : ∀ xs b ys, es = xs ++ Entry.body b :: ys → xs.countP (·.body?.isSome) < xs.countP Entry.isFunction
  countP_eq : es.countP (·.body?.isSome) = es.countP Entry.isFunction

namespace Collected

lemma map_fill {c : Collected} {position : Nat} {code : List ValueType × List Expr} {α : Type} {q : Field → α}
    (hq : ∀ f, c.fields.toList[position]? = some f → q ((f.mapFunc? (Func.withCode code)).getD f) = q f) :
    (c.fill position code).fields.toList.map q = c.fields.toList.map q := by
  rw [fill, Array.toList_modify, map_modify_eq_self hq]

lemma filterMap_code?_fill {c : Collected} {position k : Nat} {code : List ValueType × List Expr}
    (hk : (c.fields.toList.findIdxs (·.code?.isSome))[k]? = some position) :
    (c.fill position code).fields.toList.filterMap Field.code? =
      (c.fields.toList.filterMap Field.code?).modify k fun _ => code := by
  rw [fill, Array.toList_modify]
  have hr (f : Field) : ((f.mapFunc? (Func.withCode code)).getD f).code? = f.code?.map fun _ => code :=
    Field.code?_mapFunc? _ fun _ => rfl
  apply filterMap_modify hr (s := 0)
  rw [hk, Nat.zero_add]

/-- What was collected from the entries. The bodies among them are those of the first functions that are
defined, and `declared` tells where these are. -/
structure Laid (o : ReadOptions) (es : List Entry) (c : Collected) : Prop where
  types : c.types.toList = typesOf es
  fields : List.Forall₂ (fun x f => x.2.Declares o (typesOf x.1) f)
    ((occurrences es).filter (·.2.declares)) (c.fields.toList.map Field.bare)
  positions : c.declared.toList = c.fields.toList.findIdxs (·.defined?.isSome)
  functions : c.declared.size = es.countP Entry.isFunction
  bodies : c.bodies = (bodiesOf es).length
  filled : List.Forall₂ (fun x code => x.2.read ⟨(typesOf x.1).toArray, o.exceptions⟩ = .ok code)
    (bodiesOf es) ((c.fields.toList.filterMap Field.code?).take c.bodies)
  imported : ∀ code ∈ c.fields.toList.filterMap Field.importedCode?, code = ([], [])
  unnamed : ∀ labels ∈ c.fields.toList.filterMap Field.labels?, labels = (none, ∅, ∅)

namespace Laid

variable {o : ReadOptions} {es : List Entry} {c c' : Collected} {e : Entry}

lemma empty (o : ReadOptions) : Laid o [] .empty where
  types := rfl
  fields := .nil
  positions := rfl
  functions := rfl
  bodies := rfl
  filled := .nil
  imported := nofun
  unnamed := nofun

lemma bodies_le (h : Laid o es c) : c.bodies ≤ (c.fields.toList.filterMap Field.code?).length := by
  have hl := h.filled.length_eq
  rw [List.length_take, ← h.bodies] at hl
  omega

lemma declare {f : Field} (h : Laid o es c) (hf : e.Declares o c.types.toList f) :
    Laid o (es ++ [e]) (c.declare f) := by
  have hb : bodiesOf (es ++ [e]) = bodiesOf es := by simp [bodiesOf_concat, hf.body?]
  have hfields : (c.declare f).fields.toList = c.fields.toList ++ [f] := by simp [Collected.declare]
  constructor
  case types =>
    rw [typesOf_concat, ← h.types, ← hf.signature?]
    cases ht : f.type? <;> simp [Collected.declare, ht]
  case fields =>
    rw [hfields, List.map_append, occurrences_concat, List.filter_append]
    refine List.rel_append h.fields ?_
    rw [h.types] at hf
    simpa [hf.declares, hf.bare] using hf
  case positions =>
    rw [hfields, findIdxs_concat, ← h.positions]
    cases hd : f.defined? <;> simp [Collected.declare, hd]
  case functions =>
    rw [List.countP_append, List.countP_singleton, ← h.functions, ← hf.isFunction]
    cases hd : f.defined? <;> simp [Collected.declare, hd]
  case bodies =>
    rw [hb]
    exact h.bodies
  case filled =>
    -- a function that is declared later waits behind those that have a body
    have ht : ((c.declare f).fields.toList.filterMap Field.code?).take (c.declare f).bodies =
        (c.fields.toList.filterMap Field.code?).take c.bodies := by
      rw [hfields, List.filterMap_append]
      exact List.take_append_of_le_length h.bodies_le
    rw [hb, ht]
    exact h.filled
  case imported => exact hfields ▸ forall_mem_filterMap_concat h.imported fun _ => hf.importedCode?
  case unnamed => exact hfields ▸ forall_mem_filterMap_concat h.unnamed fun _ => hf.labels?

lemma position (h : Laid o es c) {position : Nat} (hp : c.declared[c.bodies]? = some position) :
    (c.fields.toList.findIdxs (·.code?.isSome))[c.bodies]? = some position ∧
      ∃ f code, c.fields.toList[position]? = some f ∧ f.code? = some code ∧
        (c.fields.toList.filterMap Field.code?)[c.bodies]? = some code := by
  have hi : (c.fields.toList.findIdxs (·.code?.isSome))[c.bodies]? = some position := by
    simpa [Field.code?, ← h.positions] using hp
  have hm := congrArg (·[c.bodies]?)
    (map_findIdxs_of_isSome (l := c.fields.toList) fun f : Field => Eq.refl f.code?.isSome)
  simp only [List.getElem?_map, hi, Option.map_some] at hm
  obtain ⟨code, hg, hfg⟩ := Option.map_eq_some_iff.mp hm.symm
  obtain ⟨f, hf, hc⟩ := Option.bind_eq_some_iff.mp hfg.symm
  exact ⟨hi, f, code, hf, hc, hg⟩

lemma fill {b : WireBody} {position : Nat} {code : List ValueType × List Expr} (h : Laid o es c)
    (hp : c.declared[c.bodies]? = some position) (hb : b.read ⟨c.types, o.exceptions⟩ = .ok code) :
    Laid o (es ++ [.body b]) (c.fill position code) := by
  obtain ⟨hi, f, _, hf, hd, hg⟩ := h.position hp
  constructor
  case types =>
    rw [typesOf_concat]
    exact h.types.trans (List.append_nil _).symm
  case fields =>
    rw [map_fill fun _ _ => Field.bare_mapFunc? fun _ => rfl, occurrences_concat, List.filter_append]
    simpa [Entry.declares] using h.fields
  case positions =>
    have hm : (c.fill position code).fields.toList.map (·.defined?.isSome) = _ :=
      map_fill fun f _ => by rw [Field.defined?_mapFunc?, Option.isSome_map]
    have hs := congrArg (List.findIdxs id) hm
    rw [List.findIdxs_map, List.findIdxs_map] at hs
    exact h.positions.trans hs.symm
  case functions =>
    rw [List.countP_append, List.countP_singleton]
    exact h.functions
  case bodies =>
    rw [bodiesOf_concat, List.length_append, ← h.bodies]
    rfl
  case filled =>
    have ht : ((c.fill position code).fields.toList.filterMap Field.code?).take (c.bodies + 1) =
        (c.fields.toList.filterMap Field.code?).take c.bodies ++ [code] := by
      rw [filterMap_code?_fill hi, take_modify_concat hg]
    rw [bodiesOf_concat]
    refine ht ▸ List.rel_append h.filled (.cons ?_ .nil)
    rw [← h.types]
    exact hb
  case imported =>
    -- the field at the position defines its function, so that no imported one is filled
    have hn : f.importedFunc? = none :=
      Field.importedFunc?_eq_none (by simpa [Field.code?] using congrArg Option.isSome hd)
    have hm : (c.fill position code).fields.toList.map Field.importedCode? = _ :=
      map_fill fun f' hf' => by
        obtain rfl : f = f' := Option.some.inj (hf.symm.trans hf')
        simp only [Field.importedCode?, Field.importedFunc?_mapFunc?, hn, Option.map_none]
    exact filterMap_eq_of_map_eq hm ▸ h.imported
  case unnamed =>
    have hm : (c.fill position code).fields.toList.map Field.labels? = _ :=
      map_fill fun _ _ => by
        rw [Field.labels?, Field.func?_mapFunc?, Option.map_map]
        rfl
    exact filterMap_eq_of_map_eq hm ▸ h.unnamed

lemma keep {names : DebugNames} (h : Laid o es c) (hd : e.declares = false) (hb : e.body? = none) :
    Laid o (es ++ [e]) { c with names } := by
  have hbodies : bodiesOf (es ++ [e]) = bodiesOf es := by simp [bodiesOf_concat, hb]
  have ht : typesOf (es ++ [e]) = typesOf es := by
    rw [typesOf_concat]
    cases e <;> simp_all [Entry.declares, Entry.signature?]
  have hc : (es ++ [e]).countP Entry.isFunction = es.countP Entry.isFunction := by
    rw [List.countP_append, List.countP_singleton]
    cases e <;> simp_all [Entry.declares, Entry.isFunction]
  have ho : (occurrences (es ++ [e])).filter (·.2.declares) = (occurrences es).filter (·.2.declares) := by
    rw [occurrences_concat, List.filter_append]
    simp [hd]
  exact ⟨ht ▸ h.types, ho ▸ h.fields, h.positions, hc ▸ h.functions, hbodies ▸ h.bodies, hbodies ▸ h.filled,
    h.imported, h.unnamed⟩

lemma step (h : Laid o es c) (he : Enters o c e c') : Laid o (es ++ [e]) c' := by
  cases he with
  | declares hf => exact h.declare hf
  | inactive offset => exact h.keep rfl rfl
  | passive offset => exact h.keep rfl rfl
  | body hp hb => exact h.fill hp hb
  | names => exact h.keep rfl rfl
  | noNames => exact h.keep rfl rfl

lemma run {es' : List Entry} (h : Laid o es c) (he : EntersAll o c es' c') : Laid o (es ++ es') c' := by
  induction he generalizing es with
  | nil => rwa [List.append_nil]
  | cons hx _ ih => simpa using ih (h.step hx)

end Laid

lemma EntersAll.laid {o : ReadOptions} {es : List Entry} {c : Collected} (h : EntersAll o .empty es c) :
    Laid o es c := (Laid.empty o).run h

lemma EntersAll.paired {o : ReadOptions} {es : List Entry} {c : Collected} (h : EntersAll o .empty es c)
    (hb : c.bodies = c.declared.size) : Paired es where
  before xs b ys hes := by
    subst hes
    obtain ⟨d, hxs, hys⟩ := entersAll_append_iff.mp h
    obtain ⟨d', hx, -⟩ := entersAll_cons_iff.mp hys
    cases hx with
    | declares hf => cases hf
    | body hp _ =>
      rw [← length_bodiesOf, ← hxs.laid.bodies, ← hxs.laid.functions]
      exact (Array.getElem?_eq_some_iff.mp hp).1
  countP_eq := by rw [← length_bodiesOf, ← h.laid.bodies, ← h.laid.functions, hb]

lemma consistent_module (c : Collected) : c.module.Consistent := by
  have h : ({ Module.empty with name := c.names.module } : Module).Consistent :=
    ⟨Module.consistent_empty.positions, Module.consistent_empty.imported, Module.consistent_empty.startField⟩
  exact h.appendAll _

lemma fields_module (c : Collected) : c.module.fields.toList = c.names.applyFrom 0 c.fields.toList := by
  rw [module, Module.appendAll_fields, DebugNames.toList_applyAll]
  rfl

lemma map_module {α : Type} {q : Field → α} (c : Collected)
    (hq : ∀ i f, q ((f.mapFunc? (c.names.apply i)).getD f) = q f) :
    c.module.fields.toList.map q = c.fields.toList.map q := by
  rw [fields_module]
  generalize 0 = i
  induction c.fields.toList generalizing i with
  | nil => rfl
  | cons f fs ih => simp [DebugNames.applyFrom, DebugNames.applyNext_fst, hq, ih]

end Collected

lemma Collected.Laid.layout {o : ReadOptions} {es : List Entry} {c : Collected} (h : c.Laid o es)
    (hb : c.bodies = c.declared.size) : Layout o es c.module.fields.toList where
  declared := by
    have hd : c.module.fields.toList.map Field.bare = _ :=
      c.map_module fun _ _ => Field.bare_mapFunc? fun _ => by rw [DebugNames.apply_eq]
    rw [← List.forall₂_map_right_iff, hd]
    exact h.fields
  bodies := by
    have hl : (c.fields.toList.filterMap Field.code?).length = c.bodies := by
      rw [hb, ← Array.length_toList, h.positions, List.length_findIdxs, List.length_filterMap_eq_countP]
      simp only [Field.code?, Option.isSome_map]
    have hc : c.module.fields.toList.map Field.code? = _ :=
      c.map_module fun _ _ => (Field.code?_mapFunc? id fun _ => by rw [DebugNames.apply_eq]; rfl).trans Option.map_id'
    have hf := h.filled
    rw [← hl, List.take_length] at hf
    rwa [filterMap_eq_of_map_eq hc]
  imported := by
    have hc : c.module.fields.toList.map Field.importedCode? = _ :=
      c.map_module fun _ _ => Field.importedCode?_mapFunc? fun _ => by rw [DebugNames.apply_eq]; rfl
    exact filterMap_eq_of_map_eq hc ▸ h.imported

lemma layout_of_readPayloads {o : ReadOptions} {ps : Batch Payload} {m : Module} (h : readPayloads o ps = .ok m) :
    m.Consistent ∧ Layout o ps.entries m.fields.toList := by
  obtain ⟨-, c, he, hb, rfl⟩ := readPayloads_eq_ok.mp h
  exact ⟨c.consistent_module, he.laid.layout hb⟩

namespace Layout

variable {o : ReadOptions} {es : List Entry} {fields : List Field} {m : Module}

lemma map_kind_eq (h : Layout o es fields) :
    fields.map (fun f => (f.defined?.isSome, f.importedFunc?.isSome)) =
      ((occurrences es).filter (·.2.declares)).map fun x => (x.2.isFunction, x.2.importsFunction) := by
  rw [← List.forall₂_eq_eq_eq, List.forall₂_map_left_iff, List.forall₂_map_right_iff]
  refine h.declared.flip.imp fun f x hf => ?_
  rw [← hf.isFunction, ← hf.importsFunction, Field.bare, Field.defined?_mapFunc?, Field.importedFunc?_mapFunc?,
    Option.isSome_map, Option.isSome_map]

lemma size_funcs (h : Layout o es m.fields.toList) (hm : m.Consistent) :
    m.size .funcs = es.countP fun e => e.isFunction || e.importsFunction := by
  have hk := congrArg (List.countP fun x => x.1 || x.2) h.map_kind_eq
  have hs : m.size .funcs = m.fields.toList.countP fun f => f.defined?.isSome || f.importedFunc?.isSome := by
    rw [← hm.projected.funcs.length_eq, hm.projected.funcs.items_eq, List.length_filterMap_eq_countP]
    exact congrArg (List.countP · _) (funext fun f => by rw [f.func?_eq_or, Option.isSome_or, Bool.or_comm])
  rw [List.countP_map, List.countP_map, List.countP_filter] at hk
  rw [hs, ← map_snd_occurrences es, List.countP_map]
  exact hk.trans (congrArg (List.countP · _) (funext fun x => x.2.isFunction_or_importsFunction_and_declares))

/-- Where nothing is imported after a function is declared, the imported functions come first. -/
lemma func?_importCount_add (h : Layout o es m.fields.toList) (hm : m.Consistent)
    (hi : es.Pairwise fun x y => x.isFunction → y.importsFunction = false) (k : Nat) :
    (m.func? (m.importCount .func + k)).map Func.code = (m.fields.toList.filterMap Field.code?)[k]? := by
  have hp : m.fields.toList.Pairwise fun f g => f.defined?.isSome → g.importedFunc? = none := by
    rw [← map_snd_occurrences es, List.pairwise_map] at hi
    have hk := List.Pairwise.filter (·.2.declares) hi
    rw [← List.pairwise_map (f := fun x : List Entry × Entry => (x.2.isFunction, x.2.importsFunction))
      (R := fun a b => a.1 → b.2 = false), ← h.map_kind_eq, List.pairwise_map] at hk
    exact hk.imp fun hfg hf => by simpa using hfg hf
  have hf : m.fields.toList.filterMap Field.func? =
      m.fields.toList.filterMap Field.importedFunc? ++ m.fields.toList.filterMap Field.defined? := by
    rw [← filterMap_or (fun _ => Field.importedFunc?_eq_none) hp]
    exact congrArg (List.filterMap · _) (funext Field.func?_eq_or)
  have hc : m.importCount .func = (m.fields.toList.filterMap Field.importedFunc?).length := by
    rw [hm.projected.importCount_eq, List.length_filterMap_eq_countP]
    exact congrArg (List.countP · _) (funext Field.importOf_func)
  have hd : m.fields.toList.filterMap Field.code? = (m.fields.toList.filterMap Field.defined?).map Func.code := by
    rw [List.map_filterMap]
    rfl
  rw [hm.projected.funcs.item?_eq, hm.projected.funcs.items_eq, hf, hc, hd, List.getElem?_map,
    List.getElem?_append_right (by omega), Nat.add_sub_cancel_left]

end Layout

/-- Reading declares fields entry after entry and gives out the bodies in turn. It fails where these do
not fit the functions. -/
theorem readPayloads_layout (o : ReadOptions) (ps : Batch Payload) :
    (∀ m, readPayloads o ps = .ok m → Layout o ps.entries m.fields.toList ∧
      (ps.entries.Pairwise (fun x y => x.isFunction → y.importsFunction = false) →
        ∀ k x, (bodiesOf ps.entries)[k]? = some x → ∃ f, m.func? (m.importCount .func + k) = some f ∧
          x.2.read ⟨(typesOf x.1).toArray, o.exceptions⟩ = .ok f.code)) ∧
    (¬Paired ps.entries → ∃ e, readPayloads o ps = .error e) := by
  constructor
  · intro m h
    obtain ⟨hm, hl⟩ := layout_of_readPayloads h
    refine ⟨hl, fun hi k x hx => ?_⟩
    obtain ⟨hk, rfl⟩ := List.getElem?_eq_some_iff.mp hx
    have hk' := hl.bodies.length_eq ▸ hk
    have hf := (hl.func?_importCount_add hm hi k).trans (List.getElem?_eq_getElem hk')
    obtain ⟨f, hf, hc⟩ := Option.map_eq_some_iff.mp hf
    exact ⟨f, hf, hc ▸ hl.bodies.get hk hk'⟩
  · intro hn
    cases h : readPayloads o ps with
    | error e => exact ⟨e, rfl⟩
    | ok m =>
      obtain ⟨-, c, he, hb, -⟩ := readPayloads_eq_ok.mp h
      exact absurd (he.paired hb) hn

def oneLocal (t : ValueType) : WireBody := ⟨some ⟨[(1, .number t)], true⟩, ⟨[⟨30, .finish⟩], true⟩⟩

def interleaved : Batch Payload where
  items := [.types 10 ⟨[⟨[], []⟩], true⟩, .imports ⟨[⟨20, "env", "f", .func 0⟩], true⟩,
    .functions ⟨[⟨40, 0⟩], true⟩, .body (oneLocal .i64), .memories ⟨[⟨50, ⟨1, none, false⟩⟩], true⟩,
    .functions ⟨[⟨60, 0⟩], true⟩, .body (oneLocal .f32)]
  complete := true

def early : Batch Payload where
  items := [.types 10 ⟨[⟨[], []⟩], true⟩, .body (oneLocal .i64), .functions ⟨[⟨40, 0⟩], true⟩]
  complete := true

theorem readPayloads_interleaved :
    (∃ m f, readPayloads ⟨true, true⟩ interleaved = .ok m ∧ Layout ⟨true, true⟩ interleaved.entries m.fields.toList ∧
      m.func? (m.importCount .func + 1) = some f ∧ f.code = ([.f32], [])) ∧
    ¬Paired early.entries ∧ ∃ e, readPayloads ⟨true, true⟩ early = .error e := by
  obtain ⟨m, h⟩ : ∃ m, readPayloads ⟨true, true⟩ interleaved = .ok m := ⟨_, rfl⟩
  obtain ⟨hl, hf⟩ := (readPayloads_layout ⟨true, true⟩ interleaved).1 m h
  obtain ⟨f, hf, hc⟩ := hf (by decide) 1 (_, oneLocal .f32) rfl
  have hr (s : FoldSetting) : (oneLocal .f32).read s = .ok ([.f32], []) := rfl
  have hp : ¬Paired early.entries := fun hp => absurd (hp.before [.type 10 ⟨[], []⟩] _ _ rfl) (by decide)
  refine ⟨⟨m, f, h, hl, hf, Except.ok.inj (hc.symm.trans (hr _))⟩, hp, ?_⟩
  exact (readPayloads_layout ⟨true, true⟩ early).2 hp

end WasmTree
