import WasmTree.Proofs.Reading.Functions
import WasmTree.Proofs.Reading.Success
import WasmTree.Reading

/-!
The entries that payloads list, one after the other, and what entering one does to what was collected
before it. Reading succeeds exactly when every payload is whole and every entry can be entered.
-/

namespace WasmTree

inductive Entry where
  | type (start : Nat) (s : WireSignature)
  | imported (i : Located WireImport)
  | function (type : Located UInt32)
  | table (limits : Located Limits)
  | memory (limits : Located Limits)
  | tag (type : Located UInt32)
  | global (g : Located WireGlobal)
  | exported (x : Located WireExport)
  | start (offset : Nat) (func : UInt32)
  | element (e : Located WireElement)
  | data (d : Located WireData)
  | body (b : WireBody)
  | names (subsections : Batch NameSubsection)

namespace Payload

def entries : Payload → List Entry
  | header .. | skipped => []
  | types position b => b.items.map (.type position)
  | imports b => b.items.map .imported
  | functions b => b.items.map .function
  | tables b => b.items.map .table
  | memories b => b.items.map .memory
  | tags b => b.items.map .tag
  | globals b => b.items.map .global
  | exports b => b.items.map .exported
  | start offset func => [.start offset func]
  | elements b => b.items.map .element
  | datas b => b.items.map .data
  | body b => [.body b]
  | names b => [.names b]

def Whole (o : ReadOptions) : Payload → Prop
  | header version component => component = false ∧ version = 1
  | types _ b => b.complete = true
  | imports b => b.complete = true
  | functions b => b.complete = true
  | tables b => b.complete = true
  | memories b => b.complete = true
  | tags b => o.exceptions = true ∧ b.complete = true
  | globals b => b.complete = true
  | exports b => b.complete = true
  | elements b => b.complete = true
  | datas b => b.complete = true
  | start .. | body _ | names _ | skipped => True

lemma Whole.mono {o o' : ReadOptions} {p : Payload} (ho : o.exceptions = true → o'.exceptions = true)
    (h : p.Whole o) : p.Whole o' := by
  cases p with
  | tags b => exact ⟨ho h.1, h.2⟩
  | _ => exact h

end Payload

lemma Batch.foldRead_eq_ok {α σ : Type} {b : Batch α} {during : Activity} {f : σ → α → Reading σ} {s s' : σ} :
    b.foldRead during f s = .ok s' ↔ b.complete = true ∧ b.items.foldlM f s = .ok s' := by
  rw [foldRead, Reading.bind_eq_ok]
  cases b.complete <;> simp

namespace WireSignature

def signature? (s : WireSignature) : Option Signature :=
  return ⟨← s.params.mapM WireType.number?, ← s.results.mapM WireType.number?⟩

lemma readType_eq_ok {t : WireType} {v : ValueType} : t.read = .ok v ↔ t.number? = some v := by
  cases h : t.number? <;> simp [WireType.read, h]

lemma mapM_read_eq_ok {ts : List WireType} {vs : List ValueType} :
    ts.mapM WireType.read = .ok vs ↔ ts.mapM WireType.number? = some vs := by
  induction ts generalizing vs with
  | nil => rw [List.mapM_nil, List.mapM_nil, Reading.pure_eq_ok, Option.pure_def, Option.some.injEq]
  | cons t ts ih => simp [List.mapM_cons, Option.bind_eq_some_iff, readType_eq_ok, ih]

lemma read_eq_ok {s : WireSignature} {sig : Signature} : s.read = .ok sig ↔ s.signature? = some sig := by
  simp [read, signature?, Option.bind_eq_some_iff, mapM_read_eq_ok]

end WireSignature

inductive WireImportKind.Brings (o : ReadOptions) (types : List Signature) : WireImportKind → Entity → Prop
  | func {index sig} : types[index.toNat]? = some sig →
    Brings o types (.func index) (.func (.ofDeclaration (.typed (.ofIndex index) sig)))
  | table (limits : Limits) : Brings o types (.table limits) (.table ⟨none, limits⟩)
  | memory (limits : Limits) : Brings o types (.memory limits) (.memory ⟨none, limits⟩)
  | global {type v} (mutable : Bool) : type.number? = some v →
    Brings o types (.global type mutable) (.global ⟨none, v, mutable, []⟩)
  | tag {index sig} : o.exceptions = true → types[index.toNat]? = some sig →
    Brings o types (.tag index) (.except ⟨none, sig.params⟩)

lemma WireImportKind.Brings.mono {o o' : ReadOptions} {types : List Signature} {k : WireImportKind} {e : Entity}
    (ho : o.exceptions = true → o'.exceptions = true) (h : k.Brings o types e) : k.Brings o' types e := by
  cases h with
  | func hs => exact .func hs
  | table limits => exact .table limits
  | memory limits => exact .memory limits
  | global mutable hv => exact .global mutable hv
  | tag hx hs => exact .tag (ho hx) hs

namespace Entry

/-- The field that an entry declares, when `types` were declared before. -/
inductive Declares (o : ReadOptions) (types : List Signature) : Entry → Field → Prop
  | type {s sig} (position : Nat) : s.signature? = some sig →
    Declares o types (.type position s) ⟨.binary position, .type ⟨none, sig⟩⟩
  | imported {i e} (offset : Nat) : i.kind.Brings o types e →
    Declares o types (.imported ⟨offset, i⟩) ⟨.binary offset, .imported ⟨i.moduleName, i.fieldName, e⟩⟩
  | function {index sig} (offset : Nat) : types[index.toNat]? = some sig →
    Declares o types (.function ⟨offset, index⟩)
      ⟨.binary offset, .entity (.func (.ofDeclaration (.typed (.ofIndex index) sig)))⟩
  | table (offset : Nat) (limits : Limits) :
    Declares o types (.table ⟨offset, limits⟩) ⟨.binary offset, .entity (.table ⟨none, limits⟩)⟩
  | memory (offset : Nat) (limits : Limits) :
    Declares o types (.memory ⟨offset, limits⟩) ⟨.binary offset, .entity (.memory ⟨none, limits⟩)⟩
  | tag {index sig} (offset : Nat) : o.exceptions = true → types[index.toNat]? = some sig →
    Declares o types (.tag ⟨offset, index⟩) ⟨.binary offset, .entity (.except ⟨none, sig.params⟩)⟩
  | global {g v init} (offset : Nat) : g.type.number? = some v → readConstant #[] g.init = .ok init →
    Declares o types (.global ⟨offset, g⟩) ⟨.binary offset, .entity (.global ⟨none, v, g.mutable, init⟩)⟩
  | exported (offset : Nat) (x : WireExport) :
    Declares o types (.exported ⟨offset, x⟩) ⟨.binary offset, .exported ⟨x.name, x.kind, .ofIndex x.index⟩⟩
  | start (offset : Nat) (func : UInt32) :
    Declares o types (.start offset func) ⟨.binary offset, .start (.ofIndex func)⟩
  | element {place init} (offset : Nat) (table : Option UInt32) (indices : List UInt32) :
    readConstant #[] place = .ok init →
    Declares o types (.element ⟨offset, .active table place (.funcs indices)⟩)
      ⟨.binary offset, .elem ⟨.ofIndex (table.getD 0), init, indices.map .ofIndex⟩⟩
  | data {place init} (offset : Nat) (memory : UInt32) (bytes : List UInt8) :
    readConstant #[] place = .ok init →
    Declares o types (.data ⟨offset, .active memory place bytes⟩)
      ⟨.binary offset, .data ⟨.ofIndex memory, init, bytes⟩⟩

lemma Declares.mono {o o' : ReadOptions} {types : List Signature} {e : Entry} {f : Field}
    (ho : o.exceptions = true → o'.exceptions = true) (h : e.Declares o types f) : e.Declares o' types f := by
  cases h with
  | type position hs => exact .type position hs
  | imported offset hb => exact .imported offset (hb.mono ho)
  | function offset hs => exact .function offset hs
  | table offset limits => exact .table offset limits
  | memory offset limits => exact .memory offset limits
  | tag offset hx hs => exact .tag offset (ho hx) hs
  | global offset hv hi => exact .global offset hv hi
  | exported offset x => exact .exported offset x
  | start offset func => exact .start offset func
  | element offset table indices hi => exact .element offset table indices hi
  | data offset memory bytes hi => exact .data offset memory bytes hi

/-- Segments that nobody applies, bodies and names declare no field. -/
def declares : Entry → Bool
  | element ⟨_, .inactive⟩ | data ⟨_, .passive⟩ | body _ | names _ => false
  | _ => true

end Entry

namespace Collected

def declare (c : Collected) (f : Field) : Collected where
  types := f.type?.elim c.types fun t => c.types.push t.sig
  fields := c.fields.push f
  declared := if f.defined?.isSome then c.declared.push c.fields.size else c.declared
  bodies := c.bodies
  names := c.names

def fill (c : Collected) (position : Nat) (code : List ValueType × List Expr) : Collected :=
  { c with
    fields := c.fields.modify position fun f => (f.mapFunc? (Func.withCode code)).getD f
    bodies := c.bodies + 1 }

inductive Enters (o : ReadOptions) (c : Collected) : Entry → Collected → Prop
  | declares {e f} : e.Declares o c.types.toList f → Enters o c e (c.declare f)
  | inactive (offset : Nat) : Enters o c (.element ⟨offset, .inactive⟩) c
  | passive (offset : Nat) : Enters o c (.data ⟨offset, .passive⟩) c
  | body {b position code} : c.declared[c.bodies]? = some position →
    b.read ⟨c.types, o.exceptions⟩ = .ok code → Enters o c (.body b) (c.fill position code)
  | names {b d} : o.debugNames = true →
    b.foldRead .readingSubsection DebugNames.addSubsection c.names = .ok d →
    Enters o c (.names b) { c with names := d }
  | noNames (b : Batch NameSubsection) : o.debugNames = false → Enters o c (.names b) c

inductive EntersAll (o : ReadOptions) : Collected → List Entry → Collected → Prop
  | nil {c} : EntersAll o c [] c
  | cons {c d e x xs} : Enters o c x d → EntersAll o d xs e → EntersAll o c (x :: xs) e

variable {o : ReadOptions} {c c' : Collected}

lemma entersAll_nil_iff : EntersAll o c [] c' ↔ c' = c := by
  constructor
  · rintro ⟨⟩
    rfl
  · rintro rfl
    exact .nil

lemma entersAll_cons_iff {x : Entry} {xs : List Entry} :
    EntersAll o c (x :: xs) c' ↔ ∃ d, Enters o c x d ∧ EntersAll o d xs c' := by
  constructor
  · intro h
    cases h with
    | cons hx hxs => exact ⟨_, hx, hxs⟩
  · rintro ⟨d, hx, hxs⟩
    exact .cons hx hxs

lemma entersAll_append_iff {xs ys : List Entry} :
    EntersAll o c (xs ++ ys) c' ↔ ∃ d, EntersAll o c xs d ∧ EntersAll o d ys c' := by
  induction xs generalizing c with
  | nil => simp [entersAll_nil_iff]
  | cons x xs ih =>
    simp only [List.cons_append, entersAll_cons_iff, ih]
    constructor
    · rintro ⟨d, hx, e, hxs, hys⟩
      exact ⟨e, ⟨d, hx, hxs⟩, hys⟩
    · rintro ⟨e, ⟨d, hx, hxs⟩, hys⟩
      exact ⟨d, hx, e, hxs, hys⟩

lemma entersAll_single_iff {x : Entry} : EntersAll o c [x] c' ↔ Enters o c x c' := by
  simp [entersAll_cons_iff, entersAll_nil_iff]

lemma signature_eq_ok {index : UInt32} {sig : Signature} :
    c.signature index = .ok sig ↔ c.types.toList[index.toNat]? = some sig := by
  cases h : c.types[index.toNat]? <;> simp [signature, h]

lemma importedEntity_eq_ok {k : WireImportKind} {e : Entity} :
    c.importedEntity o k = .ok e ↔ k.Brings o c.types.toList e := by
  constructor
  · intro h
    cases k with
    | func index =>
      simp only [importedEntity, declaration, Reading.bind_eq_ok, Reading.pure_eq_ok, signature_eq_ok] at h
      obtain ⟨_, ⟨sig, hs, rfl⟩, rfl⟩ := h
      exact .func hs
    | table limits =>
      cases h
      exact .table limits
    | memory limits =>
      cases h
      exact .memory limits
    | global type mutable =>
      simp only [importedEntity, Reading.bind_eq_ok, Reading.pure_eq_ok, WireSignature.readType_eq_ok] at h
      obtain ⟨v, hv, rfl⟩ := h
      exact .global mutable hv
    | tag index =>
      by_cases ho : o.exceptions = true
      · simp only [importedEntity, ho, if_true, Reading.bind_eq_ok, Reading.pure_eq_ok, signature_eq_ok] at h
        obtain ⟨sig, hs, rfl⟩ := h
        exact .tag ho hs
      · simp [importedEntity, ho] at h
  · intro h
    cases h with
    | func hs =>
      simp only [importedEntity, declaration, Reading.bind_eq_ok, Reading.pure_eq_ok, signature_eq_ok]
      exact ⟨_, ⟨_, hs, rfl⟩, rfl⟩
    | table limits => rfl
    | memory limits => rfl
    | global mutable hv =>
      simp only [importedEntity, Reading.bind_eq_ok, Reading.pure_eq_ok, WireSignature.readType_eq_ok]
      exact ⟨_, hv, rfl⟩
    | tag ho hs =>
      simp only [importedEntity, ho, if_true, Reading.bind_eq_ok, Reading.pure_eq_ok, signature_eq_ok]
      exact ⟨_, hs, rfl⟩

lemma enters_iff_declares {e : Entry} (hd : e.declares = true) :
    Enters o c e c' ↔ ∃ f, e.Declares o c.types.toList f ∧ c' = c.declare f := by
  constructor
  · intro h
    cases h with
    | declares hf => exact ⟨_, hf, rfl⟩
    | _ => simp [Entry.declares] at hd
  · rintro ⟨f, hf, rfl⟩
    exact .declares hf

lemma addType_eq_ok {position : Nat} {s : WireSignature} :
    addType position c s = .ok c' ↔ Enters o c (.type position s) c' := by
  rw [enters_iff_declares rfl]
  simp only [addType, Reading.bind_eq_ok, Reading.within_eq_ok, Reading.pure_eq_ok, WireSignature.read_eq_ok]
  constructor
  · rintro ⟨sig, hs, rfl⟩
    exact ⟨_, .type position hs, rfl⟩
  · rintro ⟨_, ⟨⟩, rfl⟩
    exact ⟨_, ‹_›, rfl⟩

lemma addImport_eq_ok {i : Located WireImport} : c.addImport o i = .ok c' ↔ Enters o c (.imported i) c' := by
  rw [enters_iff_declares rfl]
  simp only [addImport, Reading.bind_eq_ok, Reading.within_eq_ok, Reading.pure_eq_ok, importedEntity_eq_ok]
  constructor
  · rintro ⟨e, he, rfl⟩
    exact ⟨_, .imported i.offset he, rfl⟩
  · rintro ⟨_, ⟨⟩, rfl⟩
    exact ⟨_, ‹_›, rfl⟩

lemma addFunction_eq_ok {type : Located UInt32} :
    c.addFunction type = .ok c' ↔ Enters o c (.function type) c' := by
  rw [enters_iff_declares rfl]
  simp only [addFunction, declaration, Reading.bind_eq_ok, Reading.pure_eq_ok, signature_eq_ok]
  constructor
  · rintro ⟨_, ⟨sig, hs, rfl⟩, rfl⟩
    exact ⟨_, .function type.offset hs, rfl⟩
  · rintro ⟨_, ⟨⟩, rfl⟩
    exact ⟨_, ⟨_, ‹_›, rfl⟩, rfl⟩

lemma addTable_eq_ok {limits : Located Limits} :
    c.addTable limits = .ok c' ↔ Enters o c (.table limits) c' := by
  rw [enters_iff_declares rfl]
  constructor
  · rintro ⟨⟩
    exact ⟨_, .table limits.offset limits.value, rfl⟩
  · rintro ⟨_, ⟨⟩, rfl⟩
    rfl

lemma addMemory_eq_ok {limits : Located Limits} :
    c.addMemory limits = .ok c' ↔ Enters o c (.memory limits) c' := by
  rw [enters_iff_declares rfl]
  constructor
  · rintro ⟨⟩
    exact ⟨_, .memory limits.offset limits.value, rfl⟩
  · rintro ⟨_, ⟨⟩, rfl⟩
    rfl

lemma addTag_eq_ok (ho : o.exceptions = true) {type : Located UInt32} :
    c.addTag type = .ok c' ↔ Enters o c (.tag type) c' := by
  rw [enters_iff_declares rfl]
  simp only [addTag, Reading.bind_eq_ok, Reading.pure_eq_ok, signature_eq_ok]
  constructor
  · rintro ⟨sig, hs, rfl⟩
    exact ⟨_, .tag type.offset ho hs, rfl⟩
  · rintro ⟨_, ⟨⟩, rfl⟩
    exact ⟨_, ‹_›, rfl⟩

lemma addGlobal_eq_ok {g : Located WireGlobal} : c.addGlobal g = .ok c' ↔ Enters o c (.global g) c' := by
  rw [enters_iff_declares rfl]
  simp only [addGlobal, Reading.bind_eq_ok, Reading.within_eq_ok, Reading.pure_eq_ok, WireSignature.readType_eq_ok]
  constructor
  · rintro ⟨v, hv, init, hi, rfl⟩
    exact ⟨_, .global g.offset hv hi, rfl⟩
  · rintro ⟨_, ⟨⟩, rfl⟩
    exact ⟨_, ‹_›, _, ‹_›, rfl⟩

lemma addExport_eq_ok {x : Located WireExport} : c.addExport x = .ok c' ↔ Enters o c (.exported x) c' := by
  rw [enters_iff_declares rfl]
  constructor
  · rintro ⟨⟩
    exact ⟨_, .exported x.offset x.value, rfl⟩
  · rintro ⟨_, ⟨⟩, rfl⟩
    rfl

lemma start_eq_ok {offset : Nat} {func : UInt32} :
    (.ok (c.push offset (.start (.ofIndex func))) : Reading Collected) = .ok c' ↔
      Enters o c (.start offset func) c' := by
  rw [enters_iff_declares rfl]
  constructor
  · rintro ⟨⟩
    exact ⟨_, .start offset func, rfl⟩
  · rintro ⟨_, ⟨⟩, rfl⟩
    rfl

lemma addElement_eq_ok {e : Located WireElement} :
    c.addElement e = .ok c' ↔ Enters o c (.element e) c' := by
  rcases e with ⟨offset, ⟨table, place, ⟨indices⟩ | _⟩ | _⟩
  · rw [enters_iff_declares rfl]
    simp only [addElement, Reading.bind_eq_ok, Reading.within_eq_ok, Reading.pure_eq_ok]
    constructor
    · rintro ⟨init, hi, rfl⟩
      exact ⟨_, .element offset table indices hi, rfl⟩
    · rintro ⟨_, ⟨⟩, rfl⟩
      exact ⟨_, ‹_›, rfl⟩
  · rw [enters_iff_declares rfl]
    simp only [addElement, Reading.bind_eq_ok, Reading.fail_ne_ok, and_false, exists_false, false_iff]
    rintro ⟨_, ⟨⟩, -⟩
  · constructor
    · rintro ⟨⟩
      exact .inactive offset
    · intro h
      cases h with
      | declares hf => cases hf
      | inactive => rfl

lemma addData_eq_ok {d : Located WireData} : c.addData d = .ok c' ↔ Enters o c (.data d) c' := by
  rcases d with ⟨offset, ⟨memory, place, bytes⟩ | _⟩
  · rw [enters_iff_declares rfl]
    simp only [addData, Reading.bind_eq_ok, Reading.within_eq_ok, Reading.pure_eq_ok]
    constructor
    · rintro ⟨init, hi, rfl⟩
      exact ⟨_, .data offset memory bytes hi, rfl⟩
    · rintro ⟨_, ⟨⟩, rfl⟩
      exact ⟨_, ‹_›, rfl⟩
  · constructor
    · rintro ⟨⟩
      exact .passive offset
    · intro h
      cases h with
      | declares hf => cases hf
      | passive => rfl

lemma addBody_eq_ok {b : WireBody} : c.addBody o b = .ok c' ↔ Enters o c (.body b) c' := by
  cases hp : c.declared[c.bodies]? with
  | none =>
    constructor
    · intro h
      simp [addBody, hp] at h
    · intro h
      cases h with
      | declares hf => cases hf
      | body hp' => simp [hp] at hp'
  | some position =>
    simp only [addBody, hp, Reading.bind_eq_ok, Reading.within_eq_ok, Reading.pure_eq_ok]
    constructor
    · rintro ⟨code, hb, rfl⟩
      exact .body hp hb
    · intro h
      cases h with
      | declares hf => cases hf
      | body hp' hb =>
        obtain rfl := Option.some.inj (hp.symm.trans hp')
        exact ⟨_, hb, rfl⟩

lemma names_eq_ok {b : Batch NameSubsection} :
    (if o.debugNames then c.addNames b else .ok c) = .ok c' ↔ Enters o c (.names b) c' := by
  by_cases hn : o.debugNames = true
  · simp only [hn, if_true, addNames, Reading.bind_eq_ok, Reading.within_eq_ok, Reading.pure_eq_ok]
    constructor
    · rintro ⟨d, hd, rfl⟩
      exact .names hn hd
    · intro h
      cases h with
      | declares hf => cases hf
      | names _ hd => exact ⟨_, hd, rfl⟩
      | noNames _ hn' => simp [hn] at hn'
  · rw [if_neg hn]
    constructor
    · rintro ⟨⟩
      exact .noNames b (by simpa using hn)
    · intro h
      cases h with
      | declares hf => cases hf
      | names hn' => exact absurd hn' hn
      | noNames => rfl

lemma foldRead_eq_ok {α : Type} {during : Activity} {f : Collected → α → Reading Collected} {b : Batch α}
    (entry : α → Entry) (hf : ∀ c a c', f c a = .ok c' ↔ Enters o c (entry a) c') :
    b.foldRead during f c = .ok c' ↔ b.complete = true ∧ EntersAll o c (b.items.map entry) c' := by
  rw [Batch.foldRead_eq_ok]
  refine and_congr_right fun _ => ?_
  induction b.items generalizing c with
  | nil => rw [List.foldlM_nil, Reading.pure_eq_ok, List.map_nil, entersAll_nil_iff, eq_comm]
  | cons a as ih => simp only [List.foldlM_cons, Reading.bind_eq_ok, hf, ih, List.map_cons, entersAll_cons_iff]

theorem add_eq_ok {p : Payload} : c.add o p = .ok c' ↔ p.Whole o ∧ EntersAll o c p.entries c' := by
  cases p with
  | header version component =>
    rw [Payload.entries, entersAll_nil_iff, Payload.Whole, add]
    by_cases hc : component = true
    · simp [hc]
    · by_cases hv : version = 1
      · simp [hc, hv, eq_comm]
      · simp [hc, hv]
  | types position b => exact foldRead_eq_ok (.type position) fun _ _ _ => addType_eq_ok
  | imports b => exact foldRead_eq_ok .imported fun _ _ _ => addImport_eq_ok
  | functions b => exact foldRead_eq_ok .function fun _ _ _ => addFunction_eq_ok
  | tables b => exact foldRead_eq_ok .table fun _ _ _ => addTable_eq_ok
  | memories b => exact foldRead_eq_ok .memory fun _ _ _ => addMemory_eq_ok
  | tags b =>
    by_cases ho : o.exceptions = true
    · simp only [add, Payload.Whole, ho, if_true, true_and]
      exact foldRead_eq_ok .tag fun _ _ _ => addTag_eq_ok ho
    · simp [add, Payload.Whole, ho]
  | globals b => exact foldRead_eq_ok .global fun _ _ _ => addGlobal_eq_ok
  | exports b => exact foldRead_eq_ok .exported fun _ _ _ => addExport_eq_ok
  | start offset func =>
    simp only [Payload.Whole, Payload.entries, true_and, entersAll_single_iff]
    exact start_eq_ok
  | elements b => exact foldRead_eq_ok .element fun _ _ _ => addElement_eq_ok
  | datas b => exact foldRead_eq_ok .data fun _ _ _ => addData_eq_ok
  | body b =>
    simp only [Payload.Whole, Payload.entries, true_and, entersAll_single_iff]
    exact addBody_eq_ok
  | names b =>
    simp only [Payload.Whole, Payload.entries, true_and, entersAll_single_iff]
    exact names_eq_ok
  | skipped => simp [add, Payload.Whole, Payload.entries, entersAll_nil_iff, eq_comm]

lemma foldlM_add_eq_ok {ps : List Payload} :
    ps.foldlM (add o) c = .ok c' ↔ (∀ p ∈ ps, p.Whole o) ∧ EntersAll o c (ps.flatMap Payload.entries) c' := by
  induction ps generalizing c with
  | nil =>
    rw [List.foldlM_nil, Reading.pure_eq_ok]
    simp [entersAll_nil_iff, eq_comm]
  | cons p ps ih =>
    simp only [List.foldlM_cons, Reading.bind_eq_ok, add_eq_ok, ih, List.forall_mem_cons, List.flatMap_cons,
      entersAll_append_iff]
    constructor
    · rintro ⟨d, ⟨hw, hp⟩, hws, hps⟩
      exact ⟨⟨hw, hws⟩, d, hp, hps⟩
    · rintro ⟨⟨hw, hws⟩, d, hp, hps⟩
      exact ⟨d, ⟨hw, hp⟩, hws, hps⟩

end Collected

namespace Batch

def entries (ps : Batch Payload) : List Entry := ps.items.flatMap Payload.entries

def Whole (o : ReadOptions) (ps : Batch Payload) : Prop :=
  ps.complete = true ∧ ∀ p ∈ ps.items, p.Whole o

end Batch

theorem readPayloads_eq_ok {o : ReadOptions} {ps : Batch Payload} {m : Module} :
    readPayloads o ps = .ok m ↔ ps.Whole o ∧
      ∃ c, Collected.EntersAll o .empty ps.entries c ∧ c.bodies = c.declared.size ∧ c.module = m := by
  simp only [readPayloads, Reading.bind_eq_ok, Batch.foldRead_eq_ok, Collected.foldlM_add_eq_ok]
  constructor
  · rintro ⟨c, ⟨hc, hw, he⟩, hm⟩
    by_cases hb : c.bodies = c.declared.size
    · rw [if_pos hb, Reading.pure_eq_ok] at hm
      exact ⟨⟨hc, hw⟩, c, he, hb, hm⟩
    · simp [hb] at hm
  · rintro ⟨⟨hc, hw⟩, c, he, hb, rfl⟩
    exact ⟨c, ⟨hc, hw, he⟩, by rw [if_pos hb]; rfl⟩

end WasmTree
