import WasmTree.Proofs.Folding.Transitions
import WasmTree.Proofs.Reading.Layout

/-! The code of a function is what one of the bodies folds into, or empty. -/

namespace WasmTree

open Folding

namespace WireBody

variable {b : WireBody} {s : FoldSetting}

def placed (b : WireBody) : List (Location × Operator) :=
  b.operators.items.map fun op => (.binary op.offset, op.value)

lemma foldlM_stepAt_eq_ok {ops : List (Located Operator)} {f g : Folding} :
    ops.foldlM (stepAt s) f = .ok g ↔ run s (ops.map fun op => (.binary op.offset, op.value)) f = .ok g := by
  induction ops generalizing f with
  | nil => rfl
  | cons op ops ih =>
    rw [run, List.map_cons, List.foldlM_cons, List.foldlM_cons, Reading.bind_eq_ok, Reading.bind_eq_ok]
    simp only [stepAt, Reading.within_eq_ok]
    exact exists_congr fun f' => and_congr_right fun _ => ih

lemma readOperators_eq_ok {l : List Expr} :
    b.readOperators s = .ok l ↔ b.operators.complete = true ∧ fold s b.placed = .ok l := by
  simp only [readOperators, fold, Reading.bind_eq_ok, Batch.foldRead_eq_ok, foldlM_stepAt_eq_ok]
  constructor
  · rintro ⟨f, ⟨hc, hr⟩, hf⟩
    exact ⟨hc, f, hr, hf⟩
  · rintro ⟨hc, f, hr, hf⟩
    exact ⟨f, ⟨hc, hr⟩, hf⟩

lemma read_eq_ok {code : List ValueType × List Expr} :
    b.read s = .ok code ↔ b.readLocals = .ok code.1 ∧ b.readOperators s = .ok code.2 := by
  simp only [read, Reading.bind_eq_ok, Reading.pure_eq_ok]
  constructor
  · rintro ⟨locals, hl, body, hb, rfl⟩
    exact ⟨hl, hb⟩
  · rintro ⟨hl, hb⟩
    exact ⟨_, hl, _, hb, rfl⟩

lemma fold_of_read {code : List ValueType × List Expr} (h : b.read s = .ok code) : fold s b.placed = .ok code.2 :=
  (readOperators_eq_ok.mp (read_eq_ok.mp h).2).2

end WireBody

lemma body_mem_of_bodiesOf {es : List Entry} {x : List Entry × WireBody} (h : x ∈ bodiesOf es) :
    .body x.2 ∈ es := by
  obtain ⟨y, hy, hx⟩ := List.mem_filterMap.mp h
  obtain ⟨b, hb, rfl⟩ := Option.map_eq_some_iff.mp hx
  have he : y.2 = .body b := by
    cases hy : y.2 <;> simp_all [Entry.body?]
  have hm : y.2 ∈ (occurrences es).map Prod.snd := List.mem_map_of_mem hy
  rwa [map_snd_occurrences, he] at hm

lemma Batch.body_mem_items {ps : Batch Payload} {b : WireBody} (h : .body b ∈ ps.entries) : .body b ∈ ps.items := by
  obtain ⟨p, hp, hb⟩ := List.mem_flatMap.mp h
  cases p <;> simp_all [Payload.entries]

namespace Layout

variable {o : ReadOptions} {es : List Entry} {fields : List Field}

lemma read_of_func? (h : Layout o es fields) {x : Field} (hx : x ∈ fields) {f : Func} (hf : x.func? = some f) :
    f.code = ([], []) ∨
      ∃ y ∈ bodiesOf es, y.2.read ⟨(typesOf y.1).toArray, o.exceptions⟩ = .ok f.code := by
  rw [Field.func?_eq_or, Option.or_eq_some_iff] at hf
  rcases hf with hi | ⟨-, hd⟩
  · refine Or.inl (h.imported f.code (List.mem_filterMap.mpr ⟨x, hx, ?_⟩))
    rw [Field.importedCode?, hi, Option.map_some]
  · have hc : f.code ∈ fields.filterMap Field.code? :=
      List.mem_filterMap.mpr ⟨x, hx, by rw [Field.code?, hd, Option.map_some]⟩
    obtain ⟨i, hi, he⟩ := List.getElem_of_mem hc
    have hl : i < (bodiesOf es).length := h.bodies.length_eq ▸ hi
    have hr := h.bodies.get hl hi
    rw [List.get_eq_getElem, List.get_eq_getElem, he] at hr
    exact Or.inr ⟨(bodiesOf es)[i], List.getElem_mem hl, hr⟩

/-- What a function does, at any rate, is the fold of a body that the payloads hand over. -/
lemma fold_of_func? (h : Layout o es fields) {x : Field} (hx : x ∈ fields) {f : Func} (hf : x.func? = some f) :
    f.body = [] ∨ ∃ b types, .body b ∈ es ∧ fold ⟨types, o.exceptions⟩ b.placed = .ok f.body := by
  rcases h.read_of_func? hx hf with hc | ⟨y, hy, hr⟩
  · exact Or.inl (congrArg Prod.snd hc)
  · exact Or.inr ⟨y.2, _, body_mem_of_bodiesOf hy, WireBody.fold_of_read hr⟩

end Layout

lemma Module.Consistent.exists_of_func? {m : Module} (h : m.Consistent) {i : Nat} {f : Func}
    (hf : m.func? i = some f) : ∃ x ∈ m.fields.toList, x.func? = some f := by
  rw [h.projected.funcs.item?_eq, h.projected.funcs.items_eq] at hf
  exact List.mem_filterMap.mp (List.mem_of_getElem? hf)

lemma exists_func?_of_map {α : Type} {r : Reading Module} {i : Nat} {g : Func → α} {a : α}
    (h : (r.toOption.bind (·.func? i)).map g = some a) : ∃ m f, r = .ok m ∧ m.func? i = some f ∧ g f = a := by
  obtain ⟨f, hf, hg⟩ := Option.map_eq_some_iff.mp h
  obtain ⟨m, hm, hf⟩ := Option.bind_eq_some_iff.mp hf
  exact ⟨m, f, Reading.toOption_eq_some.mp hm, hf, hg⟩

end WasmTree
