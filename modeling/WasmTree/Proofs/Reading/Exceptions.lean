import WasmTree.Proofs.Folding.Exceptions
import WasmTree.Proofs.Reading.Bodies
import WasmTree.Proofs.Reading.Types

/-!
What reading without exceptions lets through. It is free of them wherever it holds instructions, and is
read into the same module when exceptions are on.
-/

namespace WasmTree

section Constants

variable {l : List Expr}

lemma noExceptions_nil : NoExceptions [] := by
  rw [NoExceptions, Expr.toList_treeNodes]
  exact List.forall_mem_nil _

lemma noExceptions_of_plain (h : ∀ e ∈ l, ∃ loc i, e = .plain loc i ∧ i.tag.needsExceptions = false) :
    NoExceptions l := by
  intro n hn
  rw [Expr.toList_treeNodes] at hn
  obtain ⟨e, he, hn⟩ := List.mem_flatMap.mp hn
  obtain ⟨loc, i, rfl, hi⟩ := h e he
  rw [Expr.nodes_eq] at hn
  obtain rfl := List.mem_singleton.mp hn
  exact hi

lemma PlainOperator.constant?_tag {p : PlainOperator} {loc : Location} {i : Instr} (h : p.constant? loc = some i) :
    i.tag.needsExceptions = false := by
  cases p with
  | const l =>
    cases h
    rfl
  | reference r index =>
    cases r with
    | getGlobal =>
      cases h
      rfl
    | _ => cases h
  | _ => cases h

lemma plain_of_readConstant {done : Array Expr} {ops : List (Located Operator)} (h : readConstant done ops = .ok l) :
    ∀ e ∈ l, e ∈ done.toList ∨ ∃ loc i, e = .plain loc i ∧ i.tag.needsExceptions = false := by
  fun_induction readConstant done ops with
  | case1 done => simp at h
  | case2 done op ops ho =>
    cases h
    exact fun e he => .inl he
  | case3 done op ops loc p hp i hi ih =>
    intro e he
    rcases ih h e he with hd | hd
    · rw [Array.toList_push] at hd
      rcases List.mem_append.mp hd with hd | hd
      · exact .inl hd
      · obtain rfl := List.mem_singleton.mp hd
        exact .inr ⟨loc, i, rfl, p.constant?_tag hi⟩
    · exact .inr hd
  | case4 => simp at h
  | case5 => simp at h

lemma noExceptions_of_readConstant {ops : List (Located Operator)} (h : readConstant #[] ops = .ok l) :
    NoExceptions l := by
  apply noExceptions_of_plain
  intro e he
  rcases plain_of_readConstant h e he with hn | hp
  · cases hn
  · exact hp

end Constants

namespace Field

/-- The sequences that are constant: initializers and offsets. -/
def constants (f : Field) : List (List Expr) :=
  f.global?.toList.map Global.init ++ f.elem?.toList.map ElemSegment.offset ++
    f.data?.toList.map DataSegment.offset

def sequences (f : Field) : List (List Expr) := f.func?.toList.map Func.body ++ f.constants

lemma constants_bare (f : Field) : f.bare.constants = f.constants := by
  obtain ⟨-, hg, -, he, hd⟩ := others_mapFunc? (f := f) (r := fun g => .ofDeclaration g.decl)
  rw [constants, constants, bare, hg, he, hd]

end Field

lemma Entry.Declares.noExceptions {o : ReadOptions} {types : List Signature} {e : Entry} {f : Field}
    (h : e.Declares o types f) : ∀ l ∈ f.constants, NoExceptions l := by
  cases h with
  | @imported i _ offset hb =>
    rcases i with ⟨m, n, k⟩
    cases hb with
    | global mutable hv => exact List.forall_mem_singleton.mpr noExceptions_nil
    | _ => exact List.forall_mem_nil _
  | global offset hv hi => exact List.forall_mem_singleton.mpr (noExceptions_of_readConstant hi)
  | element offset table indices hi => exact List.forall_mem_singleton.mpr (noExceptions_of_readConstant hi)
  | data offset memory bytes hi => exact List.forall_mem_singleton.mpr (noExceptions_of_readConstant hi)
  | _ => exact List.forall_mem_nil _

/-- No exception is defined or imported, and no instruction is about one. -/
structure Module.ExceptionFree (m : Module) : Prop where
  except? : ∀ f ∈ m.fields.toList, f.except? = none
  sequences : ∀ f ∈ m.fields.toList, ∀ l ∈ f.sequences, NoExceptions l

lemma Layout.exceptionFree {o : ReadOptions} {es : List Entry} {m : Module} (h : Layout o es m.fields.toList)
    (ho : o.exceptions = false) : m.ExceptionFree where
  except? f hf := by
    obtain ⟨y, -, hd⟩ := h.declares_of_mem hf
    have hb : f.bare.except? = f.except? := Field.others_mapFunc?.2.2.1
    cases hx : f.except? with
    | none => rfl
    | some x =>
      rw [(hd.except_eq (hb.trans hx)).1] at ho
      cases ho
  sequences f hf l hl := by
    rcases List.mem_append.mp hl with hl | hl
    · obtain ⟨g, hg, rfl⟩ := List.mem_map.mp hl
      rcases h.fold_of_func? hf (Option.mem_toList.mp hg) with hb | ⟨b, types, -, hb⟩
      · exact hb ▸ noExceptions_nil
      · exact Folding.noExceptions_of_fold hb ho
    · obtain ⟨y, -, hd⟩ := h.declares_of_mem hf
      have hc : f.bare.constants = f.constants := Field.constants_bare f
      exact hd.noExceptions l (hc ▸ hl)

section Switch

variable {o : ReadOptions}

def ReadOptions.withExceptions (o : ReadOptions) : ReadOptions := { o with exceptions := true }

lemma WireBody.read_withExceptions {b : WireBody} {s : FoldSetting} {code : List ValueType × List Expr}
    (h : b.read s = .ok code) : b.read s.withExceptions = .ok code := by
  obtain ⟨hl, ho⟩ := read_eq_ok.mp h
  obtain ⟨hc, hf⟩ := readOperators_eq_ok.mp ho
  exact read_eq_ok.mpr ⟨hl, readOperators_eq_ok.mpr ⟨hc, Folding.fold_withExceptions hf⟩⟩

namespace Collected

variable {c c' : Collected}

lemma Enters.withExceptions {e : Entry} (h : Enters o c e c') : Enters o.withExceptions c e c' := by
  cases h with
  | declares hf => exact .declares (hf.mono fun _ => rfl)
  | inactive offset => exact .inactive offset
  | passive offset => exact .passive offset
  | body hp hb =>
    have hw := WireBody.read_withExceptions hb
    exact .body hp hw
  | names hn hd => exact .names hn hd
  | noNames b hn => exact .noNames b hn

lemma EntersAll.withExceptions {es : List Entry} (h : EntersAll o c es c') :
    EntersAll o.withExceptions c es c' := by
  induction h with
  | nil => exact .nil
  | cons hx _ ih => exact .cons hx.withExceptions ih

end Collected

lemma readPayloads_withExceptions {ps : Batch Payload} {m : Module} (h : readPayloads o ps = .ok m) :
    readPayloads o.withExceptions ps = .ok m := by
  obtain ⟨⟨hc, hw⟩, c, he, hb, hm⟩ := readPayloads_eq_ok.mp h
  exact readPayloads_eq_ok.mpr ⟨⟨hc, fun p hp => (hw p hp).mono fun _ => rfl⟩, c, he.withExceptions, hb, hm⟩

end Switch

/-- Without exceptions nothing about them is read, and what is read is read the same way with them. -/
theorem readPayloads_exceptionFree {names : Bool} {ps : Batch Payload} {m : Module}
    (h : readPayloads ⟨names, false⟩ ps = .ok m) : m.ExceptionFree ∧ readPayloads ⟨names, true⟩ ps = .ok m := by
  obtain ⟨-, hl⟩ := layout_of_readPayloads h
  exact ⟨hl.exceptionFree rfl, readPayloads_withExceptions h⟩

def ordinary : Batch Payload where
  items := [.types 10 ⟨[⟨[], []⟩], true⟩, .imports ⟨[⟨20, "env", "g", .global (.number .i32) false⟩], true⟩,
    .functions ⟨[⟨30, 0⟩], true⟩,
    .globals ⟨[⟨40, .number .i32, false, [⟨41, .plain (.reference .getGlobal 0)⟩, ⟨43, .finish⟩]⟩], true⟩,
    .body ⟨some ⟨[], true⟩, ⟨[⟨50, .block .loop .empty⟩, ⟨52, .plain (.reference .br 0)⟩, ⟨54, .finish⟩,
      ⟨55, .finish⟩], true⟩⟩]
  complete := true

theorem readPayloads_ordinary :
    ∃ m, readPayloads ⟨true, false⟩ ordinary = .ok m ∧ m.ExceptionFree ∧
      readPayloads ⟨true, true⟩ ordinary = .ok m ∧
      (m.fields.toList.flatMap Field.sequences).map List.length = [0, 1, 1] := by
  have hv : (readPayloads ⟨true, false⟩ ordinary).toOption.map
      (fun m => (m.fields.toList.flatMap Field.sequences).map List.length) = some [0, 1, 1] := by
    decide +kernel
  obtain ⟨m, hm, hl⟩ := Option.map_eq_some_iff.mp hv
  have h := Reading.toOption_eq_some.mp hm
  obtain ⟨hf, ho⟩ := readPayloads_exceptionFree h
  exact ⟨m, h, hf, ho, hl⟩

end WasmTree
