import WasmTree.Load
import WasmTree.Proofs.Reading.Types
import WasmTree.Proofs.Summary.Lines

/-!
The lines of the summary of a module that was read. Its names are those the binary gives to the module, to
functions, imports and exports, and they are written as they are, line breaks included.
-/

namespace WasmTree

/-- The names of functions, imports and exports. -/
inductive Field.Gives (f : Field) (n : String) : Prop
  | func {g} : f.func? = some g → g.name = some n → Gives f n
  | moduleName {i} : f.import? = some i → i.moduleName = n → Gives f n
  | fieldName {i} : f.import? = some i → i.fieldName = n → Gives f n
  | exported {x} : f.export? = some x → x.name = n → Gives f n

inductive Module.Gives (m : Module) (n : String) : Prop
  | module : m.name = some n → Gives m n
  | field {f} : f ∈ m.fields.toList → f.Gives n → Gives m n

lemma Field.Gives.mem_names {f : Field} {n : String} (h : f.Gives n) : n ∈ f.names := by
  cases h with
  | func hg hn =>
    rcases f.func?_cases with ⟨loc, g, rfl⟩ | ⟨loc, a, b, g, rfl⟩ | ⟨hf, -⟩
    · cases hg
      exact Option.mem_toList.mpr hn
    · cases hg
      exact List.mem_cons_of_mem _ (List.mem_cons_of_mem _ (Option.mem_toList.mpr hn))
    · cases hf.symm.trans hg
  | moduleName hi hn =>
    rcases f with ⟨loc, content⟩
    cases content <;> cases hi
    exact hn ▸ List.mem_cons_self
  | fieldName hi hn =>
    rcases f with ⟨loc, content⟩
    cases content <;> cases hi
    exact hn ▸ List.mem_cons_of_mem _ List.mem_cons_self
  | exported hx hn =>
    rcases f with ⟨loc, content⟩
    cases content <;> cases hx
    exact hn ▸ List.mem_cons_self

lemma Module.Gives.mem_names {m : Module} {n : String} (h : m.Gives n) : n ∈ m.names := by
  rw [Module.names, List.mem_append, List.mem_append]
  cases h with
  | module hn => exact .inl (.inl (Option.mem_toList.mpr hn))
  | field hf hn => exact .inl (.inr (List.mem_flatMap.mpr ⟨_, hf, hn.mem_names⟩))

lemma Entry.Declares.gives {o : ReadOptions} {types : List Signature} {e : Entry} {f : Field} {n : String}
    (h : e.Declares o types f) (hn : n ∈ f.names) : f.Gives n := by
  cases h with
  | @imported i _ offset hk =>
    rcases List.mem_cons.mp hn with rfl | hn
    · exact .moduleName rfl rfl
    rcases List.mem_cons.mp hn with rfl | hn
    · exact .fieldName rfl rfl
    rcases i with ⟨a, b, k⟩
    cases hk <;> cases hn
  | exported offset x =>
    obtain rfl := List.mem_singleton.mp hn
    exact .exported rfl rfl
  | _ => cases hn

namespace Layout

variable {o : ReadOptions} {es : List Entry} {m : Module} {n : String}

lemma gives (h : Layout o es m.fields.toList) {f : Field} (hf : f ∈ m.fields.toList) (hn : n ∈ f.names) :
    f.Gives n := by
  rcases f.func?_cases with ⟨loc, g, rfl⟩ | ⟨loc, a, b, g, rfl⟩ | ⟨-, -, -, -, hm⟩
  · exact .func rfl (Option.mem_toList.mp hn)
  · rcases List.mem_cons.mp hn with rfl | hn
    · exact .moduleName rfl rfl
    rcases List.mem_cons.mp hn with rfl | hn
    · exact .fieldName rfl rfl
    exact .func rfl (Option.mem_toList.mp hn)
  · -- a field without a function is as it was declared
    obtain ⟨y, -, hd⟩ := h.declares_of_mem hf
    have hb : f.bare = f := by rw [Field.bare, hm, Option.getD_none]
    rw [hb] at hd
    exact hd.gives hn

lemma mem_names_iff (h : Layout o es m.fields.toList) (hm : m.Consistent) : n ∈ m.names ↔ m.Gives n := by
  refine ⟨fun hn => ?_, Module.Gives.mem_names⟩
  rw [Module.names, List.mem_append, List.mem_append, List.mem_flatMap, Option.mem_toList, Option.mem_toList] at hn
  rcases hn with (hn | ⟨f, hf, hn⟩) | hn
  · exact .module hn
  · exact .field hf (h.gives hf hn)
  · -- the start function stands in the line of its field too
    obtain ⟨v, hv, hn⟩ := Option.bind_eq_some_iff.mp hn
    rw [hm.start?_eq] at hv
    obtain ⟨f, hf, hs⟩ := List.mem_filterMap.mp (List.mem_of_getLast? hv)
    refine .field hf (h.gives hf ?_)
    rcases f with ⟨loc, content⟩
    cases content <;> cases hs
    exact Option.mem_toList.mpr hn

end Layout

/-- The summary of a module that was read has the lines it should have, unless a name holds a line break.
Every line break in a name makes a line of its own. -/
theorem outlined_iff {o : ReadOptions} {bytes : List UInt8} {m : Module} (h : readBinary o bytes = .ok m) :
    (m.Outlined ↔ ∀ n, m.Gives n → '\n' ∉ n.toList) ∧
      (Text.pieces m.summary).length =
        m.fields.size + 5 + m.start?.toList.length + Text.breaks (String.join m.names) := by
  have hp : readPayloads o (Binary.payloads bytes) = .ok m := h
  obtain ⟨hm, hl⟩ := layout_of_readPayloads hp
  refine ⟨?_, m.length_pieces_summary⟩
  rw [m.outlined_iff_names]
  apply forall_congr'
  intro n
  rw [hl.mem_names_iff hm]

/-- A function that is imported, one that is exported and run at the start, and names for all. -/
def titled : List UInt8 :=
  [0x00, 0x61, 0x73, 0x6D, 0x01, 0x00, 0x00, 0x00, 0x01, 0x04, 0x01, 0x60, 0x00, 0x00, 0x02, 0x07, 0x01, 0x01,
   0x65, 0x01, 0x66, 0x00, 0x00, 0x03, 0x02, 0x01, 0x00, 0x07, 0x05, 0x01, 0x01, 0x67, 0x00, 0x01, 0x08, 0x01,
   0x01, 0x0A, 0x04, 0x01, 0x02, 0x00, 0x0B, 0x00, 0x0F, 0x04, 0x6E, 0x61, 0x6D, 0x65, 0x00, 0x02, 0x01, 0x6D,
   0x01, 0x04, 0x01, 0x01, 0x01, 0x62]

theorem outlined_titled : ∃ m, readBinary ⟨true, true⟩ titled = .ok m ∧ m.names = ["$m", "e", "f", "$b", "g"] ∧
    m.Outlined ∧ (Text.pieces m.summary).length = 11 := by
  have hv : (readBinary ⟨true, true⟩ titled).toOption.map (fun m => (m.names, m.fields.size, m.start?)) =
      some (["$m", "e", "f", "$b", "g"], 5, some (.ofIndex 1)) := by decide +kernel
  obtain ⟨m, hm, hx⟩ := Option.map_eq_some_iff.mp hv
  obtain ⟨hn, hx⟩ := Prod.mk.inj hx
  obtain ⟨hf, hs⟩ := Prod.mk.inj hx
  have h := Reading.toOption_eq_some.mp hm
  obtain ⟨ho, hl⟩ := outlined_iff h
  refine ⟨m, h, hn, ho.mpr fun n hg => ?_, ?_⟩
  · have hb : ∀ n ∈ m.names, '\n' ∉ n.toList := by
      rw [hn]
      decide
    exact hb n hg.mem_names
  · rw [hl, hf, hs, hn]
    rfl

/-- No field at all, and a name of the module that ends its line and goes on like the line of a field. -/
def forged : List UInt8 :=
  [0x00, 0x61, 0x73, 0x6D, 0x01, 0x00, 0x00, 0x00, 0x00, 0x17, 0x04, 0x6E, 0x61, 0x6D, 0x65, 0x00, 0x10, 0x0F,
   0x6D, 0x0A, 0x20, 0x20, 0x20, 0x30, 0x20, 0x73, 0x74, 0x61, 0x72, 0x74, 0x20, 0x20, 0x30]

theorem readBinary_forged : ∃ m, readBinary ⟨true, true⟩ forged = .ok m ∧ m.fields.size = 0 ∧
    "   0 start  0" ∈ Text.pieces m.summary ∧ ¬m.Outlined := by
  have hv : (readBinary ⟨true, true⟩ forged).toOption.map (fun m => (m.fields.size, m.name)) =
      some (0, some "$m\n   0 start  0") := by decide +kernel
  obtain ⟨m, hm, hx⟩ := Option.map_eq_some_iff.mp hv
  obtain ⟨hf, hn⟩ := Prod.mk.inj hx
  refine ⟨m, Reading.toOption_eq_some.mp hm, hf, ?_, fun ho => ?_⟩
  · obtain ⟨ls, hl⟩ : ∃ ls, Summary.lines m = "module $m\n   0 start  0" :: ls := by
      rw [Summary.lines, hn]
      exact ⟨_, rfl⟩
    have hs : m.summary = "module $m" ++ "\n" ++ ("   0 start  0" ++ "\n" ++ String.join (ls.map (· ++ "\n"))) := by
      rw [Module.summary, hl, List.map_cons, String.join_cons]
      apply String.toList_inj.mp
      simp
    rw [hs, Text.pieces_append (by decide), Text.pieces_append (by decide)]
    exact List.mem_cons_of_mem _ List.mem_cons_self
  · have hb := m.outlined_iff_names.mp ho _ (Module.Gives.module hn).mem_names
    exact hb (by decide)

end WasmTree
