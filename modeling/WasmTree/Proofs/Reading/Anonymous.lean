import WasmTree.Load
import WasmTree.Proofs.Module.Anonymous
import WasmTree.Proofs.Reading.Layout

/-!
Debug names as a switch. A binary that is read with them is read without them too, into the same module
but for the names.
-/

namespace WasmTree

def ReadOptions.withoutNames (o : ReadOptions) : ReadOptions := { o with debugNames := false }

namespace DebugNames

lemma apply_empty (i : Nat) : empty.apply i = id := by
  have hf : (empty.funcs)[i]? = none := Std.TreeMap.getElem?_emptyc
  have hl : (empty.locals)[i]? = none := Std.TreeMap.getElem?_emptyc
  funext f
  rw [apply_eq, hf, hl]
  rfl

lemma applyFrom_empty (i : Nat) (fs : List Field) : empty.applyFrom i fs = fs := by
  induction fs generalizing i with
  | nil => rfl
  | cons f fs ih => rw [applyFrom, ih, applyNext_fst, apply_empty, Field.mapFunc?_id]

lemma anonymous_apply (d : DebugNames) (i : Nat) (f : Func) : (d.apply i f).anonymous = f.anonymous := by
  rw [apply_eq]
  rfl

end DebugNames

namespace Collected

variable {o : ReadOptions} {c c' : Collected}

def nameless (c : Collected) : Collected := { c with names := .empty }

lemma Enters.withoutNames {e : Entry} (h : Enters o c e c') : Enters o.withoutNames c.nameless e c'.nameless := by
  cases h with
  | declares hf =>
    have hd : o.exceptions = true → o.withoutNames.exceptions = true := id
    exact .declares (hf.mono hd)
  | inactive offset => exact .inactive offset
  | passive offset => exact .passive offset
  | body hp hb => exact .body hp hb
  | names => exact .noNames _ rfl
  | noNames b => exact .noNames b rfl

lemma EntersAll.withoutNames {es : List Entry} (h : EntersAll o c es c') :
    EntersAll o.withoutNames c.nameless es c'.nameless := by
  induction h with
  | nil => exact .nil
  | cons hx _ ih => exact .cons hx.withoutNames ih

lemma anonymous_module (c : Collected) :
    c.module.anonymous = Module.empty.appendAll (c.fields.toList.map Field.anonymous) := by
  have hn : (c.names.applyAll c.fields).toList.map Field.anonymous = c.fields.toList.map Field.anonymous := by
    have hm := c.map_module fun i => Field.anonymous_mapFunc? (c.names.anonymous_apply i)
    rwa [fields_module, ← DebugNames.toList_applyAll] at hm
  have he : ({ Module.empty with name := c.names.module } : Module).anonymous = Module.empty := by
    simp only [Module.anonymous, Module.empty, Array.map_empty]
    rfl
  rw [module, Module.anonymous_appendAll, hn, he]

lemma module_nameless (c : Collected) : c.nameless.module = Module.empty.appendAll c.fields.toList := by
  have hn : (DebugNames.empty.applyAll c.fields).toList = c.fields.toList := by
    rw [DebugNames.toList_applyAll, DebugNames.applyFrom_empty]
  have hm : c.nameless.module = Module.empty.appendAll (DebugNames.empty.applyAll c.fields).toList := rfl
  rw [hm, hn]

lemma Laid.map_anonymous {es : List Entry} (h : Laid o es c) :
    c.fields.toList.map Field.anonymous = c.fields.toList := by
  refine (List.map_congr_left fun f hf => ?_).trans (List.map_id _)
  exact Field.anonymous_eq_self fun labels hl => h.unnamed labels (List.mem_filterMap.mpr ⟨f, hf, hl⟩)

end Collected

lemma readPayloads_withoutNames {o : ReadOptions} {ps : Batch Payload} {m : Module} (h : readPayloads o ps = .ok m) :
    readPayloads o.withoutNames ps = .ok m.anonymous := by
  obtain ⟨⟨hc, hw⟩, c, he, hb, rfl⟩ := readPayloads_eq_ok.mp h
  refine readPayloads_eq_ok.mpr ⟨⟨hc, fun p hp => (hw p hp).mono id⟩, c.nameless, he.withoutNames, hb, ?_⟩
  rw [Collected.module_nameless, Collected.anonymous_module, he.laid.map_anonymous]

/-- An imported function and one with a parameter and a local, all of which have names. -/
def allNamed : List UInt8 :=
  [0x00, 0x61, 0x73, 0x6D, 0x01, 0x00, 0x00, 0x00, 0x01, 0x05, 0x01, 0x60, 0x01, 0x7F, 0x00, 0x02, 0x07, 0x01,
   0x01, 0x65, 0x01, 0x66, 0x00, 0x00, 0x03, 0x02, 0x01, 0x00, 0x07, 0x05, 0x01, 0x01, 0x67, 0x00, 0x01, 0x0A,
   0x09, 0x01, 0x07, 0x01, 0x01, 0x7E, 0x20, 0x00, 0x1A, 0x0B, 0x00, 0x1D, 0x04, 0x6E, 0x61, 0x6D, 0x65, 0x00,
   0x02, 0x01, 0x6D, 0x01, 0x07, 0x02, 0x00, 0x01, 0x61, 0x01, 0x01, 0x62, 0x02, 0x09, 0x01, 0x01, 0x02, 0x00,
   0x01, 0x70, 0x01, 0x01, 0x6C]

def told (m : Module) : List (Option String) × List (Option Nat) :=
  (m.name :: m.funcs.map Func.name,
    m.funcs.flatMap fun f => [f.localIndex? (.ofName "$l"), f.localIndex? (.ofIndex 1)])

end WasmTree
