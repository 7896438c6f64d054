import WasmTree.Proofs.Binary.Header
import WasmTree.Proofs.Reading.Entries
import WasmTree.Script.ScriptModule

/-!
The modules of a script against modules that are read on their own. A script says how its bytes are to be
read, where otherwise the bytes decide; whenever both read the bytes alike, they agree.
-/

namespace WasmTree

variable {o : ReadOptions} {bytes : List UInt8}

lemma isBinary_iff : isBinary bytes = true ↔ Binary.magic <+: bytes := List.isPrefixOf_iff_prefix

lemma isBinary_of_readBinary {m : Module} (h : readBinary o bytes = .ok m) : isBinary bytes = true := by
  rw [isBinary_iff]
  by_contra hb
  have hc := (readPayloads_eq_ok.mp h).1.1
  rw [Binary.complete_payloads_of_not_prefix hb] at hc
  cases hc

lemma readText_of_isBinary (h : isBinary bytes = true) : readText o bytes = readBinary o bytes := by
  rw [readText, binaryOfText?, if_pos h]

/-- What a module is read as when nobody says how to read it. -/
def activity (bytes : List UInt8) : Activity := if isBinary bytes then .readingBinary else .readingText

namespace RawModule

variable {r : RawModule}

def Apt (r : RawModule) : Prop := r.source = .binary → isBinary r.bytes = true

lemma apt_of_read {m : Module} (h : r.read o = .ok m) : r.Apt := by
  intro hs
  rw [read, hs] at h
  exact isBinary_of_readBinary h

lemma readModule_eq (h : r.Apt) : readModule o r.bytes = (r.read o).within (activity r.bytes) := by
  rcases r with ⟨loc, name, source, bytes⟩
  cases source with
  | binary =>
    have hb : isBinary bytes = true := h rfl
    simp only [readModule, read, activity, hb, if_true]
  | quoted =>
    by_cases hb : isBinary bytes = true
    · simp only [readModule, read, activity, hb, if_true, readText_of_isBinary hb]
    · simp only [readModule, read, activity, hb, Bool.false_eq_true, if_false]

lemma read_eq_ok {m : Module} : r.read o = .ok m ↔ r.Apt ∧ readModule o r.bytes = .ok m := by
  constructor
  · intro h
    have ha := apt_of_read h
    exact ⟨ha, by rw [readModule_eq ha, Reading.within_eq_ok, h]⟩
  · rintro ⟨ha, h⟩
    rwa [readModule_eq ha, Reading.within_eq_ok] at h

end RawModule

/-- The first module is the second one at a place of its own, under a name of its own if there is one. -/
structure Module.Relabels (m m' : Module) (loc : Location) (name : Option String) : Prop where
  loc_eq : m.loc = loc
  name_eq : m.name = name.or m'.name
  fields_eq : m.fields = m'.fields
  spaces_eq : m.spaces = m'.spaces
  startField_eq : m.startField = m'.startField

namespace ScriptModule

variable {r : RawModule}

lemma decode_raw_eq_ok {m : Module} :
    (raw r).decode o = .ok m ↔ ∃ m', r.read o = .ok m' ∧ m.Relabels m' r.loc r.name := by
  simp only [decode, Reading.bind_eq_ok, Reading.within_eq_ok, Reading.pure_eq_ok]
  refine exists_congr fun m' => and_congr_right fun _ => ?_
  constructor
  · rintro rfl
    exact ⟨rfl, rfl, rfl, rfl, rfl⟩
  · rcases m with ⟨loc, name, fields, spaces, startField⟩
    rintro ⟨rfl, rfl, rfl, rfl, rfl⟩
    rfl

lemma exists_decode_raw_iff :
    (∃ m, (raw r).decode o = .ok m) ↔ r.Apt ∧ ∃ m, readModule o r.bytes = .ok m := by
  simp only [decode_raw_eq_ok, RawModule.read_eq_ok]
  constructor
  · rintro ⟨_, m, ⟨ha, h⟩, -⟩
    exact ⟨ha, m, h⟩
  · rintro ⟨ha, m, h⟩
    exact ⟨{ m with loc := r.loc, name := r.name.or m.name }, m, ⟨ha, h⟩, rfl, rfl, rfl, rfl, rfl⟩

lemma decode_raw_eq_error {e : ReadError} :
    (raw r).decode o = .error e ↔ ∃ e', r.read o = .error e' ∧ e = e'.within (.decoding r.loc) := by
  rw [← Reading.within_eq_error, decode]
  cases (r.read o).within (.decoding r.loc) with
  | error e' => rfl
  | ok m =>
    constructor
    · rintro ⟨⟩
    · rintro ⟨⟩

end ScriptModule

end WasmTree
