import WasmTree.Proofs.Summary
import WasmTree.Proofs.Text.Lines

/-!
The lines of a summary. The only line breaks in them are those of names, each of which makes one line
more than there should be.
-/

namespace WasmTree

open Text

section Displays

@[simp]
lemma ValueType.breaks_text (t : ValueType) : breaks t.text = 0 := by
  cases t <;> rfl

@[simp]
lemma ValueType.breaks_listText (ts : List ValueType) : breaks (listText ts) = 0 := by
  have hj := breaks_join_map breaks_text ts
  rw [listText, breaks_append, breaks_append, breaks_intercalate rfl, hj]
  rfl

@[simp]
lemma Signature.breaks_display (s : Signature) : breaks s.display = 0 := by
  have hs (ts : List ValueType) : breaks (display.spaced ts) = 0 := by
    apply breaks_join_map
    intro t
    rw [breaks_append, ValueType.breaks_text]
    rfl
  simp only [display, breaks_append, hs]
  rfl

@[simp]
lemma Limits.breaks_display (l : Limits) : breaks l.display = 0 := by
  rcases l with ⟨initial, max, shared⟩
  have hs : breaks (bif shared then " shared" else "") = 0 := by cases shared <;> rfl
  cases max with
  | none => simp [display, hs]
  | some m =>
    simp only [display, breaks_append, breaks_uint64, hs, Option.elim_some]
    rfl

@[simp]
lemma ExternalKind.breaks_text (k : ExternalKind) : breaks k.text = 0 := by
  cases k <;> rfl

lemma Family.breaks_text (F : Family) : breaks F.text = 0 := by
  cases F <;> rfl

@[simp]
lemma Var.breaks_display (v : Var) : breaks v.display = breaks (String.join v.name?.toList) := by
  rcases v with ⟨loc, i | n⟩
  · exact breaks_uint32 i
  · simp [display, name?]

end Displays

namespace Field

/-- The names written in the line of a field. -/
def names (f : Field) : List String :=
  match f.content with
  | .entity e => e.name.toList
  | .imported i => i.moduleName :: i.fieldName :: i.entity.name.toList
  | .exported x => x.name :: x.var.name?.toList
  | .type t => t.name.toList
  | .elem s => s.table.name?.toList
  | .data s => s.memory.name?.toList
  | .start v => v.name?.toList

lemma breaks_keyword (f : Field) : breaks f.keyword = 0 := by
  rcases f with ⟨loc, content⟩
  cases content with
  | entity e => exact e.kind.breaks_text
  | _ => simp [keyword, breaks]

end Field

namespace Summary

lemma breaks_orDash (name : Option String) : breaks (orDash name) = breaks (String.join name.toList) := by
  cases name with
  | none => rfl
  | some n => simp [orDash]

lemma breaks_mutability (g : Global) : breaks (mutability g) = 0 := by
  rw [mutability]
  cases g.mutable <;> rfl

lemma breaks_count (l : List Expr) : breaks (count l) = 0 := breaks_repr _

lemma breaks_entityHead (e : Entity) : breaks (entityHead e) = breaks (String.join e.name.toList) := by
  have hb : breaks " " = 0 := rfl
  cases e <;> simp [entityHead, Entity.name, breaks_orDash, breaks_mutability, hb]

lemma breaks_entityBody (e : Entity) : breaks (entityBody e) = 0 := by
  cases e with
  | func f =>
    rw [entityBody, breaks_append, breaks_append, breaks_append, breaks_count, Nat.toString_eq_repr, breaks_repr]
    rfl
  | global g =>
    rw [entityBody, breaks_append, breaks_count]
    rfl
  | _ => rfl

lemma breaks_describe (f : Field) : breaks (describe f.content) = breaks (String.join f.names) := by
  rcases f with ⟨loc, content⟩
  cases content with
  | entity e => simp [describe, Field.names, breaks_entityHead, breaks_entityBody]
  | imported i =>
    simp only [describe, Field.names, breaks_append, breaks_entityHead, ExternalKind.breaks_text, String.join_cons]
    simp [breaks, Nat.add_assoc]
  | exported x =>
    simp only [describe, Field.names, breaks_append, Var.breaks_display, ExternalKind.breaks_text, String.join_cons]
    simp [breaks]
  | type t =>
    simp only [describe, Field.names, breaks_append, breaks_orDash, Signature.breaks_display]
    simp [breaks]
  | elem s =>
    simp only [describe, Field.names, breaks_append, Var.breaks_display, breaks_count]
    rw [Nat.toString_eq_repr, breaks_repr]
    simp [breaks]
  | data s =>
    simp only [describe, Field.names, breaks_append, Var.breaks_display, breaks_count]
    rw [Nat.toString_eq_repr, breaks_repr]
    simp [breaks]
  | start v => exact v.breaks_display

lemma breaks_fieldLine (i : Nat) (f : Field) : breaks (fieldLine i f) = breaks (String.join f.names) := by
  have hn : (toString i).toList.count '\n' = 0 := breaks_repr i
  have hk : f.keyword.toList.count '\n' = 0 := f.breaks_keyword
  rw [fieldLine, breaks_append, breaks_append, breaks_ofList, breaks_describe, List.leftpad, List.rightpad]
  simp only [List.count_append, List.count_cons, List.count_replicate, hn, hk]
  simp [breaks]

lemma breaks_sizes (entries : List (String × Nat)) :
    breaks (sizes entries) = breaks (String.join (entries.map Prod.fst)) := by
  have hn (n : Nat) : breaks (toString n) = 0 := breaks_repr n
  rw [sizes, breaks_intercalate rfl]
  induction entries with
  | nil => rfl
  | cons e entries ih =>
    simp only [List.map_cons, String.join_cons, breaks_append, ih, hn]
    rfl

end Summary

namespace Module

variable (m : Module)

def names : List String :=
  m.name.toList ++ m.fields.toList.flatMap Field.names ++ (m.start?.bind Var.name?).toList

open Summary

lemma breaks_lines : breaks (String.join (lines m)) = breaks (String.join m.names) := by
  have hf := breaks_join_mapIdx breaks_fieldLine m.fields.toList
  have ht : breaks (totals m) = 0 := by
    rw [totals, breaks_sizes]
    simp [breaks]
  have hi : breaks (importTotals m) = 0 := by
    rw [importTotals, breaks_sizes]
    simp [breaks]
  have hc : breaks (sizes (familyCounts m)) = 0 := by
    rw [familyCounts, breaks_sizes, List.map_map]
    exact breaks_join_map (fun F => F.breaks_text) _
  have hs : breaks (String.join (m.start?.map fun v => "start: " ++ v.display).toList) =
      breaks (String.join (m.start?.bind Var.name?).toList) := by
    cases m.start? with
    | none => rfl
    | some v =>
      simp only [Option.map_some, Option.toList_some, String.join_cons, String.join_nil, breaks_append,
        Var.breaks_display, Option.bind_some]
      simp [breaks]
  rw [lines, names]
  simp only [String.join_append, String.join_cons, breaks_append, breaks_orDash, hf, ht, hi, hc, hs]
  simp [breaks]

/-- One line for the module, one for each field, which begins with its number and kind, and the figures
below. -/
structure Outlines (ls : List String) : Prop where
  header : ∃ name, ls[0]? = some ("module " ++ name)
  field : ∀ i f, m.fields[i]? = some f →
    ∃ text, ls[i + 1]? = some (String.ofList ((toString i).toList.leftpad 4 ' ') ++ " " ++ f.keyword ++ text)
  below : ls.drop (m.fields.size + 1) = [totals m, "imports: " ++ importTotals m] ++ startLines m ++
    ["instructions: " ++ sizes (familyCounts m)]

def Outlined : Prop := ∃ ls, pieces m.summary = ls ++ [""] ∧ m.Outlines ls

variable {m} in
lemma Outlines.length_eq {ls : List String} (h : m.Outlines ls) :
    ls.length = m.fields.size + 4 + m.start?.toList.length := by
  have hl := congrArg List.length h.below
  have hs : (startLines m).length = m.start?.toList.length := by
    rw [startLines, Option.toList_map, List.length_map]
  simp only [List.length_drop, List.length_append, List.length_cons, List.length_nil, hs] at hl
  omega

lemma fieldLine_eq (i : Nat) (f : Field) : ∃ text, fieldLine i f =
    String.ofList ((toString i).toList.leftpad 4 ' ') ++ " " ++ f.keyword ++ text := by
  refine ⟨String.ofList (List.replicate (6 - f.keyword.toList.length) ' ') ++ " " ++ describe f.content, ?_⟩
  rw [fieldLine, List.rightpad]
  apply String.toList_inj.mp
  simp

lemma outlines_lines : m.Outlines (lines m) := by
  have hl : lines m = fieldLines m ++ ([totals m, "imports: " ++ importTotals m] ++ startLines m ++
      ["instructions: " ++ sizes (familyCounts m)]) := by
    rw [lines]
    simp only [List.append_assoc]
    rfl
  constructor
  case header => exact ⟨_, rfl⟩
  case field =>
    intro i f hf
    obtain ⟨text, ht⟩ := fieldLine_eq i f
    have hi : i + 1 < (fieldLines m).length := by
      rw [length_fieldLines]
      exact Nat.succ_lt_succ (Array.getElem?_eq_some_iff.mp hf).1
    exact ⟨text, by rw [hl, List.getElem?_append_left hi, getElem?_fieldLines m hf, ht]⟩
  case below => rw [hl, List.drop_left' (length_fieldLines m)]

lemma length_pieces_summary :
    (pieces m.summary).length = m.fields.size + 5 + m.start?.toList.length + breaks (String.join m.names) := by
  rw [length_pieces, summary, breaks_terminated, breaks_lines, m.outlines_lines.length_eq]
  omega

lemma outlined_iff_names : m.Outlined ↔ ∀ n ∈ m.names, '\n' ∉ n.toList := by
  rw [← breaks_join_eq_zero_iff]
  constructor
  · rintro ⟨ls, hp, ho⟩
    have hl := m.length_pieces_summary
    rw [hp, List.length_append, ho.length_eq, List.length_singleton] at hl
    omega
  · intro h
    rw [← breaks_lines, breaks_join_eq_zero_iff] at h
    exact ⟨lines m, pieces_terminated h, m.outlines_lines⟩

end Module

end WasmTree
