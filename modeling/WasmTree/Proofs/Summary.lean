import Mathlib.Tactic.Lemma
import WasmTree.Proofs.Expr.Walk
import WasmTree.Proofs.Module.Changes
import WasmTree.Summary

/-!
The numbers of a summary. Those below the fields come from the spaces, the import counters and a walk
over all instructions; they agree with the fields and with the numbers in their lines.
-/

namespace WasmTree

section Counting

variable {α : Type}

lemma countP_add {p q r : α → Bool} (h : ∀ a, (p a).toNat = (q a).toNat + (r a).toNat) (l : List α) :
    l.countP p = l.countP q + l.countP r := by
  induction l with
  | nil => rfl
  | cons a l ih =>
    have ht (b : Bool) : (if b then 1 else 0) = b.toNat := by cases b <;> rfl
    rw [List.countP_cons, List.countP_cons, List.countP_cons, ih, ht, ht, ht, h a]
    omega

lemma length_flatMap_eq_foldr {β : Type} (f : α → List β) (l : List α) :
    (l.flatMap f).length = l.foldr (fun a n => (f a).length + n) 0 := by
  induction l with
  | nil => rfl
  | cons a l ih => rw [List.flatMap_cons, List.length_append, ih, List.foldr_cons]

lemma Family.length_eq (l : List Family) :
    l.count .control + l.count .parametric + l.count .storage + l.count .memory + l.count .numeric +
      l.count .exception = l.length := by
  induction l with
  | nil => rfl
  | cons F l ih =>
    -- the head counts for its own family and for no other
    rw [List.length_cons, ← ih]
    cases F <;> simp <;> omega

end Counting

/-- A field's own instructions, with the text around their number in the line of the field. -/
structure Counted where
  label : String
  exprs : List Expr
  rest : String

def Counted.text (c : Counted) : String := c.label ++ toString (Expr.treeLength c.exprs) ++ c.rest

namespace Field

def counted? (f : Field) : Option Counted :=
  match f.content with
  | .entity (.func g) => some ⟨" exprs=", g.body, ""⟩
  | .entity (.global g) => some ⟨" init=", g.init, ""⟩
  | .elem s => some ⟨" offset=", s.offset, " funcs=" ++ toString s.funcs.length⟩
  | .data s => some ⟨" offset=", s.offset, " bytes=" ++ toString s.bytes.length⟩
  | _ => none

lemma sequences_eq (f : Field) : Summary.sequences f = (f.counted?.map Counted.exprs).toList := by
  rcases f with ⟨loc, content⟩
  cases content with
  | entity e => cases e <;> rfl
  | _ => rfl

lemma belongs_space (k : ExternalKind) (f : Field) :
    (f.belongs k.space).toNat = (f.importedIn k.space).toNat + (decide (f.keyword = k.text)).toNat := by
  rcases f with ⟨loc, content⟩
  cases content with
  | entity e => cases e <;> cases k <;> rfl
  | imported i =>
    rcases i with ⟨m, n, e⟩
    cases e <;> cases k <;> rfl
  | _ => cases k <;> rfl

/-- The keyword of the fields that a space lists, if they are not entities and it is theirs alone. -/
def ownKeyword? : SpaceKind → Option String
  | .types => some "type"
  | .exports => some "export"
  | .elems => some "elem"
  | .datas => some "data"
  | _ => none

lemma belongs_of_keyword {k : SpaceKind} {text : String} (h : ownKeyword? k = some text) (f : Field) :
    f.belongs k = decide (f.keyword = text) := by
  rcases f with ⟨loc, content⟩
  cases content with
  | entity e => cases k <;> cases h <;> cases e <;> rfl
  | imported i =>
    rcases i with ⟨m, n, e⟩
    cases k <;> cases h <;> cases e <;> rfl
  | _ => cases k <;> cases h <;> rfl

end Field

def Module.counted (m : Module) : List Counted := m.fields.toList.filterMap Field.counted?

namespace Module.Consistent

variable {m : Module} (h : m.Consistent)

include h

lemma size_eq (k : SpaceKind) : m.size k = m.fields.toList.countP (Field.belongs k) := by
  rw [size, ← Array.length_toList, h.positions, List.length_findIdxs]

lemma size_space (k : ExternalKind) :
    m.size k.space = m.importCount k + m.fields.toList.countP fun f => f.keyword = k.text := by
  rw [h.size_eq, importCount, h.imported, countP_add (Field.belongs_space k)]

lemma size_of_keyword {k : SpaceKind} {text : String} (hk : ∀ f : Field, f.belongs k = decide (f.keyword = text)) :
    m.size k = m.fields.toList.countP fun f => f.keyword = text := by
  rw [h.size_eq]
  exact List.countP_congr fun f _ => by rw [hk]

end Module.Consistent

namespace Summary

variable (m : Module)

def families : List Family := (m.counted.flatMap fun c => Expr.preorder c.exprs).map fun n => Family.ofTag n.2.tag

lemma familyCounts_eq : familyCounts m = Family.all.map fun F => (F.text, (families m).count F) := by
  have hs : m.fields.toList.flatMap sequences = m.counted.map Counted.exprs := by
    rw [Module.counted, List.map_filterMap, List.filterMap_eq_flatMap_toList, funext Field.sequences_eq]
  simp only [familyCounts, hs, families, Expr.toList_treeNodes, List.flatMap_map, List.map_flatMap]

lemma length_families : (families m).length = m.counted.foldr (fun c n => Expr.treeLength c.exprs + n) 0 := by
  rw [families, List.length_map, length_flatMap_eq_foldr]
  simp only [Expr.treeLength, ← Expr.toList_treeNodes, Array.length_toList]

lemma count_families (F : Family) : (families m).count F =
    (m.counted.flatMap fun c => Expr.preorder c.exprs).countP fun n => Family.ofTag n.2.tag = F := by
  rw [families, List.count_eq_countP, List.countP_map]
  rfl

lemma describe_of_counted? {f : Field} {c : Counted} (h : f.counted? = some c) :
    ∃ head, describe f.content = head ++ c.text := by
  rcases f with ⟨loc, content⟩
  cases content with
  | entity e =>
    cases e with
    | func g =>
      obtain rfl := Option.some.inj h
      refine ⟨entityHead (.func g) ++ " locals=" ++ toString g.locals.length, ?_⟩
      simp only [describe, entityBody, count, Counted.text, String.append_assoc, String.append_empty]
    | global g =>
      obtain rfl := Option.some.inj h
      refine ⟨entityHead (.global g), ?_⟩
      simp only [describe, entityBody, count, Counted.text, String.append_empty]
    | _ => cases h
  | elem s =>
    obtain rfl := Option.some.inj h
    refine ⟨"table=" ++ s.table.display, ?_⟩
    simp only [describe, count, Counted.text, String.append_assoc]
  | data s =>
    obtain rfl := Option.some.inj h
    refine ⟨"memory=" ++ s.memory.display, ?_⟩
    simp only [describe, count, Counted.text, String.append_assoc]
  | _ => cases h

lemma fieldLine_of_counted? {f : Field} {c : Counted} (h : f.counted? = some c) (i : Nat) :
    ∃ head, fieldLine i f = head ++ c.text := by
  obtain ⟨head, hd⟩ := describe_of_counted? h
  rw [fieldLine, hd]
  exact ⟨_, String.append_assoc.symm⟩

structure Figures where
  size : SpaceKind → Nat
  imported : ExternalKind → Nat
  family : Family → Nat

namespace Figures

variable (g : Figures)

def totals : String :=
  sizes [("types", g.size .types), ("funcs", g.size .funcs), ("tables", g.size .tables),
    ("memories", g.size .memories), ("globals", g.size .globals), ("excepts", g.size .excepts),
    ("exports", g.size .exports), ("elems", g.size .elems), ("data", g.size .datas)]

def imports : String :=
  "imports: " ++ sizes [("funcs", g.imported .func), ("tables", g.imported .table),
    ("memories", g.imported .memory), ("globals", g.imported .global), ("excepts", g.imported .except)]

def instructions : String :=
  "instructions: " ++ sizes [("control", g.family .control), ("parametric", g.family .parametric),
    ("variable", g.family .storage), ("memory", g.family .memory), ("numeric", g.family .numeric),
    ("exception", g.family .exception)]

end Figures

/-- The summary is a text of lines. The line of a field with instructions shows how many it has, and the
figures stand below the fields, where a line for the start function may come between them. -/
structure Shows (m : Module) (g : Figures) : Prop where
  text : m.summary = String.join ((lines m).map fun l => l ++ "\n")
  fieldLine : ∀ i f c, m.fields[i]? = some f → f.counted? = some c →
    ∃ head, (lines m)[i + 1]? = some (head ++ c.text)
  below : ∃ start, start.length ≤ 1 ∧
    (lines m).drop (m.fields.size + 1) = [g.totals, g.imports] ++ start ++ [g.instructions]

/-- The figures are what a reader of the fields counts. -/
structure Tallied (m : Module) (g : Figures) : Prop where
  family : ∀ F, g.family F =
    (m.counted.flatMap fun c => Expr.preorder c.exprs).countP fun n => Family.ofTag n.2.tag = F
  total : g.family .control + g.family .parametric + g.family .storage + g.family .memory + g.family .numeric +
    g.family .exception = m.counted.foldr (fun c n => Expr.treeLength c.exprs + n) 0
  entities : ∀ k, g.size k.space = g.imported k + m.fields.toList.countP fun f => f.keyword = k.text
  types : g.size .types = m.fields.toList.countP fun f => f.keyword = "type"
  exports : g.size .exports = m.fields.toList.countP fun f => f.keyword = "export"
  elems : g.size .elems = m.fields.toList.countP fun f => f.keyword = "elem"
  datas : g.size .datas = m.fields.toList.countP fun f => f.keyword = "data"

def figures : Figures := ⟨m.size, m.importCount, fun F => (families m).count F⟩

def fieldLines : List String := ("module " ++ orDash m.name) :: m.fields.toList.mapIdx fieldLine

def startLines : List String := (m.start?.map fun v => "start: " ++ v.display).toList

lemma length_fieldLines : (fieldLines m).length = m.fields.size + 1 := by
  simp [fieldLines]

lemma lines_eq : lines m = fieldLines m ++
    ([(figures m).totals, (figures m).imports] ++ startLines m ++ [(figures m).instructions]) := by
  rw [lines, familyCounts_eq]
  simp only [List.append_assoc]
  rfl

lemma getElem?_fieldLines {i : Nat} {f : Field} (hf : m.fields[i]? = some f) :
    (fieldLines m)[i + 1]? = some (fieldLine i f) := by
  rw [fieldLines, List.getElem?_cons_succ, List.getElem?_mapIdx, Array.getElem?_toList, hf, Option.map_some]

lemma shows_figures : Shows m (figures m) where
  text := rfl
  fieldLine i f c hf hc := by
    obtain ⟨head, hd⟩ := fieldLine_of_counted? hc i
    have hi : i + 1 < (fieldLines m).length := by
      rw [length_fieldLines]
      exact Nat.succ_lt_succ (Array.getElem?_eq_some_iff.mp hf).1
    refine ⟨head, ?_⟩
    rw [lines_eq, List.getElem?_append_left hi, getElem?_fieldLines m hf, hd]
  below := by
    refine ⟨startLines m, Option.length_toList_le, ?_⟩
    rw [lines_eq, List.drop_left' (length_fieldLines m)]

lemma tallied_of_consistent (h : m.Consistent) : Tallied m (figures m) where
  family := count_families m
  total := by
    rw [← length_families]
    exact Family.length_eq _
  entities := h.size_space
  types := h.size_of_keyword (Field.belongs_of_keyword rfl)
  exports := h.size_of_keyword (Field.belongs_of_keyword rfl)
  elems := h.size_of_keyword (Field.belongs_of_keyword rfl)
  datas := h.size_of_keyword (Field.belongs_of_keyword rfl)

/-- However a module was built, its summary counts the fields and instructions that it lists. -/
theorem exists_tallied (cs : List Change) (loc : Location) (name : Option String) :
    ∃ g, Shows { Module.built cs with loc := loc, name := name } g ∧
      Tallied { Module.built cs with loc := loc, name := name } g := by
  have h : Module.Consistent { Module.built cs with loc := loc, name := name } := by
    have hb := Module.consistent_built cs
    exact ⟨hb.positions, hb.imported, hb.startField⟩
  exact ⟨_, shows_figures _, tallied_of_consistent _ h⟩

end Summary

end WasmTree
