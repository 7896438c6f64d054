import WasmTree.Proofs.Module.Views

/-!
What a field has to do with functions: it defines one, imports one, or neither. Rewriting the function
leaves everything else of the field alone.
-/

namespace WasmTree

def Func.code (f : Func) : List ValueType × List Expr := (f.locals, f.body)

def Func.withCode (code : List ValueType × List Expr) (f : Func) : Func :=
  { f with locals := code.1, body := code.2 }

namespace Field

/-- The function a field defines; an imported one is defined elsewhere. -/
def defined? (f : Field) : Option Func :=
  match f.content with
  | .entity (.func g) => some g
  | _ => none

def importedFunc? (f : Field) : Option Func :=
  match f.content with
  | .imported ⟨_, _, .func g⟩ => some g
  | _ => none

def code? (f : Field) : Option (List ValueType × List Expr) := f.defined?.map Func.code

def importedCode? (f : Field) : Option (List ValueType × List Expr) := f.importedFunc?.map Func.code

def labels? (f : Field) : Option (Option String × BindingTable × BindingTable) :=
  f.func?.map fun g => (g.name, g.paramBindings, g.localBindings)

/-- The field as its entry declares it. -/
def bare (f : Field) : Field := (f.mapFunc? fun g => .ofDeclaration g.decl).getD f

lemma func?_cases (f : Field) :
    (∃ loc g, f = ⟨loc, .entity (.func g)⟩) ∨ (∃ loc m n g, f = ⟨loc, .imported ⟨m, n, .func g⟩⟩) ∨
      f.func? = none ∧ f.defined? = none ∧ f.importedFunc? = none ∧ f.importOf .func = false ∧
        ∀ r, f.mapFunc? r = none := by
  rcases f with ⟨loc, content⟩
  cases content with
  | entity e =>
    cases e with
    | func g => exact .inl ⟨loc, g, rfl⟩
    | _ => exact .inr (.inr ⟨rfl, rfl, rfl, rfl, fun _ => rfl⟩)
  | imported i =>
    rcases i with ⟨m, n, e⟩
    cases e with
    | func g => exact .inr (.inl ⟨loc, m, n, g, rfl⟩)
    | _ => exact .inr (.inr ⟨rfl, rfl, rfl, rfl, fun _ => rfl⟩)
  | _ => exact .inr (.inr ⟨rfl, rfl, rfl, rfl, fun _ => rfl⟩)

lemma func?_eq_or (f : Field) : f.func? = f.importedFunc?.or f.defined? := by
  rcases f.func?_cases with ⟨loc, g, rfl⟩ | ⟨loc, m, n, g, rfl⟩ | ⟨hf, hd, hi, -, -⟩
  · rfl
  · rfl
  · simp [hf, hd, hi]

lemma importedFunc?_eq_none {f : Field} (h : f.defined?.isSome) : f.importedFunc? = none := by
  rcases f.func?_cases with ⟨loc, g, rfl⟩ | ⟨loc, m, n, g, rfl⟩ | ⟨-, -, hi, -, -⟩
  · rfl
  · cases h
  · exact hi

lemma importOf_func (f : Field) : f.importOf .func = f.importedFunc?.isSome := by
  rcases f.func?_cases with ⟨loc, g, rfl⟩ | ⟨loc, m, n, g, rfl⟩ | ⟨-, -, hi, ho, -⟩
  · rfl
  · rfl
  · simp [hi, ho]

section Mapped

variable {r : Func → Func} {f : Field}

lemma bare_mapFunc? (hr : ∀ g, (r g).decl = g.decl) : ((f.mapFunc? r).getD f).bare = f.bare := by
  rcases f.func?_cases with ⟨loc, g, rfl⟩ | ⟨loc, m, n, g, rfl⟩ | ⟨-, -, -, -, hm⟩
  · simp [bare, mapFunc?, mapEntity?, Entity.mapFunc?, hr]
  · simp [bare, mapFunc?, mapEntity?, Entity.mapFunc?, hr]
  · simp [hm]

lemma func?_mapFunc? : ((f.mapFunc? r).getD f).func? = f.func?.map r := by
  rcases f.func?_cases with ⟨loc, g, rfl⟩ | ⟨loc, m, n, g, rfl⟩ | ⟨hf, -, -, -, hm⟩
  · rfl
  · rfl
  · simp [hf, hm]

lemma defined?_mapFunc? : ((f.mapFunc? r).getD f).defined? = f.defined?.map r := by
  rcases f.func?_cases with ⟨loc, g, rfl⟩ | ⟨loc, m, n, g, rfl⟩ | ⟨-, hd, -, -, hm⟩
  · rfl
  · rfl
  · simp [hd, hm]

lemma importedFunc?_mapFunc? : ((f.mapFunc? r).getD f).importedFunc? = f.importedFunc?.map r := by
  rcases f.func?_cases with ⟨loc, g, rfl⟩ | ⟨loc, m, n, g, rfl⟩ | ⟨-, -, hi, -, hm⟩
  · rfl
  · rfl
  · simp [hi, hm]

lemma others_mapFunc? :
    ((f.mapFunc? r).getD f).type? = f.type? ∧ ((f.mapFunc? r).getD f).global? = f.global? ∧
      ((f.mapFunc? r).getD f).except? = f.except? ∧ ((f.mapFunc? r).getD f).elem? = f.elem? ∧
      ((f.mapFunc? r).getD f).data? = f.data? := by
  rcases f.func?_cases with ⟨loc, g, rfl⟩ | ⟨loc, m, n, g, rfl⟩ | ⟨-, -, -, -, hm⟩
  · exact ⟨rfl, rfl, rfl, rfl, rfl⟩
  · exact ⟨rfl, rfl, rfl, rfl, rfl⟩
  · rw [hm, Option.getD_none]
    exact ⟨rfl, rfl, rfl, rfl, rfl⟩

lemma code?_mapFunc? (r' : List ValueType × List Expr → List ValueType × List Expr)
    (hr : ∀ g, (r g).code = r' g.code) : ((f.mapFunc? r).getD f).code? = f.code?.map r' := by
  rw [code?, code?, defined?_mapFunc?, Option.map_map, Option.map_map]
  exact Option.map_congr fun g _ => hr g

lemma importedCode?_mapFunc? (hr : ∀ g, (r g).code = g.code) :
    ((f.mapFunc? r).getD f).importedCode? = f.importedCode? := by
  rw [importedCode?, importedCode?, importedFunc?_mapFunc?, Option.map_map]
  exact Option.map_congr fun g _ => hr g

end Mapped

end Field

end WasmTree
