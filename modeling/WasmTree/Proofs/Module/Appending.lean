import Mathlib.Tactic.Lemma
import WasmTree.Module.Edit

/-! What appending a field does to each index space, and what an edit in place cannot do. -/

namespace WasmTree

/-- An edit puts a function for a function and a global for a global. -/
inductive Entity.Rewrites : Entity → Entity → Prop
  | func (f g : Func) : Rewrites (.func f) (.func g)
  | global (g h : Global) : Rewrites (.global g) (.global h)

namespace Field

/-- An edited field stands where it stood and is imported from where it was. -/
inductive Rewrites : Field → Field → Prop
  | kept (f : Field) : Rewrites f f
  | entity {e e'} (loc : Location) : e.Rewrites e' → Rewrites ⟨loc, .entity e⟩ ⟨loc, .entity e'⟩
  | imported {e e'} (loc : Location) (moduleName fieldName : String) : e.Rewrites e' →
    Rewrites ⟨loc, .imported ⟨moduleName, fieldName, e⟩⟩ ⟨loc, .imported ⟨moduleName, fieldName, e'⟩⟩

lemma rewrites_of_mapEntity {r : Entity → Option Entity} {f g : Field}
    (hr : ∀ e e', r e = some e' → e.Rewrites e') (h : f.mapEntity? r = some g) : f.Rewrites g := by
  rcases f with ⟨loc, content⟩
  cases content <;> simp only [mapEntity?, Option.map_eq_some_iff, reduceCtorEq] at h
  case entity e =>
    obtain ⟨e', he, rfl⟩ := h
    exact .entity loc (hr e e' he)
  case imported i =>
    obtain ⟨e', he, rfl⟩ := h
    exact .imported loc i.moduleName i.fieldName (hr i.entity e' he)

lemma rewrites_of_mapFunc {r : Func → Func} {f g : Field} (h : f.mapFunc? r = some g) : f.Rewrites g := by
  refine rewrites_of_mapEntity (fun e e' he => ?_) h
  cases e <;> simp only [Entity.mapFunc?, Option.some.injEq, reduceCtorEq] at he
  exact he ▸ .func _ _

lemma rewrites_of_mapGlobal {r : Global → Global} {f g : Field} (h : f.mapGlobal? r = some g) :
    f.Rewrites g := by
  refine rewrites_of_mapEntity (fun e e' he => ?_) h
  cases e <;> simp only [Entity.mapGlobal?, Option.some.injEq, reduceCtorEq] at he
  exact he ▸ .global _ _

def membership? (k : SpaceKind) (f : Field) : Option Membership :=
  f.memberships.find? fun x => x.space = k

def belongs (k : SpaceKind) (f : Field) : Bool := (f.membership? k).isSome

def importedIn (k : SpaceKind) (f : Field) : Bool := (f.membership? k).any Membership.imported

lemma Rewrites.membership {f g : Field} (h : f.Rewrites g) (k : SpaceKind) :
    (g.membership? k).map Membership.imported = (f.membership? k).map Membership.imported := by
  cases h with
  | kept => rfl
  | entity loc he => cases he <;> cases k <;> rfl
  | imported loc m n he => cases he <;> cases k <;> rfl

lemma Rewrites.belongs {f g : Field} (h : f.Rewrites g) (k : SpaceKind) : g.belongs k = f.belongs k := by
  have hm := congrArg Option.isSome (h.membership k)
  simpa only [Field.belongs, Option.isSome_map] using hm

lemma Rewrites.importedIn {f g : Field} (h : f.Rewrites g) (k : SpaceKind) :
    g.importedIn k = f.importedIn k := by
  have hm := congrArg (Option.any id) (h.membership k)
  simpa only [Field.importedIn, Option.any_map, id] using hm

lemma Rewrites.start {f g : Field} (h : f.Rewrites g) : g.start? = f.start? := by
  cases h <;> rfl

lemma Rewrites.type {f g : Field} (h : f.Rewrites g) : g.type? = f.type? := by
  cases h <;> rfl

lemma Rewrites.trans {f g h : Field} (hf : f.Rewrites g) (hg : g.Rewrites h) : f.Rewrites h := by
  cases hf with
  | kept => exact hg
  | entity loc he =>
    cases hg with
    | kept => exact .entity loc he
    | entity _ he' =>
      cases he <;> cases he'
      · exact .entity loc (.func _ _)
      · exact .entity loc (.global _ _)
  | imported loc m n he =>
    cases hg with
    | kept => exact .imported loc m n he
    | imported _ _ _ he' =>
      cases he <;> cases he'
      · exact .imported loc m n (.func _ _)
      · exact .imported loc m n (.global _ _)

end Field

namespace Space

@[simp] lemma enter_positions (position : Nat) (loc : Location) (x : Membership) (s : Space) :
    (s.enter position loc x).positions = s.positions.push position := rfl

@[simp] lemma enter_imported (position : Nat) (loc : Location) (x : Membership) (s : Space) :
    (s.enter position loc x).imported = s.imported + x.imported.toNat := rfl

end Space

lemma Spaces.get_enter (s : Spaces) (position : Nat) (f : Field) (k : SpaceKind) :
    (s.enter position f).get k =
      (f.membership? k).elim (s.get k) fun x => (s.get k).enter position f.loc x := by
  rcases f with ⟨loc, content⟩
  cases content with
  | entity e => cases e <;> cases k <;> rfl
  | imported i =>
    rcases i with ⟨m, n, e⟩
    cases e <;> cases k <;> rfl
  | _ => cases k <;> rfl

namespace Module

@[simp] lemma append_fields (m : Module) (f : Field) : (m.append f).fields = m.fields.push f := rfl

@[simp] lemma append_startField (m : Module) (f : Field) :
    (m.append f).startField = if f.start?.isSome then some m.fields.size else m.startField := rfl

lemma append_space (m : Module) (f : Field) (k : SpaceKind) :
    (m.append f).space k =
      (f.membership? k).elim (m.space k) fun x => (m.space k).enter m.fields.size f.loc x :=
  Spaces.get_enter m.spaces m.fields.size f k

end Module

end WasmTree
