import Mathlib.Data.List.Forall2
import Mathlib.Data.List.Induction
import WasmTree.Proofs.Module.Views

/-! Modules grown from nothing, field after field, and edited in place while they grow. -/

namespace WasmTree

inductive Growth where
  | append (f : Field)
  | intern (loc : Location) (sig : Signature)

namespace Growth

def adds (fs : List Field) : Growth → List Field
  | append f => [f]
  | intern loc sig =>
    if (fs.filterMap Field.type?).any fun t => t.sig = sig then [] else [⟨loc, .type ⟨none, sig⟩⟩]

lemma adds_congr {fs fs' : List Field} (h : fs.filterMap Field.type? = fs'.filterMap Field.type?) (g : Growth) :
    g.adds fs = g.adds fs' := by
  cases g with
  | append f => rfl
  | intern loc sig => rw [adds, adds, h]

end Growth

def appended (gs : List Growth) : List Field := gs.foldl (fun fs g => fs ++ g.adds fs) []

lemma appended_concat (gs : List Growth) (g : Growth) :
    appended (gs ++ [g]) = appended gs ++ g.adds (appended gs) := by
  rw [appended, List.foldl_append]
  rfl

inductive Edit where
  | func (i : Nat) (r : Func → Func)
  | funcAt (v : Var) (r : Func → Func)
  | global (i : Nat) (r : Global → Global)
  | globalAt (v : Var) (r : Global → Global)

inductive Change where
  | grow (g : Growth)
  | edit (e : Edit)

def Change.growth? : Change → Option Growth
  | grow g => some g
  | edit _ => none

namespace Field.Rewrites

open List

lemma types_eq {fs gs : List Field} (h : Forall₂ Rewrites fs gs) : fs.filterMap type? = gs.filterMap type? := by
  induction h with
  | nil => rfl
  | cons hr _ ih => rw [filterMap_cons, filterMap_cons, hr.type, ih]

lemma forall₂_set {fs gs : List Field} {p : Nat} {f g : Field} (h : Forall₂ Rewrites fs gs)
    (hp : gs[p]? = some f) (hr : f.Rewrites g) : Forall₂ Rewrites fs (gs.set p g) := by
  induction h generalizing p with
  | nil => exact .nil
  | cons ha hs ih =>
    cases p with
    | zero =>
      obtain rfl : _ = f := by simpa using hp
      exact .cons (ha.trans hr) hs
    | succ p => exact .cons ha (ih (by simpa using hp))

end Field.Rewrites

namespace Module

def grow (m : Module) : Growth → Module
  | .append f => m.append f
  | .intern loc sig => (m.intern loc sig).1

def edit? (m : Module) : Edit → Option Module
  | .func i r => m.modifyFunc? i r
  | .funcAt v r => m.editFunc? v r
  | .global i r => m.modifyGlobal? i r
  | .globalAt v r => m.editGlobal? v r

/-- An edit that leads nowhere changes nothing. -/
def change (m : Module) : Change → Module
  | .grow g => m.grow g
  | .edit e => (m.edit? e).getD m

def grown (gs : List Growth) : Module := gs.foldl grow empty

def built (cs : List Change) : Module := cs.foldl change empty

variable {m m' : Module}

lemma grown_concat (gs : List Growth) (g : Growth) : grown (gs ++ [g]) = (grown gs).grow g := by
  rw [grown, List.foldl_append]
  rfl

lemma built_concat (cs : List Change) (c : Change) : built (cs ++ [c]) = (built cs).change c := by
  rw [built, List.foldl_append]
  rfl

lemma grow_eq_appendAll (h : m.Consistent) (g : Growth) : m.grow g = m.appendAll (g.adds m.fields.toList) := by
  cases g with
  | append f => rfl
  | intern loc sig =>
    have ht := h.projected.types.items_eq
    simp only [grow, Growth.adds, intern, signatureIndex?, ← ht]
    cases hi : m.types.findIdx? fun t => t.sig = sig with
    | none =>
      rw [if_neg]
      · rfl
      · simpa using List.findIdx?_eq_none_iff.mp hi
    | some i =>
      rw [if_pos]
      · rfl
      · have hs := congrArg Option.isSome hi
        rwa [List.findIdx?_isSome] at hs

lemma appendAll_fields (fs : List Field) (m : Module) :
    (m.appendAll fs).fields.toList = m.fields.toList ++ fs := by
  unfold appendAll
  induction fs generalizing m with
  | nil => simp
  | cons f fs ih => simp [ih]

lemma grow_fields (h : m.Consistent) (g : Growth) :
    (m.grow g).fields.toList = m.fields.toList ++ g.adds m.fields.toList := by
  rw [grow_eq_appendAll h, appendAll_fields]

lemma exists_of_modifyEntry? {k : SpaceKind} {i : Nat} {r : Field → Option Field}
    (h : m.modifyEntry? k i r = some m') :
    ∃ p f g, (m.space k).positions[i]? = some p ∧ m.fields[p]? = some f ∧ r f = some g ∧
      m' = { m with fields := m.fields.setIfInBounds p g } := by
  unfold modifyEntry? at h
  simp only [Option.bind_eq_bind, Option.bind_eq_some_iff, Option.pure_def, Option.some.injEq] at h
  obtain ⟨p, hp, f, hf, g, hg, rfl⟩ := h
  exact ⟨p, f, g, hp, hf, hg, rfl⟩

lemma modifyEntry?_eq_some {k : SpaceKind} {i : Nat} {r : Field → Option Field}
    (hr : ∀ f g, r f = some g → f.Rewrites g) (h : m.modifyEntry? k i r = some m') :
    ∃ p f g, m.fields[p]? = some f ∧ f.Rewrites g ∧ m' = { m with fields := m.fields.setIfInBounds p g } := by
  obtain ⟨p, f, g, -, hf, hg, hm⟩ := exists_of_modifyEntry? h
  exact ⟨p, f, g, hf, hr f g hg, hm⟩

lemma edit?_eq_some {e : Edit} (h : m.edit? e = some m') :
    ∃ p f g, m.fields[p]? = some f ∧ f.Rewrites g ∧ m' = { m with fields := m.fields.setIfInBounds p g } := by
  have hf (r : Func → Func) (f g : Field) : f.mapFunc? r = some g → f.Rewrites g := Field.rewrites_of_mapFunc
  have hg (r : Global → Global) (f g : Field) : f.mapGlobal? r = some g → f.Rewrites g :=
    Field.rewrites_of_mapGlobal
  cases e with
  | func i r => exact modifyEntry?_eq_some (hf r) h
  | global i r => exact modifyEntry?_eq_some (hg r) h
  | funcAt v r =>
    obtain ⟨i, -, hi⟩ := Option.bind_eq_some_iff.mp h
    exact modifyEntry?_eq_some (hf r) hi
  | globalAt v r =>
    obtain ⟨i, -, hi⟩ := Option.bind_eq_some_iff.mp h
    exact modifyEntry?_eq_some (hg r) hi

lemma change_edit (m : Module) (e : Edit) :
    m.change (.edit e) = m ∨ ∃ p f g, m.fields[p]? = some f ∧ f.Rewrites g ∧
      m.change (.edit e) = { m with fields := m.fields.setIfInBounds p g } := by
  have hc : m.change (.edit e) = (m.edit? e).getD m := rfl
  cases he : m.edit? e with
  | none => exact .inl (hc.trans (by rw [he]; rfl))
  | some m' =>
    obtain ⟨p, f, g, hp, hr, hm⟩ := edit?_eq_some he
    exact .inr ⟨p, f, g, hp, hr, hc.trans (by rw [he, hm]; rfl)⟩

namespace Consistent

lemma appendAll (h : m.Consistent) (fs : List Field) : (m.appendAll fs).Consistent := by
  unfold Module.appendAll
  induction fs generalizing m with
  | nil => exact h
  | cons f fs ih => exact ih (h.append f)

lemma grow (h : m.Consistent) (g : Growth) : (m.grow g).Consistent :=
  grow_eq_appendAll h g ▸ h.appendAll _

lemma change (h : m.Consistent) (c : Change) : (m.change c).Consistent := by
  cases c with
  | grow g => exact h.grow g
  | edit e =>
    rcases change_edit m e with he | ⟨p, f, g, hp, hr, he⟩
    · rwa [he]
    · rw [he]
      exact h.setField hp hr

end Consistent

lemma consistent_grown (gs : List Growth) : (grown gs).Consistent := by
  induction gs using List.reverseRecOn with
  | nil => exact consistent_empty
  | append_singleton gs g ih => exact grown_concat gs g ▸ ih.grow g

lemma consistent_built (cs : List Change) : (built cs).Consistent := by
  induction cs using List.reverseRecOn with
  | nil => exact consistent_empty
  | append_singleton cs c ih => exact built_concat cs c ▸ ih.change c

lemma fields_grown (gs : List Growth) : (grown gs).fields.toList = appended gs := by
  induction gs using List.reverseRecOn with
  | nil => rfl
  | append_singleton gs g ih =>
    rw [grown_concat, appended_concat, grow_fields (consistent_grown gs), ih]

lemma rewrites_built (cs : List Change) :
    List.Forall₂ Field.Rewrites (appended (cs.filterMap Change.growth?)) (built cs).fields.toList := by
  induction cs using List.reverseRecOn with
  | nil => exact .nil
  | append_singleton cs c ih =>
    rw [built_concat, List.filterMap_append]
    cases c with
    | grow g =>
      have hg : [Change.grow g].filterMap Change.growth? = [g] := rfl
      have hf : ((built cs).change (.grow g)).fields.toList = _ := grow_fields (consistent_built cs) g
      rw [hg, appended_concat, Growth.adds_congr (Field.Rewrites.types_eq ih) g, hf]
      exact List.rel_append ih (List.forall₂_same.mpr fun f _ => .kept f)
    | edit e =>
      have hn : [Change.edit e].filterMap Change.growth? = [] := rfl
      rw [hn, List.append_nil]
      rcases change_edit (built cs) e with he | ⟨p, f, g, hp, hr, he⟩
      · rwa [he]
      · rw [he, Array.toList_setIfInBounds]
        exact Field.Rewrites.forall₂_set ih (by simpa using hp) hr

end Module

end WasmTree
