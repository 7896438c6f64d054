import WasmTree.Proofs.Module.Interning

/-! What is read through a reference and what is rewritten through it are one item, and nothing else is touched. -/

namespace WasmTree

/-- A part that may be missing, as it is read and as it is rewritten. -/
structure Lens {γ α : Type} (get? : γ → Option α) (map? : γ → (α → α) → Option γ) : Prop where
  isSome_eq : ∀ c r, (map? c r).isSome = (get? c).isSome
  get_map : ∀ c r, (map? c r).bind get? = (get? c).map r
  map_id : ∀ c, map? c id = (get? c).map fun _ => c
  map_map : ∀ c r s, (map? c r).bind (map? · s) = map? c (s ∘ r)

namespace Lens

variable {γ δ α ι : Type}

lemma within {get? : γ → Option α} {map? : γ → (α → α) → Option γ} (h : Lens get? map?) {view? : δ → Option γ}
    {put : δ → γ → δ} (hv : ∀ d c c', view? d = some c → view? (put d c') = some c')
    (hs : ∀ d c, view? d = some c → put d c = d)
    (hp : ∀ d c c' c'', view? d = some c → put (put d c') c'' = put d c'') :
    Lens (fun d => (view? d).bind get?) fun d r => (view? d).bind fun c => (map? c r).map (put d) := by
  constructor
  · intro d r
    cases view? d with
    | none => rfl
    | some c => simpa using h.isSome_eq c r
  · intro d r
    cases hd : view? d with
    | none => rfl
    | some c => simpa [Option.bind_map, Function.comp_def, hv d c _ hd] using h.get_map c r
  · intro d
    cases hd : view? d with
    | none => rfl
    | some c => simp [h.map_id c, hs d c hd, Function.comp_def]
  · intro d r s
    cases hd : view? d with
    | none => rfl
    | some c =>
      have hm (c' : γ) : (view? (put d c')).bind (fun c => (map? c s).map (put (put d c'))) =
          (map? c' s).map (put d) := by
        rw [hv d c c' hd, Option.bind_some]
        exact Option.map_congr fun c'' _ => hp d c c' c'' hd
      rw [Option.bind_some, Option.bind_some, Option.bind_map, ← h.map_map, Option.map_bind]
      exact Option.bind_congr fun c' _ => hm c'

lemma refer {get? : ι → γ → Option α} {map? : ι → γ → (α → α) → Option γ} (h : ∀ i, Lens (get? i) (map? i))
    {index? : γ → Option ι} (hi : ∀ i c r c', map? i c r = some c' → index? c' = index? c) :
    Lens (fun c => (index? c).bind (get? · c)) (fun c r => (index? c).bind (map? · c r)) := by
  -- after an edit the reference is followed anew, and leads where it led before
  have hk {β : Type} (g : ι → γ → Option β) {i : ι} {c : γ} (hc : index? c = some i) (r : α → α) :
      ((map? i c r).bind fun c' => (index? c').bind (g · c')) = (map? i c r).bind (g i) := by
    apply Option.bind_congr
    intro c' hm
    rw [hi i c r c' hm, hc, Option.bind_some]
  constructor
  · intro c r
    cases index? c with
    | none => rfl
    | some i => exact (h i).isSome_eq c r
  · intro c r
    cases hc : index? c with
    | none => rfl
    | some i => exact (hk get? hc r).trans ((h i).get_map c r)
  · intro c
    cases index? c with
    | none => rfl
    | some i => exact (h i).map_id c
  · intro c r s
    cases hc : index? c with
    | none => rfl
    | some i => exact (hk (fun i c => map? i c s) hc r).trans ((h i).map_map c r s)

lemma get_of_map {get? : γ → Option α} {map? : γ → (α → α) → Option γ} (h : Lens get? map?) {c c' : γ} {x : α}
    (hc : map? c (fun _ => x) = some c') : get? c' = some x := by
  have hg := h.get_map c fun _ => x
  have hs := h.isSome_eq c fun _ => x
  rw [hc] at hg hs
  obtain ⟨y, hy⟩ := Option.isSome_iff_exists.mp hs.symm
  rw [hy] at hg
  exact hg

end Lens

lemma Entity.lens_func : Lens Entity.func? fun e r => e.mapFunc? r :=
  ⟨fun e _ => by cases e <;> rfl, fun e _ => by cases e <;> rfl, fun e => by cases e <;> rfl,
    fun e _ _ => by cases e <;> rfl⟩

lemma Entity.lens_global : Lens Entity.global? fun e r => e.mapGlobal? r :=
  ⟨fun e _ => by cases e <;> rfl, fun e _ => by cases e <;> rfl, fun e => by cases e <;> rfl,
    fun e _ _ => by cases e <;> rfl⟩

namespace Field

variable {α : Type}

def putEntity (f : Field) (e : Entity) : Field :=
  match f.content with
  | .entity _ => { f with content := .entity e }
  | .imported i => { f with content := .imported { i with entity := e } }
  | _ => f

lemma mapEntity?_eq (r : Entity → Option Entity) (f : Field) :
    f.mapEntity? r = f.entity?.bind fun e => (r e).map f.putEntity := by
  rcases f with ⟨loc, content⟩
  cases content <;> rfl

lemma lens_entity {part? : Entity → Option α} {map? : (α → α) → Entity → Option Entity}
    (h : Lens part? fun e r => map? r e) :
    Lens (fun f : Field => f.entity?.bind part?) fun f r => f.mapEntity? (map? r) := by
  simp only [mapEntity?_eq]
  refine h.within ?_ ?_ ?_
  · rintro ⟨loc, content⟩ e e' he
    cases content <;> simp_all [entity?, putEntity]
  · rintro ⟨loc, content⟩ e he
    cases content <;> simp only [entity?, Option.some.injEq, reduceCtorEq] at he <;> subst he <;> rfl
  · rintro ⟨loc, content⟩ e e' e'' he
    cases content <;> simp_all [entity?, putEntity]

end Field

namespace Module

variable {α : Type} {k : SpaceKind} {i : Nat} {m : Module}

/-- The module with another field where an index of a space leads to. -/
def putEntry (m : Module) (k : SpaceKind) (i : Nat) (f : Field) : Module :=
  { m with fields := (m.space k).positions[i]?.elim m.fields fun p => m.fields.setIfInBounds p f }

lemma modifyEntry?_eq (r : Field → Option Field) :
    m.modifyEntry? k i r = (m.entry? k i).bind fun f => (r f).map (m.putEntry k i) := by
  unfold modifyEntry? Module.entry? putEntry
  cases (m.space k).positions[i]? with
  | none => rfl
  | some p =>
    simp only [Option.bind_eq_bind, Option.bind_some]
    exact Option.bind_congr fun f _ => by cases r f <;> rfl

lemma exists_of_entry? {f : Field} (h : m.entry? k i = some f) :
    ∃ p, (m.space k).positions[i]? = some p ∧ m.fields[p]? = some f ∧
      ∀ g, m.putEntry k i g = { m with fields := m.fields.setIfInBounds p g } := by
  obtain ⟨p, hp, hf⟩ := Option.bind_eq_some_iff.mp h
  refine ⟨p, hp, hf, fun g => ?_⟩
  rw [putEntry, hp, Option.elim_some]

lemma entry?_putEntry {f : Field} (h : m.entry? k i = some f) (g : Field) :
    Module.entry? (m.putEntry k i g) k i = some g := by
  obtain ⟨p, hp, hf, hg⟩ := exists_of_entry? h
  have hs := (Array.getElem?_eq_some_iff.mp hf).1
  refine Option.bind_eq_some_iff.mpr ⟨p, hp, ?_⟩
  rw [hg, Array.getElem?_setIfInBounds_self_of_lt hs]

lemma lens_entry {part? : Field → Option α} {map? : (α → α) → Field → Option Field}
    (h : Lens part? fun f r => map? r f) (k : SpaceKind) (i : Nat) :
    Lens (fun m : Module => (m.entry? k i).bind part?) fun m r => m.modifyEntry? k i (map? r) := by
  simp only [modifyEntry?_eq]
  refine h.within (fun m f f' hf => entry?_putEntry hf f') (fun m f hf => ?_) fun m f f' f'' hf => ?_
  · obtain ⟨p, -, hp, hg⟩ := exists_of_entry? hf
    obtain ⟨hs, rfl⟩ := Array.getElem?_eq_some_iff.mp hp
    rw [hg, Array.setIfInBounds, dif_pos hs, Array.set_getElem_self]
  · obtain ⟨p, hp, -, hg⟩ := exists_of_entry? hf
    obtain ⟨q, hq, -, hg'⟩ := exists_of_entry? (entry?_putEntry hf f')
    obtain rfl : p = q := Option.some.inj (hp.symm.trans hq)
    rw [hg', hg, hg]
    simp only [Array.setIfInBounds_setIfInBounds]

end Module

namespace Field

def origin? (f : Field) : Option (String × String × ExternalKind) :=
  f.import?.map fun i => (i.moduleName, i.fieldName, i.entity.kind)

/-- What a field says of itself, apart from its entity. -/
structure Retains (f g : Field) : Prop where
  loc : g.loc = f.loc
  keyword : g.keyword = f.keyword
  origin? : g.origin? = f.origin?

lemma Rewrites.retains {f g : Field} (h : f.Rewrites g) : f.Retains g := by
  cases h with
  | kept => exact ⟨rfl, rfl, rfl⟩
  | entity loc he => cases he <;> exact ⟨rfl, rfl, rfl⟩
  | imported loc m n he => cases he <;> exact ⟨rfl, rfl, rfl⟩

lemma belongs_iff {f : Field} {k : SpaceKind} : f.belongs k ↔ ∃ x ∈ f.memberships, x.space = k := by
  rw [belongs, membership?, List.find?_isSome]
  simp only [decide_eq_true_eq]

lemma eq_or_eq_of_belongs {f : Field} {j k : SpaceKind} (hj : f.belongs j) (hk : f.belongs k) :
    j = k ∨ j = .imports ∨ k = .imports := by
  obtain ⟨x, hx, rfl⟩ := belongs_iff.mp hj
  obtain ⟨y, hy, rfl⟩ := belongs_iff.mp hk
  rcases f with ⟨loc, content⟩
  cases content <;> simp only [memberships, List.mem_cons, List.not_mem_nil, or_false] at hx hy
  case imported =>
    rcases hx with rfl | rfl
    · rcases hy with rfl | rfl
      · exact .inl rfl
      · exact .inr (.inr rfl)
    · exact .inr (.inl rfl)
  all_goals exact .inl (hx ▸ hy ▸ rfl)

end Field

namespace Module

variable {α : Type}

/-- The item at an index of a space was rewritten in its field, and all else is as it was. -/
structure Edited (m : Module) (k : SpaceKind) (part? : Field → Option α) (item? : Module → Nat → Option α) (i : Nat)
    (r : α → α) (m' : Module) : Prop where
  field : ∃ p f g, (m.space k).positions[i]? = some p ∧ m.fields[p]? = some f ∧ m'.fields[p]? = some g ∧
    f.Retains g ∧ (part? f).isSome ∧ part? g = (part? f).map r ∧ ∀ q ≠ p, m'.fields[q]? = m.fields[q]?
  size : m'.fields.size = m.fields.size
  item?_ne : ∀ j ≠ i, item? m' j = item? m j
  entries : ∀ j, j ≠ k → j ≠ .imports → m'.entries j = m.entries j
  space : ∀ j, m'.space j = m.space j
  index? : ∀ j v, m'.index? j v = m.index? j v
  start? : m'.start? = m.start?
  head : m'.loc = m.loc ∧ m'.name = m.name

/-- One way of reading an item and one of rewriting it, by a reference that leads to the given index. -/
structure Accessors (m : Module) (k : SpaceKind) (part? : Field → Option α) (item? : Module → Nat → Option α)
    (index? : Option Nat) (get? : Module → Option α) (edit? : Module → (α → α) → Option Module) : Prop where
  lens : Lens get? edit?
  get?_eq : get? m = index?.bind (item? m)
  isSome_eq : (get? m).isSome = index?.any (· < m.size k)
  stored : ∀ x m', edit? m (fun _ => x) = some m' → get? m' = some x
  edited : ∀ r m', edit? m r = some m' → ∃ i, index? = some i ∧ m.Edited k part? item? i r m'

lemma filter_set_of_neg {β : Type} {q : β → Bool} {l : List β} {p : Nat} {a b : β} (hp : l[p]? = some a) (ha : q a = false)
    (hb : q b = false) : (l.set p b).filter q = l.filter q := by
  induction l generalizing p with
  | nil => rfl
  | cons c l ih =>
    cases p with
    | zero =>
      obtain rfl : c = a := by simpa using hp
      simp [ha, hb]
    | succ p => simp [List.filter_cons, ih (by simpa using hp)]

variable {m m' : Module} {k : SpaceKind} {part? : Field → Option α} {name : α → Option String}
  {map? : (α → α) → Field → Option Field} {i : Nat} {r : α → α}

lemma Consistent.eq_of_positions (h : m.Consistent) {i j p : Nat} (hi : (m.space k).positions[i]? = some p)
    (hj : (m.space k).positions[j]? = some p) : i = j := by
  have hn : (m.space k).positions.toList.Nodup := h.positions k ▸ List.nodup_findIdxs
  rw [← Array.getElem?_toList] at hi hj
  obtain ⟨hs, -⟩ := List.getElem?_eq_some_iff.mp hi
  exact (List.getElem?_inj hs hn).mp (hi.trans hj.symm)

lemma Consistent.edited (h : m.Consistent) (hk : k ≠ .imports) (hb : ∀ f : Field, (part? f).isSome = f.belongs k)
    (hl : Lens part? fun f r => map? r f) (hr : ∀ r f g, map? r f = some g → f.Rewrites g)
    (he : m.modifyEntry? k i (map? r) = some m') :
    m.Edited k part? (fun m j => (m.entry? k j).bind part?) i r m' := by
  obtain ⟨p, f, g, hp, hpf, hg, rfl⟩ := exists_of_modifyEntry? he
  have hw := hr r f g hg
  have hx : (part? f).isSome := by rw [← hl.isSome_eq f r, hg, Option.isSome_some]
  have hgx : part? g = (part? f).map r := by rw [← hl.get_map f r, hg, Option.bind_some]
  have hpg : (m.fields.setIfInBounds p g)[p]? = some g :=
    Array.getElem?_setIfInBounds_self_of_lt (Array.getElem?_eq_some_iff.mp hpf).1
  have hne (q : Nat) (hq : q ≠ p) : (m.fields.setIfInBounds p g)[q]? = m.fields[q]? := by
    rw [Array.getElem?_setIfInBounds, if_neg hq.symm]
  refine ⟨⟨p, f, g, hp, hpf, hpg, hw.retains, hx, hgx, hne⟩, Array.size_setIfInBounds, fun j hj => ?_,
    fun j hj hi => ?_, fun _ => rfl, fun _ _ => rfl, ?_, rfl, rfl⟩
  · apply congrArg (Option.bind · part?)
    apply Option.bind_congr
    intro q hq
    apply hne
    rintro rfl
    exact hj (h.eq_of_positions hq hp)
  · have hn (e : Field) (he : (part? e).isSome) : e.belongs j = false := by
      rw [hb] at he
      apply Bool.eq_false_iff.mpr
      intro hej
      rcases Field.eq_or_eq_of_belongs hej he with rfl | rfl | rfl
      · exact hj rfl
      · exact hi rfl
      · exact hk rfl
    have hgs : (part? g).isSome := by rwa [hgx, Option.isSome_map]
    have hc := h.setField hpf hw
    rw [hc.entries_eq, h.entries_eq, Array.toList_setIfInBounds]
    exact filter_set_of_neg (by simpa using hpf) (hn f hx) (hn g hgs)
  · -- the edited field may only be a start field if it was one, with the same reference
    have hst (q : Nat) : (m.fields.setIfInBounds p g)[q]?.bind Field.start? = m.fields[q]?.bind Field.start? := by
      by_cases hq : q = p
      · rw [hq, hpg, hpf, Option.bind_some, Option.bind_some, hw.start]
      · rw [hne q hq]
    simp only [start?, Option.bind_assoc]
    exact Option.bind_congr fun q _ => hst q

lemma Consistent.isSome_entry (h : m.Consistent) (hp : IsPart k part? name) (i : Nat) :
    ((m.entry? k i).bind part?).isSome = decide (i < m.size k) := by
  have hv := (h.view hp).eq_none_iff i
  rw [Bool.eq_iff_iff, decide_eq_true_eq, Option.isSome_iff_ne_none, ne_eq, hv, Nat.not_le]

lemma Consistent.accessors_at (h : m.Consistent) (hk : k ≠ .imports) (hp : IsPart k part? name)
    (hl : Lens part? fun f r => map? r f) (hr : ∀ r f g, map? r f = some g → f.Rewrites g) (i : Nat) :
    m.Accessors k part? (fun m j => (m.entry? k j).bind part?) (some i) (fun m => (m.entry? k i).bind part?)
      fun m r => m.modifyEntry? k i (map? r) where
  lens := lens_entry hl k i
  get?_eq := rfl
  isSome_eq := h.isSome_entry hp i
  stored _ _ hm := (lens_entry hl k i).get_of_map hm
  edited _ _ hm := ⟨i, rfl, h.edited hk hp.isSome hl hr hm⟩

lemma index?_of_modifyEntry? {rf : Field → Option Field} (hm : m.modifyEntry? k i rf = some m') (j : SpaceKind)
    (v : Var) : m'.index? j v = m.index? j v := by
  obtain ⟨p, f, g, -, -, -, rfl⟩ := exists_of_modifyEntry? hm
  rfl

lemma Consistent.accessors_via (h : m.Consistent) (hk : k ≠ .imports) (hp : IsPart k part? name)
    (hl : Lens part? fun f r => map? r f) (hr : ∀ r f g, map? r f = some g → f.Rewrites g) (v : Var) :
    m.Accessors k part? (fun m j => (m.entry? k j).bind part?) (m.index? k v)
      (fun m => (m.index? k v).bind fun i => (m.entry? k i).bind part?)
      fun m r => (m.index? k v).bind fun i => m.modifyEntry? k i (map? r) := by
  have hi (i : Nat) (m : Module) (r : α → α) (m' : Module) (hm : m.modifyEntry? k i (map? r) = some m') :
      m'.index? k v = m.index? k v := index?_of_modifyEntry? hm k v
  have hv := Lens.refer (lens_entry hl k) hi
  refine ⟨hv, rfl, ?_, fun x m' hm => hv.get_of_map hm, fun r m' hm => ?_⟩
  · cases m.index? k v with
    | none => rfl
    | some i => exact h.isSome_entry hp i
  · obtain ⟨i, hi, hm⟩ := Option.bind_eq_some_iff.mp hm
    exact ⟨i, hi, h.edited hk hp.isSome hl hr hm⟩

/-- However a module was grown and edited, the accessors of its functions and globals, by reference and by index,
read and rewrite one item each. -/
theorem accessors_built (cs : List Change) :
    (∀ v, (built cs).Accessors .funcs Field.func? func? ((built cs).index? .funcs v) (getFunc? · v) (editFunc? · v)) ∧
    (∀ i, (built cs).Accessors .funcs Field.func? func? (some i) (func? · i) (modifyFunc? · i)) ∧
    (∀ v, (built cs).Accessors .globals Field.global? global? ((built cs).index? .globals v) (getGlobal? · v)
      (editGlobal? · v)) ∧
    ∀ i, (built cs).Accessors .globals Field.global? global? (some i) (global? · i) (modifyGlobal? · i) := by
  have h := consistent_built cs
  have hf : IsPart .funcs Field.func? Func.name := fun f => f.nameIn_eq .funcs
  have hg : IsPart .globals Field.global? Global.name := fun f => f.nameIn_eq .globals
  have hlf : Lens Field.func? fun f r => f.mapFunc? r := Field.lens_entity Entity.lens_func
  have hlg : Lens Field.global? fun f r => f.mapGlobal? r := Field.lens_entity Entity.lens_global
  have hrf (r : Func → Func) (f g : Field) : f.mapFunc? r = some g → f.Rewrites g := Field.rewrites_of_mapFunc
  have hrg (r : Global → Global) (f g : Field) : f.mapGlobal? r = some g → f.Rewrites g :=
    Field.rewrites_of_mapGlobal
  refine ⟨?_, ?_, ?_, ?_⟩
  · exact h.accessors_via (by decide) hf hlf hrf
  · exact h.accessors_at (by decide) hf hlf hrf
  · exact h.accessors_via (by decide) hg hlg hrg
  · exact h.accessors_at (by decide) hg hlg hrg

end Module

end WasmTree
