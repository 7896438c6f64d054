import WasmTree.Module.Lookup
import WasmTree.Proofs.Reading.Functions

/-!
A module without the names of its functions and their slots. Nothing moves: fields, spaces and whatever
is found by an index stay as they are.
-/

namespace WasmTree

def Func.anonymous (f : Func) : Func := { f with name := none, paramBindings := ∅, localBindings := ∅ }

def Entity.anonymous (e : Entity) : Entity := (e.mapFunc? Func.anonymous).getD e

def Import.anonymous (i : Import) : Import := { i with entity := i.entity.anonymous }

namespace Field

def anonymous (f : Field) : Field := (f.mapFunc? Func.anonymous).getD f

lemma mapFunc?_id (f : Field) : (f.mapFunc? id).getD f = f := by
  rcases f.func?_cases with ⟨loc, g, rfl⟩ | ⟨loc, m, n, g, rfl⟩ | ⟨-, -, -, -, hm⟩
  · rfl
  · rfl
  · rw [hm, Option.getD_none]

lemma anonymous_mapFunc? {r : Func → Func} (hr : ∀ g, (r g).anonymous = g.anonymous) (f : Field) :
    ((f.mapFunc? r).getD f).anonymous = f.anonymous := by
  rcases f.func?_cases with ⟨loc, g, rfl⟩ | ⟨loc, m, n, g, rfl⟩ | ⟨-, -, -, -, hm⟩
  · simp [anonymous, mapFunc?, mapEntity?, Entity.mapFunc?, hr]
  · simp [anonymous, mapFunc?, mapEntity?, Entity.mapFunc?, hr]
  · rw [hm, Option.getD_none]

lemma anonymous_eq_self {f : Field} (h : ∀ labels, f.labels? = some labels → labels = (none, ∅, ∅)) :
    f.anonymous = f := by
  rcases f.func?_cases with ⟨loc, g, rfl⟩ | ⟨loc, m, n, g, rfl⟩ | ⟨-, -, -, -, hm⟩
  · have hg : (g.name, g.paramBindings, g.localBindings) = (none, ∅, ∅) := h _ rfl
    rcases g
    cases hg
    rfl
  · have hg : (g.name, g.paramBindings, g.localBindings) = (none, ∅, ∅) := h _ rfl
    rcases g
    cases hg
    rfl
  · rw [anonymous, hm, Option.getD_none]

lemma loc_anonymous (f : Field) : f.anonymous.loc = f.loc := by
  rcases f.func?_cases with ⟨loc, g, rfl⟩ | ⟨loc, m, n, g, rfl⟩ | ⟨-, -, -, -, hm⟩
  · rfl
  · rfl
  · rw [anonymous, hm, Option.getD_none]

lemma import?_anonymous (f : Field) : f.anonymous.import? = f.import?.map Import.anonymous := by
  rcases f with ⟨loc, content⟩
  cases content with
  | entity e => cases e <;> rfl
  | imported i =>
    rcases i with ⟨m, n, e⟩
    cases e <;> rfl
  | _ => rfl

lemma others_anonymous (f : Field) :
    f.anonymous.table? = f.table? ∧ f.anonymous.memory? = f.memory? ∧ f.anonymous.export? = f.export? ∧
      f.anonymous.start? = f.start? := by
  rcases f.func?_cases with ⟨loc, g, rfl⟩ | ⟨loc, m, n, g, rfl⟩ | ⟨-, -, -, -, hm⟩
  · exact ⟨rfl, rfl, rfl, rfl⟩
  · exact ⟨rfl, rfl, rfl, rfl⟩
  · rw [anonymous, hm, Option.getD_none]
    exact ⟨rfl, rfl, rfl, rfl⟩

end Field

def Space.anonymous (s : Space) : Space := { s with bindings := ∅ }

namespace Module

/-- Names of other entities, and the names that things are exported under, are not touched. -/
def anonymous (m : Module) : Module where
  loc := m.loc
  name := none
  fields := m.fields.map Field.anonymous
  spaces := m.spaces.modify .funcs Space.anonymous
  startField := m.startField

variable (m : Module)

lemma enter_anonymous (s : Spaces) (position : Nat) (f : Field) :
    (s.enter position f).modify .funcs Space.anonymous =
      (s.modify .funcs Space.anonymous).enter position f.anonymous := by
  rcases f with ⟨loc, content⟩
  cases content with
  | entity e => cases e <;> rfl
  | imported i =>
    rcases i with ⟨m, n, e⟩
    cases e <;> rfl
  | _ => rfl

lemma anonymous_append (f : Field) : (m.append f).anonymous = m.anonymous.append f.anonymous := by
  have hs : f.anonymous.start? = f.start? := f.others_anonymous.2.2.2
  simp only [anonymous, append, Array.map_push, Array.size_map, enter_anonymous, hs]

lemma anonymous_appendAll (fs : List Field) :
    (m.appendAll fs).anonymous = m.anonymous.appendAll (fs.map Field.anonymous) := by
  unfold appendAll
  induction fs generalizing m with
  | nil => rfl
  | cons f fs ih => rw [List.foldl_cons, ih, anonymous_append, List.map_cons, List.foldl_cons]

lemma space_anonymous (k : SpaceKind) :
    m.anonymous.space k = if k = .funcs then (m.space k).anonymous else m.space k := by
  cases k <;> rfl

lemma positions_anonymous (k : SpaceKind) : (m.anonymous.space k).positions = (m.space k).positions := by
  rw [space_anonymous]
  split <;> rfl

lemma imported_anonymous (k : SpaceKind) : (m.anonymous.space k).imported = (m.space k).imported := by
  rw [space_anonymous]
  split <;> rfl

lemma bindings_anonymous {k : SpaceKind} (hk : k ≠ .funcs) : m.anonymous.bindings k = m.bindings k := by
  rw [bindings, bindings, space_anonymous, if_neg hk]

lemma entry?_anonymous (k : SpaceKind) (i : Nat) :
    m.anonymous.entry? k i = (Module.entry? m k i).map Field.anonymous := by
  rw [Module.entry?, Module.entry?, positions_anonymous]
  cases (m.space k).positions[i]? with
  | none => rfl
  | some p => exact Array.getElem?_map

lemma entry?_bind_anonymous {α : Type} {part? : Field → Option α} (hp : ∀ f, part? f.anonymous = part? f)
    (k : SpaceKind) (i : Nat) : (m.anonymous.entry? k i).bind part? = (Module.entry? m k i).bind part? := by
  rw [entry?_anonymous, Option.bind_map]
  exact congrArg _ (funext hp)

/-- Whatever a module tells without being asked for the name of a function, its anonymous version tells
as well. -/
structure Mirrored (m m' : Module) : Prop where
  unnamed : m'.name = none ∧ m'.bindings .funcs = ∅
  placed : m'.loc = m.loc ∧ m'.fields.toList.map Field.loc = m.fields.toList.map Field.loc
  start? : m'.start? = m.start?
  positions : ∀ k, (m'.space k).positions = (m.space k).positions
  importCount : ∀ k, m'.importCount k = m.importCount k
  bindings : ∀ k, k ≠ .funcs → m'.bindings k = m.bindings k
  index? : ∀ k v, k ≠ .funcs ∨ v.name? = none → m'.index? k v = m.index? k v
  func? : ∀ i, m'.func? i = (m.func? i).map Func.anonymous
  imported? : ∀ i, m'.import? i = (m.import? i).map Import.anonymous
  table? : ∀ i, m'.table? i = m.table? i
  memory? : ∀ i, m'.memory? i = m.memory? i
  global? : ∀ i, m'.global? i = m.global? i
  except? : ∀ i, m'.except? i = m.except? i
  type? : ∀ i, m'.type? i = m.type? i
  export? : ∀ i, m'.export? i = m.export? i
  elem? : ∀ i, m'.elem? i = m.elem? i
  data? : ∀ i, m'.data? i = m.data? i
  getFunc? : ∀ v, v.name? = none → m'.getFunc? v = (m.getFunc? v).map Func.anonymous
  getTable? : ∀ v, m'.getTable? v = m.getTable? v
  getMemory? : ∀ v, m'.getMemory? v = m.getMemory? v
  getGlobal? : ∀ v, m'.getGlobal? v = m.getGlobal? v
  getExcept? : ∀ v, m'.getExcept? v = m.getExcept? v
  getType? : ∀ v, m'.getType? v = m.getType? v
  getExport? : ∀ n, m'.getExport? n = m.getExport? n
  localIndex? : ∀ (f : Func) v, v.name? = none → f.anonymous.localIndex? v = f.localIndex? v

lemma index?_anonymous {k : SpaceKind} {v : Var} (h : k ≠ .funcs ∨ v.name? = none) :
    m.anonymous.index? k v = m.index? k v := by
  have hr : (m.anonymous.bindings k).resolve v = (m.bindings k).resolve v := by
    rcases h with hk | hv
    · rw [bindings_anonymous m hk]
    · rcases v with ⟨loc, i | n⟩
      · rfl
      · cases hv
  rw [index?, index?, hr, size, size, positions_anonymous]

lemma index?_bind_anonymous {α : Type} {k : SpaceKind} {item? item?' : Nat → Option α} (hk : k ≠ .funcs)
    (hi : ∀ i, item?' i = item? i) (v : Var) : (m.anonymous.index? k v).bind item?' = (m.index? k v).bind item? := by
  rw [m.index?_anonymous (.inl hk)]
  exact congrArg _ (funext hi)

lemma func?_anonymous (i : Nat) : m.anonymous.func? i = (m.func? i).map Func.anonymous := by
  rw [func?, func?, entry?_anonymous, Option.bind_map, Option.map_bind]
  exact congrArg _ (funext fun f => Field.func?_mapFunc?)

lemma start?_anonymous : m.anonymous.start? = m.start? := by
  have hs (p : Nat) : m.anonymous.fields[p]? = m.fields[p]?.map Field.anonymous := Array.getElem?_map
  have hp : m.anonymous.startField = m.startField := rfl
  rw [start?, start?, hp, Option.bind_assoc, Option.bind_assoc]
  refine congrArg _ (funext fun p => ?_)
  rw [hs, Option.bind_map]
  exact congrArg _ (funext fun f => f.others_anonymous.2.2.2)

lemma mirrored_anonymous : m.Mirrored m.anonymous := by
  have hm (f : Field) := Field.others_mapFunc? (f := f) (r := Func.anonymous)
  have htable := m.entry?_bind_anonymous (fun f => f.others_anonymous.1) .tables
  have hmemory := m.entry?_bind_anonymous (fun f => f.others_anonymous.2.1) .memories
  have hexport := m.entry?_bind_anonymous (fun f => f.others_anonymous.2.2.1) .exports
  have htype := m.entry?_bind_anonymous (fun f => (hm f).1) .types
  have hglobal := m.entry?_bind_anonymous (fun f => (hm f).2.1) .globals
  have hexcept := m.entry?_bind_anonymous (fun f => (hm f).2.2.1) .excepts
  constructor
  case unnamed => exact ⟨rfl, rfl⟩
  case placed =>
    refine ⟨rfl, ?_⟩
    rw [anonymous, Array.toList_map, List.map_map]
    exact List.map_congr_left fun f _ => f.loc_anonymous
  case start? => exact m.start?_anonymous
  case positions => exact m.positions_anonymous
  case importCount => exact fun k => m.imported_anonymous k.space
  case bindings => exact fun k => m.bindings_anonymous
  case index? => exact fun k v => m.index?_anonymous
  case func? => exact m.func?_anonymous
  case imported? =>
    intro i
    rw [Module.import?, Module.import?, entry?_anonymous, Option.bind_map, Option.map_bind]
    exact congrArg _ (funext Field.import?_anonymous)
  case table? => exact htable
  case memory? => exact hmemory
  case export? => exact hexport
  case type? => exact htype
  case global? => exact hglobal
  case except? => exact hexcept
  case elem? => exact m.entry?_bind_anonymous (fun f => (hm f).2.2.2.1) .elems
  case data? => exact m.entry?_bind_anonymous (fun f => (hm f).2.2.2.2) .datas
  case getFunc? =>
    intro v hv
    rw [getFunc?, getFunc?, m.index?_anonymous (.inr hv), Option.map_bind]
    exact congrArg _ (funext m.func?_anonymous)
  case getTable? => exact m.index?_bind_anonymous (by decide) htable
  case getMemory? => exact m.index?_bind_anonymous (by decide) hmemory
  case getGlobal? => exact m.index?_bind_anonymous (by decide) hglobal
  case getExcept? => exact m.index?_bind_anonymous (by decide) hexcept
  case getType? => exact m.index?_bind_anonymous (by decide) htype
  case getExport? =>
    intro n
    rw [getExport?, getExport?, m.bindings_anonymous (by decide)]
    exact congrArg _ (funext fun b => hexport b.index)
  case localIndex? =>
    rintro f ⟨loc, i | n⟩ hv
    · rfl
    · cases hv

end Module

end WasmTree
