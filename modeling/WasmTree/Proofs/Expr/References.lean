import Mathlib.Data.Prod.Lex
import WasmTree.Expr.Vars
import WasmTree.Proofs.Expr.Addresses
import WasmTree.Proofs.Module.Consistency

/-!
The references of a tree: where they are written, in which order a resolver meets them, and what is left
of a node when it rewrites them.
-/

namespace WasmTree

namespace Enumerates

variable {κ κ' α β : Type} {r : κ → κ → Prop} {s : κ' → κ' → Prop}

lemma exists_flatMap {f : κ → Option α} {ks : List κ} {xs : List α} {g : α → κ' → Option β} {h : α → List β}
    (hf : Enumerates r f ks xs) (hg : ∀ x, ∃ js, Enumerates s (g x) js (h x)) :
    ∃ ps : List (κ × κ'), Enumerates (Prod.Lex r s) (fun p => (f p.1).bind (g · p.2)) ps (xs.flatMap h) := by
  choose js hj using hg
  have hm (p : κ × κ') : p ∈ ks.flatMap (fun k => ((f k).elim [] js).map (k, ·)) ↔
      ((f p.1).bind (g · p.2)).isSome := by
    rcases p with ⟨k, j⟩
    have hk := hf.mem_iff k
    cases hx : f k with
    | none => simp_all
    | some x => simp_all [(hj x).mem_iff j]
  refine ⟨ks.flatMap fun k => ((f k).elim [] js).map (k, ·), ?_, hm, ?_⟩
  · refine List.pairwise_flatMap.mpr ⟨fun k _ => List.pairwise_map.mpr ?_, hf.sorted.imp ?_⟩
    · cases f k with
      | none => exact .nil
      | some x => exact (hj x).sorted.imp (Prod.Lex.right k)
    · intro k k' hk p hp p' hp'
      obtain ⟨j, -, rfl⟩ := List.mem_map.mp hp
      obtain ⟨j', -, rfl⟩ := List.mem_map.mp hp'
      exact .left j j' hk
  · have hk (k : κ) : (((f k).elim [] js).map (k, ·)).map (fun p => (f p.1).bind (g · p.2)) =
        ((f k).elim [] h).map some := by
      rw [List.map_map]
      cases hx : f k with
      | none => rfl
      | some x => simpa [Function.comp_def, hx] using (hj x).map_eq
    have hfm : ks.flatMap (fun k => ((f k).elim [] h).map some) =
        (ks.map f).flatMap fun o => (o.elim [] h).map some := by rw [List.flatMap_map]
    rw [List.map_flatMap, funext hk, hfm, hf.map_eq, List.flatMap_map, List.map_flatMap]
    rfl

lemma of_filter (l : List α) (p : α → Bool) (g : α → β) :
    Enumerates (· < ·) (fun i => (l[i]?.filter p).map g) (l.findIdxs p) ((l.filter p).map g) where
  sorted := List.pairwise_findIdxs
  mem_iff i := by
    rw [List.mem_findIdxs_iff_exists_getElem_pos, Option.isSome_map, Option.isSome_filter]
    by_cases hi : i < l.length <;> simp [hi]
  map_eq := by
    have h := congrArg (List.map fun o : Option α => (o.filter p).map g) (@map_getElem?_findIdxs α p l)
    rw [List.map_map, List.map_map] at h
    apply h.trans
    rw [List.map_map]
    apply List.map_congr_left
    intro a ha
    simp [Option.filter, (List.mem_filter.mp ha).2]

lemma of_list (l : List α) : Enumerates (· < ·) (l[·]?) (List.range l.length) l where
  sorted := List.pairwise_lt_range
  mem_iff i := by simp
  map_eq := List.ext_getElem (by simp) fun i hi _ => by simp

end Enumerates

namespace Expr

def handlers : Expr → List (Handler Expr)
  | tryCatch _ _ _ handlers => handlers
  | _ => []

/-- Everything written in a node that refers to something or marks that it does not. -/
def written : Expr → List Var
  | plain _ (.reference _ v) => [v]
  | plain _ (.callIndirect type) => [type]
  | plain _ (.brTable targets fallback) => targets ++ [fallback]
  | plain _ (.bare _) | plain _ (.memory _) | plain _ (.const _) | plain _ (.numeric ..) | plain _ (.access ..) => []
  | block .. | ifElse .. => []
  | tryCatch _ _ _ handlers => handlers.map Handler.var

/-- The reference written at a place of a node, unless the handler in this place catches everything. -/
def reference? (e : Expr) (j : Nat) : Option Var :=
  if e.handlers[j]?.any Handler.catchesAll then none else e.written[j]?

def referenceAt? (l : List Expr) (k : List Nat × Nat) : Option Var := (at? l k.1).bind (·.reference? k.2)

def references (l : List Expr) : List Var := (treeNodes l).toList.flatMap fun n => n.2.vars

lemma reference?_of_handlers {e : Expr} (h : e.handlers = []) : e.reference? = fun j => e.written[j]? := by
  funext j
  simp [reference?, h]

lemma exists_enumerates_vars (e : Expr) : ∃ js, Enumerates (· < ·) e.reference? js e.vars := by
  cases e with
  | plain loc i =>
    have hw : (plain loc i).vars = (plain loc i).written := by cases i <;> rfl
    rw [reference?_of_handlers rfl, hw]
    exact ⟨_, .of_list _⟩
  | block =>
    rw [reference?_of_handlers rfl]
    exact ⟨_, .of_list []⟩
  | ifElse =>
    rw [reference?_of_handlers rfl]
    exact ⟨_, .of_list []⟩
  | tryCatch loc heading body handlers =>
    have hr : (tryCatch loc heading body handlers).reference? =
        fun j => (handlers[j]?.filter fun h => !h.catchesAll).map Handler.var := by
      funext j
      cases hj : handlers[j]? with
      | none => simp [reference?, written, hj]
      | some h => cases hc : h.catchesAll <;> simp [reference?, written, Expr.handlers, hj, hc, Option.filter]
    rw [hr]
    exact ⟨_, .of_filter handlers _ _⟩

lemma exists_enumerates_references (l : List Expr) :
    ∃ ks, Enumerates (Prod.Lex (· < ·) (· < ·)) (referenceAt? l) ks (references l) := by
  obtain ⟨ps, hp⟩ := exists_enumerates_preorder l
  rw [← toList_treeNodes] at hp
  obtain ⟨ks, hk⟩ := hp.exists_flatMap fun n => exists_enumerates_vars n.2
  refine ⟨ks, ?_⟩
  have hv : referenceAt? l = fun k => (visit? l k.1).bind fun n => n.2.reference? k.2 := by
    funext k
    simp only [referenceAt?, visit?, Option.bind_map, Function.comp_def]
  rw [hv]
  exact hk

end Expr

end WasmTree
