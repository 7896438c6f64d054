import Mathlib.Data.Set.Card
import Mathlib.Data.List.Induction
import WasmTree.Proofs.Expr.Walk

/-!
The nodes of a tree by their addresses. An address leads down from a sequence: the number of a node, then
by turns that of a sequence nested in the node and that of a node of this sequence.
-/

namespace WasmTree

/-- The values of a partial function, each once, in the order of their keys. -/
structure Enumerates {κ α : Type} (r : κ → κ → Prop) (f : κ → Option α) (ks : List κ) (xs : List α) : Prop where
  sorted : ks.Pairwise r
  mem_iff : ∀ k, k ∈ ks ↔ (f k).isSome
  map_eq : ks.map f = xs.map some

namespace Enumerates

variable {κ α β : Type} {r : κ → κ → Prop} {f g h : κ → Option α} {ks js : List κ} {xs ys : List α}

lemma length_eq (hf : Enumerates r f ks xs) : ks.length = xs.length := by
  simpa using congrArg List.length hf.map_eq

lemma ncard_eq [Std.Irrefl r] (hf : Enumerates r f ks xs) : {k | (f k).isSome}.ncard = xs.length := by
  classical
  have hn : ks.Nodup := by
    refine hf.sorted.imp ?_
    rintro k _ hr rfl
    exact Std.Irrefl.irrefl k hr
  have hs : {k | (f k).isSome} = ↑ks.toFinset := by
    ext k
    simp [hf.mem_iff k]
  rw [hs, Set.ncard_coe_finset, List.toFinset_card_of_nodup hn, hf.length_eq]

lemma append (hf : Enumerates r f ks xs) (hg : Enumerates r g js ys) (hr : ∀ k ∈ ks, ∀ j ∈ js, r k j)
    (hh : ∀ k x, h k = some x ↔ f k = some x ∨ g k = some x) : Enumerates r h (ks ++ js) (xs ++ ys) where
  sorted := List.pairwise_append.mpr ⟨hf.sorted, hg.sorted, hr⟩
  mem_iff k := by
    rw [List.mem_append, hf.mem_iff, hg.mem_iff]
    simp only [Option.isSome_iff_exists, hh, exists_or]
  map_eq := by
    have hk : ks.map h = ks.map f := by
      apply List.map_congr_left
      intro k hk
      obtain ⟨x, hx⟩ := Option.isSome_iff_exists.mp ((hf.mem_iff k).mp hk)
      rw [hx, (hh k x).mpr (.inl hx)]
    have hj : js.map h = js.map g := by
      apply List.map_congr_left
      intro j hj
      obtain ⟨x, hx⟩ := Option.isSome_iff_exists.mp ((hg.mem_iff j).mp hj)
      rw [hx, (hh j x).mpr (.inr hx)]
    rw [List.map_append, List.map_append, hk, hj, hf.map_eq, hg.map_eq]

lemma map_key {κ' : Type} {r' : κ' → κ' → Prop} {f' : κ' → Option α} {φ : κ → κ'} (hf : Enumerates r f ks xs)
    (hr : ∀ k j, r k j → r' (φ k) (φ j)) (hφ : ∀ k, f' (φ k) = f k) (hn : ∀ k, (f' k).isSome → ∃ j, φ j = k) :
    Enumerates r' f' (ks.map φ) xs where
  sorted := List.pairwise_map.mpr (hf.sorted.imp (hr _ _))
  mem_iff k := by
    rw [List.mem_map]
    constructor
    · rintro ⟨j, hj, rfl⟩
      rw [hφ]
      exact (hf.mem_iff j).mp hj
    · intro hk
      obtain ⟨j, rfl⟩ := hn k hk
      exact ⟨j, (hf.mem_iff j).mpr (hφ j ▸ hk), rfl⟩
  map_eq := by
    rw [List.map_map, ← hf.map_eq]
    apply List.map_congr_left
    intro k _
    exact hφ k

end Enumerates

section Indexed

variable {α β : Type}

/-- What the first number of an address picks from a list, and the rest of it finds from there. -/
def indexed (l : List β) (g : β → List Nat → Option α) : List Nat → Option α
  | [] => none
  | i :: p => l[i]?.bind (g · p)

def under (n : Nat) (f : List Nat → Option α) : List Nat → Option α
  | [] => none
  | i :: p => if i = n then f p else none

lemma exists_of_isSome_indexed {l : List β} {g : β → List Nat → Option α} {p : List Nat}
    (h : (indexed l g p).isSome) : ∃ i q, p = i :: q ∧ i < l.length := by
  cases p with
  | nil => cases h
  | cons i q =>
    refine ⟨i, q, rfl, Nat.not_le.mp fun hi => ?_⟩
    rw [indexed, List.getElem?_eq_none hi] at h
    cases h

lemma indexed_concat (l : List β) (b : β) (g : β → List Nat → Option α) (p : List Nat) (x : α) :
    indexed (l ++ [b]) g p = some x ↔ indexed l g p = some x ∨ under l.length (g b) p = some x := by
  cases p with
  | nil => simp [indexed, under]
  | cons i p =>
    rw [indexed, indexed, under]
    rcases Nat.lt_trichotomy i l.length with hi | rfl | hi
    · simp [List.getElem?_append_left hi, Nat.ne_of_lt hi]
    · simp
    · have hl : (l ++ [b]).length ≤ i := by simpa using hi
      simp [List.getElem?_eq_none hl, List.getElem?_eq_none (Nat.le_of_lt hi), Nat.ne_of_gt hi]

lemma Enumerates.under {r : Nat → Nat → Prop} {f : List Nat → Option α} {ks : List (List Nat)} {xs : List α}
    (h : Enumerates (List.Lex r) f ks xs) (n : Nat) :
    Enumerates (List.Lex r) (under n f) (ks.map (n :: ·)) xs := by
  refine h.map_key (fun _ _ => .cons) (fun k => if_pos rfl) fun k hk => ?_
  cases k with
  | nil => cases hk
  | cons i p =>
    by_cases hi : i = n
    · exact ⟨p, hi ▸ rfl⟩
    · rw [WasmTree.under, if_neg hi] at hk
      cases hk

lemma exists_enumerates_indexed {l : List β} {g : β → List Nat → Option α} {xs : β → List α}
    (h : ∀ b ∈ l, ∃ ks, Enumerates (· < ·) (g b) ks (xs b)) :
    ∃ ks, Enumerates (· < ·) (indexed l g) ks (l.flatMap xs) := by
  induction l using List.reverseRecOn with
  | nil =>
    refine ⟨[], .nil, fun k => ?_, rfl⟩
    cases k <;> simp [indexed]
  | append_singleton l b ih =>
    obtain ⟨ks, hk⟩ := ih fun c hc => h c (List.mem_append_left _ hc)
    obtain ⟨js, hj⟩ := h b List.mem_concat_self
    have hr : ∀ k ∈ ks, ∀ j ∈ js.map (l.length :: ·), k < j := by
      intro k hm j hj
      obtain ⟨i, p, rfl, hi⟩ := exists_of_isSome_indexed ((hk.mem_iff k).mp hm)
      obtain ⟨q, -, rfl⟩ := List.mem_map.mp hj
      exact List.cons_lt_cons_iff.mpr (.inl hi)
    have hb := hk.append (hj.under l.length) hr (indexed_concat l b g)
    rw [List.flatMap_append, List.flatMap_singleton]
    exact ⟨_, hb⟩

/-- From the last to the first, where an address still comes before those that go on from it. -/
lemma exists_enumerates_indexed_reverse {l : List β} {g : β → List Nat → Option α} {xs : β → List α}
    (h : ∀ b ∈ l, ∃ ks, Enumerates (List.Lex (· > ·)) (g b) ks (xs b)) :
    ∃ ks, Enumerates (List.Lex (· > ·)) (indexed l g) ks (l.reverse.flatMap xs) := by
  induction l using List.reverseRecOn with
  | nil =>
    refine ⟨[], .nil, fun k => ?_, rfl⟩
    cases k <;> simp [indexed]
  | append_singleton l b ih =>
    obtain ⟨ks, hk⟩ := ih fun c hc => h c (List.mem_append_left _ hc)
    obtain ⟨js, hj⟩ := h b List.mem_concat_self
    have hr : ∀ j ∈ js.map (l.length :: ·), ∀ k ∈ ks, List.Lex (· > ·) j k := by
      intro j hj k hm
      obtain ⟨i, p, rfl, hi⟩ := exists_of_isSome_indexed ((hk.mem_iff k).mp hm)
      obtain ⟨q, -, rfl⟩ := List.mem_map.mp hj
      exact .rel hi
    have hb := (hj.under l.length).append hk hr fun p x => (indexed_concat l b g p x).trans or_comm
    rw [List.reverse_concat, List.flatMap_cons]
    exact ⟨_, hb⟩

lemma exists_enumerates_cons {r : Nat → Nat → Prop} {f g : List Nat → Option α} {x : α} {ks : List (List Nat)}
    {xs : List α} (hg : Enumerates (List.Lex r) g ks xs) (hf : ∀ p, f p = if p = [] then some x else g p)
    (hn : g [] = none) : Enumerates (List.Lex r) f ([] :: ks) (x :: xs) := by
  -- the empty address is before all others
  have hx : Enumerates (List.Lex r) (fun p : List Nat => if p = [] then some x else none) [[]] [x] :=
    ⟨List.pairwise_singleton _ _, fun k => by by_cases hk : k = [] <;> simp [hk], rfl⟩
  refine hx.append hg (fun k hk j hj => ?_) fun p y => ?_
  · obtain rfl := List.mem_singleton.mp hk
    cases j with
    | nil => simpa [hn] using (hg.mem_iff []).mp hj
    | cons i p => exact .nil
  · rw [hf]
    by_cases hp : p = [] <;> simp [hp, hn]

end Indexed

namespace Expr

/-- The sequence that is nested in a node under a number. -/
def part? : Expr → Nat → Option (List Expr)
  | block _ _ _ body, 0 => some body
  | ifElse _ _ yes _, 0 => some yes
  | ifElse _ _ _ no, 1 => no
  | tryCatch _ _ body _, 0 => some body
  | tryCatch _ _ _ handlers, j + 1 => handlers[j]?.map Handler.body
  | _, _ => none

def below? (e : Expr) : List Nat → Option Expr
  | [] => some e
  | [_] => none
  | j :: i :: p => ((e.part? j).bind (·[i]?)).bind fun x => below? x p

/-- The node that an address leads to in a sequence. -/
def at? (l : List Expr) : List Nat → Option Expr
  | [] => none
  | i :: p => l[i]?.bind fun e => below? e p

lemma part?_eq (e : Expr) (j : Nat) : e.part? j = e.children[j]? := by
  cases e with
  | plain => rfl
  | block => cases j <;> rfl
  | ifElse loc heading yes no => rcases no with _ | no <;> rcases j with _ | _ | j <;> rfl
  | tryCatch => cases j <;> simp [part?, children]

/-- The node that an address leads to and its depth: any two numbers lead one sequence further down. -/
def visitBelow? (d : Nat) (e : Expr) (p : List Nat) : Option (Nat × Expr) :=
  (below? e p).map (d + p.length / 2, ·)

def visit? (l : List Expr) (p : List Nat) : Option (Nat × Expr) := (at? l p).map (p.tail.length / 2, ·)

lemma visitBelow?_eq (d : Nat) (e : Expr) (p : List Nat) :
    visitBelow? d e p =
      if p = [] then some (d, e) else indexed e.children (fun l => indexed l (visitBelow? (d + 1))) p := by
  rcases p with _ | ⟨j, _ | ⟨i, p⟩⟩
  · rfl
  · cases h : e.children[j]? <;> simp [visitBelow?, below?, indexed, h]
  · have hd : d + (j :: i :: p).length / 2 = d + 1 + p.length / 2 := by
      simp only [List.length_cons]
      omega
    rw [if_neg (List.cons_ne_nil _ _), visitBelow?, below?, hd, part?_eq, indexed, Option.bind_assoc,
      Option.map_bind]
    simp only [indexed, visitBelow?, Option.map_bind, Function.comp_def]

lemma visit?_eq (l : List Expr) : visit? l = indexed l (visitBelow? 0) := by
  funext p
  cases p with
  | nil => rfl
  | cons i p => simp only [visit?, at?, indexed, visitBelow?, Option.map_bind, Function.comp_def, List.tail_cons,
      Nat.zero_add]

lemma exists_enumerates_nodes (e : Expr) (d : Nat) : ∃ ps, Enumerates (· < ·) (visitBelow? d e) ps (nodes d e) := by
  induction e using nested_induction generalizing d with
  | step e ih =>
    have hc := exists_enumerates_indexed fun l hl => exists_enumerates_indexed fun x hx => ih l hl x hx (d + 1)
    obtain ⟨ps, hp⟩ := hc
    rw [nodes_eq]
    exact ⟨_, exists_enumerates_cons hp (visitBelow?_eq d e) rfl⟩

lemma exists_enumerates_preorder (l : List Expr) : ∃ ps, Enumerates (· < ·) (visit? l) ps (preorder l) := by
  rw [visit?_eq]
  exact exists_enumerates_indexed fun e _ => exists_enumerates_nodes e 0

/-- The nodes of a sequence in the order of the recursive definition, which is that of their addresses. -/
structure Walked (l : List Expr) (ns : List (Nat × Expr)) : Prop where
  drains : Drains [(0, l)] ns
  eq_preorder : ns = preorder l
  enumerates : ∃ ps, Enumerates (· < ·) (visit? l) ps ns

/-- A walk comes to its end, and until then meets every node there is once, in pre-order. -/
theorem walked_treeNodes (l : List Expr) :
    Walked l (treeNodes l).toList ∧ treeLength l = {p | (at? l p).isSome}.ncard := by
  obtain ⟨ps, hp⟩ := exists_enumerates_preorder l
  rw [← toList_treeNodes] at hp
  refine ⟨⟨drains_treeNodes l, toList_treeNodes l, ps, hp⟩, ?_⟩
  have hs : {p | (at? l p).isSome} = {p | (visit? l p).isSome} := by
    simp only [visit?, Option.isSome_map]
  rw [hs, hp.ncard_eq, treeLength, Array.length_toList]

end Expr

end WasmTree
