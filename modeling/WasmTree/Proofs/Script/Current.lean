import Mathlib.Data.List.Induction
import Mathlib.Tactic.Lemma
import WasmTree.Script.Basic

/-!
Which module an action without a reference acts on. While a script is replayed it is the current one;
the script as a whole answers with the module it defines last, wherever the action stands.
-/

namespace WasmTree

lemma Command.module?_of_action {c : Command} {a : Action} (h : c.action? = some a) : c.module? = none := by
  cases c <;> first | rfl | simp [action?] at h

namespace Script

def built (cs : List Command) : Script := cs.foldl append empty

/-- The module that is current once the commands were replayed: each definition takes over. -/
def current? (cs : List Command) : Option Module := cs.foldl (fun current c => c.module?.or current) none

variable {cs : List Command}

lemma built_concat (cs : List Command) (c : Command) : built (cs ++ [c]) = (built cs).append c := by
  rw [built, List.foldl_append]
  rfl

lemma commands_built (cs : List Command) : (built cs).commands.toList = cs := by
  induction cs using List.reverseRecOn with
  | nil => rfl
  | append_singleton cs c ih =>
    have hc : ((built cs).append c).commands = (built cs).commands.push c := rfl
    rw [built_concat, hc, Array.toList_push, ih]

lemma current?_concat (cs : List Command) (c : Command) :
    current? (cs ++ [c]) = c.module?.or (current? cs) := by
  rw [current?, List.foldl_append]
  rfl

lemma current?_append (cs ds : List Command) : current? (cs ++ ds) = (current? ds).or (current? cs) := by
  induction ds using List.reverseRecOn with
  | nil => simp [current?]
  | append_singleton ds d ih => rw [← List.append_assoc, current?_concat, current?_concat, ih, Option.or_assoc]

lemma current?_eq_none_iff : current? cs = none ↔ ∀ c ∈ cs, c.module? = none := by
  induction cs using List.reverseRecOn with
  | nil => simp [current?]
  | append_singleton cs c ih =>
    rw [current?_concat, Option.or_eq_none_iff, ih]
    simp [or_imp, forall_and, and_comm]

lemma current?_eq_some_iff {m : Module} : current? cs = some m ↔
    ∃ before after, cs = before ++ .module m :: after ∧ ∀ c ∈ after, c.module? = none := by
  constructor
  · induction cs using List.reverseRecOn with
    | nil => simp [current?]
    | append_singleton cs c ih =>
      rw [current?_concat]
      cases hc : c.module? with
      | some m' =>
        rintro ⟨⟩
        have : c = .module m := by cases c <;> simp_all [Command.module?]
        exact ⟨cs, [], by rw [this], by simp⟩
      | none =>
        intro h
        obtain ⟨before, after, rfl, ha⟩ := ih h
        refine ⟨before, after ++ [c], by simp, fun d hd => ?_⟩
        rcases List.mem_append.mp hd with hd | hd
        · exact ha d hd
        · exact List.mem_singleton.mp hd ▸ hc
  · rintro ⟨before, after, rfl, ha⟩
    rw [← List.singleton_append, ← List.append_assoc, current?_append, current?_concat,
      current?_eq_none_iff.mpr ha]
    rfl

lemma lastModule?_built (cs : List Command) : (built cs).lastModule? = current? cs := by
  rw [lastModule?, commands_built]
  induction cs using List.reverseRecOn with
  | nil => rfl
  | append_singleton cs c ih =>
    rw [current?_concat, List.reverse_concat, List.findSome?_cons, ih]
    cases c.module? <;> rfl

variable {p : Nat} {c : Command} {a : Action}

lemma actionModule?_built (hm : a.module = none) : (built cs).actionModule? a = current? cs := by
  rw [actionModule?, hm]
  exact lastModule?_built cs

lemma current?_take_succ (hp : cs[p]? = some c) (ha : c.action? = some a) :
    current? (cs.take (p + 1)) = current? (cs.take p) := by
  have ht : cs.take (p + 1) = cs.take p ++ [c] := by simp [List.take_add_one, hp]
  rw [ht, current?_concat, Command.module?_of_action ha]
  rfl

/-- When an action is appended, it acts on the module that is current. It still does in the end if and
only if no module is defined later, or none but that one. -/
theorem actionModule?_eq_current?_iff (hp : cs[p]? = some c) (ha : c.action? = some a)
    (hm : a.module = none) :
    (built (cs.take (p + 1))).actionModule? a = current? (cs.take p) ∧
      ((built cs).actionModule? a = current? (cs.take p) ↔
        ∀ m, current? (cs.drop (p + 1)) = some m → current? (cs.take p) = some m) := by
  have ht := current?_take_succ hp ha
  have hc : current? cs = (current? (cs.drop (p + 1))).or (current? (cs.take p)) := by
    rw [← ht, ← current?_append, List.take_append_drop]
  rw [actionModule?_built hm, actionModule?_built hm, hc]
  refine ⟨ht, ?_⟩
  cases current? (cs.drop (p + 1)) with
  | none => simp
  | some m => simp [eq_comm]

def defining (name : String) : Command := .module { Module.empty with name := some name }

def run : Action := ⟨.unknown, none, "run", .invoke []⟩

def twoModules : List Command := [defining "$A", .action run, defining "$B", .assertReturn run []]

theorem actionModule?_twoModules :
    twoModules[3]? = some (.assertReturn run []) ∧ (Command.assertReturn run []).action? = some run ∧
      run.module = none ∧ (built twoModules).actionModule? run = current? (twoModules.take 3) ∧
      (current? (twoModules.take 3)).bind Module.name = some "$B" := by
  have hp : twoModules[3]? = some (.assertReturn run []) := rfl
  obtain ⟨-, hiff⟩ := actionModule?_eq_current?_iff hp rfl rfl
  exact ⟨hp, rfl, rfl, hiff.mpr (by simp [twoModules, current?]), by decide⟩

/-- The action between the modules was written for the first and ends up with the second. -/
theorem actionModule?_twoModules_ne :
    twoModules[1]? = some (.action run) ∧ run.module = none ∧
      (built twoModules).actionModule? run ≠ current? (twoModules.take 1) := by
  refine ⟨rfl, rfl, fun h => ?_⟩
  have hb : ((built twoModules).actionModule? run).bind Module.name = some "$B" := by decide
  have ha : (current? (twoModules.take 1)).bind Module.name = some "$A" := by decide
  rw [h, ha] at hb
  exact absurd hb (by decide)

end Script

end WasmTree
