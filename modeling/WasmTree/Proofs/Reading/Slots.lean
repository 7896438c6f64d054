import WasmTree.Load
import WasmTree.Proofs.Reading.Bodies
import WasmTree.Proofs.Reading.Names

/-!
Whether the slots that are found in a function are slots it has. An index is checked, whereas a name
stands for whatever index was listed with it.
-/

namespace WasmTree

lemma slotNamed_mem {params : Nat} {slots : List (UInt32 × String)} {n : String} {j : UInt32}
    (h : slotNamed params slots n = some j) : j ∈ slots.map Prod.fst := by
  obtain ⟨x, hx, rfl⟩ := Option.map_eq_some_iff.mp h
  have hm : x ∈ slots := by
    rcases Option.or_eq_some_iff.mp hx with hx | ⟨-, hx⟩
    · exact List.mem_of_find?_eq_some hx
    · exact List.mem_of_find?_eq_some hx
  exact List.mem_map_of_mem hm

namespace Func

variable {f : Func}

lemma isSome_slotType?_iff {i : Nat} : (f.slotType? i).isSome ↔ i < f.slotCount := by
  rw [slotType?, slotCount]
  split
  · rename_i hi
    simp only [List.getElem?_eq_getElem hi, Option.isSome_some, true_iff]
    omega
  · rw [isSome_getElem?]
    omega

lemma holds_of_localIndex? {loc : Location} {s : String} {i : Nat} (h : f.localIndex? ⟨loc, .name s⟩ = some i) :
    ∃ b, f.paramBindings.Holds (s, b) ∨ f.localBindings.Holds (s, b) := by
  simp only [localIndex?] at h
  cases hp : f.paramBindings.find? s with
  | some b => exact ⟨b, .inl (.inl hp)⟩
  | none =>
    rw [hp] at h
    obtain ⟨b, hb, -⟩ := Option.map_eq_some_iff.mp h
    exact ⟨b, .inr (.inl hb)⟩

lemma Named.localIndex?_eq_some {name? : Option String} {slots : List (UInt32 × String)} (h : f.Named name? slots)
    {loc : Location} {s : String} {i : Nat} (hi : f.localIndex? ⟨loc, .name s⟩ = some i) :
    ∃ n j, slotNamed f.params.length slots n = some j ∧ j.toNat = i := by
  obtain ⟨b, hb⟩ := holds_of_localIndex? hi
  obtain ⟨x, rfl⟩ : ∃ x : UInt32 × String, s = DebugNames.marked x.2 := by
    by_contra hn
    have hu := h.unbound s b fun x _ hx => hn ⟨x, hx⟩
    exact hb.elim hu.1 hu.2
  rw [h.localIndex?_eq] at hi
  obtain ⟨j, hj, hi⟩ := Option.map_eq_some_iff.mp hi
  exact ⟨x.2, j, hj, hi⟩

end Func

/-- A function finds nothing but slots it has, unless a name is listed for an index beyond them. -/
theorem localIndex?_lt_slotCount_iff {o : ReadOptions} {ps : Batch Payload} {m : Module} {i : Nat} {f : Func}
    (h : readPayloads o ps = .ok m) (hf : m.func? i = some f) :
    (∀ v j, f.localIndex? v = some j → j < f.slotCount ∧ (f.slotType? j).isSome) ↔
      ∀ n j, slotNamed f.params.length ((lastOf i (localLists o ps.entries)).getD []) n = some j →
        j.toNat < f.slotCount := by
  have hn := func?_named h hf
  constructor
  · intro hv n j hj
    have hi := hn.localIndex?_eq .unknown n
    rw [hj, Option.map_some] at hi
    exact (hv _ _ hi).1
  · intro hs v j hj
    rw [Func.isSome_slotType?_iff, and_self]
    rcases v with ⟨loc, k | s⟩
    · obtain ⟨hlt, hj⟩ := Option.ite_none_right_eq_some.mp hj
      exact Option.some.inj hj ▸ hlt
    · obtain ⟨n, k, hk, rfl⟩ := hn.localIndex?_eq_some hj
      exact hs n k hk

def lastNamed : Batch Payload where
  items := [.types 10 ⟨[⟨[.number .i32], []⟩], true⟩, .functions ⟨[⟨40, 0⟩], true⟩, .body (oneLocal .i64),
    .names ⟨[.locals ⟨[(0, ⟨[(1, "x")], true⟩)], true⟩], true⟩]
  complete := true

theorem localIndex?_lastNamed : ∃ m f, readPayloads ⟨true, true⟩ lastNamed = .ok m ∧ m.func? 0 = some f ∧
    f.slotCount = 2 ∧ ∀ v j, f.localIndex? v = some j → j < f.slotCount ∧ (f.slotType? j).isSome := by
  have hr : ((readPayloads ⟨true, true⟩ lastNamed).toOption.bind (·.func? 0)).map
      Func.slotCount = some 2 := by decide +kernel
  obtain ⟨m, f, h, hf, hs⟩ := exists_func?_of_map hr
  refine ⟨m, f, h, hf, hs, (localIndex?_lt_slotCount_iff h hf).mpr fun n j hj => ?_⟩
  have hl : (lastOf 0 (localLists ⟨true, true⟩ lastNamed.entries)).getD [] = [(1, "x")] := rfl
  rw [hl] at hj
  obtain rfl : j = 1 := by simpa using slotNamed_mem hj
  rw [hs]
  decide

/-- The only local that is listed has the name `x` and index 7, in a function without any. -/
def stray : List UInt8 :=
  [0x00, 0x61, 0x73, 0x6D, 0x01, 0x00, 0x00, 0x00, 0x01, 0x04, 0x01, 0x60, 0x00, 0x00, 0x03, 0x02, 0x01, 0x00,
   0x0A, 0x04, 0x01, 0x02, 0x00, 0x0B, 0x00, 0x0D, 0x04, 0x6E, 0x61, 0x6D, 0x65, 0x02, 0x06, 0x01, 0x00, 0x01,
   0x07, 0x01, 0x78]

theorem readBinary_stray : ∃ m f, readBinary ⟨true, true⟩ stray = .ok m ∧ m.func? 0 = some f ∧
    f.localIndex? (.ofName "$x") = some 7 ∧ f.slotCount = 0 := by
  have hr : ((readBinary ⟨true, true⟩ stray).toOption.bind (·.func? 0)).map
      (fun f => (f.localIndex? (.ofName "$x"), f.slotCount)) = some (some 7, 0) := by decide +kernel
  obtain ⟨m, f, h, hf, hx⟩ := exists_func?_of_map hr
  obtain ⟨hx, hs⟩ := Prod.mk.inj hx
  exact ⟨m, f, h, hf, hx, hs⟩

end WasmTree
