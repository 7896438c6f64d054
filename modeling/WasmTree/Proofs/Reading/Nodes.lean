import WasmTree.Load
import WasmTree.Proofs.Binary.Offsets
import WasmTree.Proofs.Folding.Nesting
import WasmTree.Proofs.Reading.Bodies

/-! What a walk meets in the bodies that were folded, and where it stands in a binary. -/

namespace WasmTree

open WasmTree.Expr Folding

/-- The nodes of a sequence stand in a binary, one after the other. -/
def Expr.Ascending (l : List Expr) : Prop :=
  ∃ offsets : List Nat, (treeNodes l).toList.map (fun n => n.2.loc) = offsets.map Location.binary ∧
    offsets.Pairwise (· < ·)

lemma ascending_nil : Ascending [] := ⟨[], by simp [toList_treeNodes, preorder], .nil⟩

lemma ascending_of_fold {s : FoldSetting} {b : WireBody} {l : List Expr} (hb : Binary.Ordered b)
    (h : fold s b.placed = .ok l) : Ascending l := by
  have hm : b.placed.map Prod.fst = (b.operators.items.map Located.offset).map Location.binary := by
    rw [WireBody.placed, List.map_map, List.map_map]
    rfl
  have hs := locs_sublist h
  rw [hm] at hs
  obtain ⟨offsets, ho, hl⟩ := List.sublist_map_iff.mp hs
  have hp : (b.operators.items.map Located.offset).Pairwise (· < ·) := List.pairwise_map.mpr hb
  exact ⟨offsets, hl, hp.sublist ho⟩

lemma ascending_of_readBinary {o : ReadOptions} {bytes : List UInt8} {m : Module} {i : Nat} {f : Func}
    (h : readBinary o bytes = .ok m) (hf : m.func? i = some f) : Ascending f.body := by
  obtain ⟨hm, hl⟩ := layout_of_readPayloads h
  obtain ⟨x, hx, hxf⟩ := hm.exists_of_func? hf
  rcases hl.fold_of_func? hx hxf with he | ⟨b, types, hb, hr⟩
  · exact he ▸ ascending_nil
  · exact ascending_of_fold (Binary.ordered_of_mem_payloads (Batch.body_mem_items hb)) hr

def branching : List (Location × Operator) :=
  [(.binary 1, .tryBody .empty), (.binary 2, .plain (.bare .nop)), (.binary 3, .catchTag 0), (.binary 4, .ifThen .empty),
    (.binary 5, .elseBranch), (.binary 6, .block .loop .empty), (.binary 7, .finish), (.binary 8, .finish),
    (.binary 9, .catchAll), (.binary 10, .plain (.const (.i32 7))), (.binary 11, .finish), (.binary 12, .finish)]

/-- A block around nothing much, and an `if` with both of its branches. -/
def branchingBytes : List UInt8 :=
  [0x00, 0x61, 0x73, 0x6D, 0x01, 0x00, 0x00, 0x00, 0x01, 0x04, 0x01, 0x60, 0x00, 0x00, 0x03, 0x02, 0x01, 0x00,
   0x0A, 0x10, 0x01, 0x0E, 0x00, 0x02, 0x40, 0x01, 0x0B, 0x41, 0x00, 0x04, 0x40, 0x01, 0x05, 0x01, 0x0B, 0x0B]

end WasmTree
