import Hub75.Scan.Chain
import Hub75.Scan.Links

namespace Hub75
namespace Driver
namespace Gpdma

open Machine Gpdma2d

/-!
# What each item asks of the channel

An item of the linear table streams one visit of one segment, and an item of the 2D
table all visits of a segment in a row.  Only the terminal item asks for the
transfer-complete interrupt.  Listing the segments of the items, each as often as its
item streams it, gives one frame in both backends.
-/

namespace Backend

/-- The segment that item `i` streams. -/
def segment : Backend -> Layout -> Nat -> Nat
  | linear, layout, i => (weighted layout.reps layout.count)[i]?.getD 0
  | twoD, _, i => i

/-- How often it does. -/
def weight : Backend -> Layout -> Nat -> Nat
  | linear, _, _ => 1
  | twoD, layout, i => layout.reps i

/-- What item `i` of `n` is written for. -/
def itemPlan (backend : Backend) (layout : Layout) (n i : Nat) : BlockPlan where
  transferCompleteMode := if i + 1 = n then .eachLinkedListItem else .lastLinkedListItem
  blockRepeatCount := backend.weight layout i - 1
  blockSrcAddrOffset :=
    match backend with
    | linear => 0
    | twoD => -(layout.len i)

variable {backend : Backend} {layout : Layout} {n i : Nat}

theorem offset_eq (backend : Backend) (layout : Layout) (i : Nat) :
    backend.offset layout i = layout.offset (backend.segment layout i) := by
  cases backend <;> rfl

/-- A repeated block goes back by its own length. -/
theorem itemPlan_back (backend : Backend) (layout : Layout) (n i : Nat) :
    (backend.itemPlan layout n i).blockRepeatCount = 0 ∨
      (backend.itemPlan layout n i).blockSrcAddrOffset =
        -(layout.len (backend.segment layout i) : Int) := by
  cases backend with
  | linear => exact Or.inl rfl
  | twoD => exact Or.inr rfl

variable {profile : Profile} {api : ItemApi backend.Config backend.Item}
  {reading : Reading backend.Item} {address base odrAddr : Addr}
  {items0 items : Vector backend.Item backend.capacity} {wordSize : WordSize} {request : Nat}

/-- The segments of the items, as often as they are streamed. -/
theorem map_segment (built : backend.build profile api address items0 (layout.instanceAt base)
    odrAddr wordSize request = .ok (items, n)) :
    (weighted (backend.weight layout) n).map (backend.segment layout) =
      weighted layout.reps layout.count := by
  cases backend with
  | linear =>
      rcases buildItemChain_eq_ok_iff.mp built with ⟨_, _, total, _⟩
      have length : n = (weighted layout.reps layout.count).length :=
        total.trans (length_linearSlots (layout.instanceAt base)).symm
      have ones : weighted (linear.weight layout) n = List.range n := weighted_one n
      rw [ones]
      apply List.ext_getElem
      · rw [List.length_map, List.length_range, length]
      · intro k _ inside
        simp only [List.getElem_map, List.getElem_range, segment, List.getElem?_eq_getElem inside,
          Option.getD_some]
  | twoD =>
      rcases buildItemChain2d_eq_ok_iff.mp built with ⟨_, total, _⟩
      subst total
      exact List.map_id _

/-- Every item streams a segment of the layout, at least once. -/
theorem segment_lt (built : backend.build profile api address items0 (layout.instanceAt base)
    odrAddr wordSize request = .ok (items, n)) (active : i < n) :
    backend.segment layout i < layout.count ∧ 0 < backend.weight layout i := by
  cases backend with
  | linear =>
      rcases buildItemChain_eq_ok_iff.mp built with ⟨_, _, total, _⟩
      have length : n = (weighted layout.reps layout.count).length :=
        total.trans (length_linearSlots (layout.instanceAt base)).symm
      have inside : i < (weighted layout.reps layout.count).length := length ▸ active
      refine ⟨?_, Nat.one_pos⟩
      simp only [segment, List.getElem?_eq_getElem inside, Option.getD_some]
      exact (mem_weighted.mp (List.getElem_mem inside)).1
  | twoD =>
      rcases buildItemChain2d_eq_ok_iff.mp built with ⟨_, total, _, written, _⟩
      rcases written i active with ⟨_, encoded, _⟩
      exact ⟨active.trans_eq total, (chainItem2d_eq_ok_iff.mp encoded).1.1⟩

/-- What is written is what was planned. -/
theorem build_encodes (lawful : Lawful api reading backend.plan)
    (built : backend.build profile api address items0 (layout.instanceAt base) odrAddr wordSize
      request = .ok (items, n)) (active : i < n) :
    Exists fun d => items[i]? = some d ∧
      Encodes reading d (base + backend.offset layout i)
        (layout.len (backend.segment layout i) / wordSize.bytes * wordSize.bytes)
        (backend.itemPlan layout n i)
        (itemOffset (itemAddress address backend.itemSize (nextSlot n i)) &&& 0xFFFC) := by
  cases backend with
  | linear =>
      rcases buildItemChain_eq_ok_iff.mp built with ⟨_, _, total, _, written, _⟩
      have slot : i < (linearSlots (layout.instanceAt base)).length := by
        rw [length_linearSlots, ← total]
        exact active
      have found := List.getElem?_eq_getElem slot
      have place : (weighted layout.reps layout.count)[i]? =
          some (linearSlots (layout.instanceAt base))[i] := found
      rcases written i _ found with ⟨item, encoded, stored⟩
      have encodes := encodeItem_encodes lawful encoded
      refine ⟨item, stored, ?_⟩
      simp only [offset_eq, segment, place, Option.getD_some]
      refine { encodes with transferCompleteMode := encodes.transferCompleteMode.trans ?_ }
      simp only [itemPlan]
      split <;> rfl
  | twoD =>
      rcases buildItemChain2d_eq_ok_iff.mp built with ⟨_, total, _, written, _⟩
      rcases written i active with ⟨item, encoded, stored⟩
      rcases chainItem2d_eq_ok_iff.mp encoded with ⟨_, _, encoded⟩
      subst total
      rw [nextSlot_eq active] at encoded
      exact ⟨item, stored, encodeItem_encodes lawful encoded⟩

end Backend
end Gpdma
end Driver
end Hub75
