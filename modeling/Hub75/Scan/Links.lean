import Hub75.Driver.Channel
import Hub75.Scan.Encoding
import Hub75.Driver.Backend

namespace Hub75
namespace Driver
namespace Gpdma

open Machine Gpdma2d

/-!
# Links between descriptors

A link stores the lower half of an address, and of that only the bits above the
lowest two.  The channel completes it with the upper half of the table's own
address.  Whether it arrives where it should depends on where the linker has put
the table; the builders check one condition on the placement before they write
anything.  `assertOneRegion_eq_ok_iff` says what that check means for the bytes of
the table, and `linkAddress_itemOffset` that it is what the links need.
-/

/-! ## Halves of an address -/

/-- An address consists of its halves. -/
theorem address_split (address : Addr) :
    address.extractLsb' 16 16 ++ address.setWidth 16 = address := by
  apply BitVec.eq_of_getLsbD_eq
  intro i inside
  rw [BitVec.getLsbD_append]
  split
  · next low =>
      rw [BitVec.getLsbD_setWidth, decide_eq_true low, Bool.true_and]
  · next high =>
      have place : 16 + (i - 16) = i := by omega
      have upper : i - 16 < 16 := by omega
      rw [BitVec.getLsbD_extractLsb', decide_eq_true upper, Bool.true_and, place]

/-- A multiple of four loses nothing with its two lowest bits. -/
theorem and_linkMask {offset : BitVec 16} (aligned : offset.toNat % 4 = 0) :
    offset &&& 0xFFFC = offset := by
  have bit_zero : offset.getLsbD 0 = false := by
    rw [BitVec.getLsbD, Nat.testBit_eq_decide_div_mod_eq]
    apply decide_eq_false
    omega
  have bit_one : offset.getLsbD 1 = false := by
    rw [BitVec.getLsbD, Nat.testBit_eq_decide_div_mod_eq]
    apply decide_eq_false
    omega
  apply BitVec.eq_of_getLsbD_eq
  intro i inside
  rw [BitVec.getLsbD_and]
  match i, inside with
  | 0, _ => rw [bit_zero, Bool.false_and]
  | 1, _ => rw [bit_one, Bool.false_and]
  | i + 2, inside =>
      have kept : forall i, i < 14 -> (0xFFFC : BitVec 16).getLsbD (i + 2) = true := by decide
      rw [kept i (by omega), Bool.and_true]

/-! ## The placement of a table -/

/-- A table of `capacity` items in memory: its items consist of register words. -/
structure Placement (base : Addr) (size capacity : Nat) : Prop where
  aligned : base.toNat % 4 = 0
  fits : base.toNat + size * capacity < 0x100000000

/-- All bytes of the first `total` items have the same upper half of the address. -/
def OneRegion (base : Addr) (size total : Nat) : Prop :=
  forall byte, byte < size * total -> (base.toNat + byte) / 0x10000 = base.toNat / 0x10000

variable {profile : Profile} {panic : Panic} {base : Addr} {size capacity total : Nat}

theorem shiftRight_sixteen (address : Nat) : address >>> 16 = address / 0x10000 :=
  Nat.shiftRight_eq_div_pow address 16

/-- The assertion of the builders compares the upper halves of two addresses. -/
theorem assertOneRegion_eq (placement : Placement base size capacity)
    (nonnull : 0 < base.toNat + size * total) (inside : total ≤ capacity) :
    assertOneRegion profile panic base size total =
      assertThat (base.toNat / 0x10000 = (base.toNat + size * total - 1) / 0x10000) panic := by
  have short : size * total ≤ size * capacity := Nat.mul_le_mul_left size inside
  have fits := placement.fits
  have bytes : usizeMul profile size total = .ok (size * total) := usizeMul_eq (by omega)
  have after : usizeAdd profile base.toNat (size * total) = .ok (base.toNat + size * total) :=
    usizeAdd_eq (by omega)
  have last : usizeSub profile (base.toNat + size * total) 1 =
      .ok (base.toNat + size * total - 1) := usizeSub_eq (by omega) (by omega)
  unfold assertOneRegion
  rw [bind_of_eq_ok bytes, bind_of_eq_ok after, bind_of_eq_ok last]
  simp only [shiftRight_sixteen]

/-- It holds exactly when no active byte is in another region. -/
theorem assertOneRegion_eq_ok_iff (placement : Placement base size capacity)
    (nonempty : 0 < size * total) (inside : total ≤ capacity) :
    assertOneRegion profile panic base size total = .ok () ↔ OneRegion base size total := by
  rw [assertOneRegion_eq placement (by omega) inside, assertThat_eq_ok_iff]
  constructor
  · intro same byte active
    omega
  · intro region
    have final := region (size * total - 1) (by omega)
    have place : base.toNat + (size * total - 1) = base.toNat + size * total - 1 := by omega
    rw [← place]
    exact final.symm

theorem toNat_itemAddress (placement : Placement base size capacity) {i : Nat} (inside : i ≤ capacity) :
    (itemAddress base size i).toNat = base.toNat + size * i := by
  have short : size * i ≤ size * capacity := Nat.mul_le_mul_left size inside
  have fits := placement.fits
  rw [itemAddress, BitVec.toNat_add, BitVec.toNat_ofNat]
  omega

/-- Within one region a link leads to the item whose offset it stores. -/
theorem linkAddress_itemOffset (placement : Placement base size capacity) (words : size % 4 = 0)
    (positive : 0 < size) (inside : total ≤ capacity) (region : OneRegion base size total) {i : Nat}
    (active : i < total) :
    linkAddress base (itemOffset (itemAddress base size i) &&& 0xFFFC) = itemAddress base size i := by
  have address := toNat_itemAddress placement (Nat.le_of_lt (Nat.lt_of_lt_of_le active inside))
  have multiple : size * i % 4 = 0 := by
    rw [Nat.mul_mod, words, Nat.zero_mul, Nat.zero_mod]
  have aligned := placement.aligned
  have masked : itemOffset (itemAddress base size i) &&& 0xFFFC =
      itemOffset (itemAddress base size i) := by
    apply and_linkMask
    rw [itemOffset, BitVec.toNat_setWidth, address]
    omega
  have sameRegion : base.extractLsb' 16 16 = (itemAddress base size i).extractLsb' 16 16 := by
    have first := region (size * i) (Nat.mul_lt_mul_of_pos_left active positive)
    apply BitVec.eq_of_toNat_eq
    rw [BitVec.extractLsb'_toNat, BitVec.extractLsb'_toNat, address, shiftRight_sixteen,
      shiftRight_sixteen, first]
  rw [masked, linkAddress, sameRegion]
  exact address_split _

/-- Different items have different addresses. -/
theorem slotAt_itemAddress (placement : Placement base size capacity) (positive : 0 < size) {i : Nat}
    (inside : i < capacity) :
    slotAt base size capacity (itemAddress base size i) = some i := by
  unfold slotAt
  apply List.find?_range_eq_some.mpr
  refine ⟨decide_eq_true rfl, List.mem_range.mpr inside, fun j earlier => ?_⟩
  have different : itemAddress base size j ≠ itemAddress base size i := by
    intro same
    have addresses := congrArg BitVec.toNat same
    rw [toNat_itemAddress placement (by omega), toNat_itemAddress placement (by omega)] at addresses
    have less : size * j < size * i := Nat.mul_lt_mul_of_pos_left earlier positive
    omega
  rw [decide_eq_false different]
  rfl

/-! ## The links of a built table -/

/-- The slot after `i` in a circle of `n` items. -/
def nextSlot (n i : Nat) : Nat := if i + 1 = n then 0 else i + 1

theorem nextSlot_lt {n i : Nat} (active : i < n) : nextSlot n i < n := by
  unfold nextSlot
  split
  · omega
  · omega

theorem nextSlot_eq {n i : Nat} (active : i < n) :
    (if i + 1 < n then i + 1 else 0) = nextSlot n i := by
  unfold nextSlot
  split <;> split <;> omega

/-- Each active item links to the next one, and the last one to the first. -/
def Linked {I : Type} {capacity : Nat} (reading : Reading I) (base : Addr) (size : Nat)
    (items : Vector I capacity) (n : Nat) : Prop :=
  forall i, i < n -> Exists fun d => items[i]? = some d ∧
    reading.linkOffset d = itemOffset (itemAddress base size (nextSlot n i)) &&& 0xFFFC

theorem Backend.itemSize_words (backend : Backend) :
    backend.itemSize % 4 = 0 ∧ 0 < backend.itemSize := by
  cases backend <;> decide

theorem Backend.build_linked {backend : Backend} {api : ItemApi backend.Config backend.Item}
    {reading : Reading backend.Item} (lawful : Lawful api reading backend.plan)
    {items0 items : Vector backend.Item backend.capacity} {fb : FrameBuffer} {odrAddr : Addr}
    {wordSize : WordSize} {request n : Nat}
    (built : backend.build profile api base items0 fb odrAddr wordSize request = .ok (items, n)) :
    assertOneRegion profile backend.regionPanic base backend.itemSize n = .ok () ∧
      n ≤ backend.capacity ∧ Linked reading base backend.itemSize items n := by
  cases backend with
  | linear =>
      rcases buildItemChain_eq_ok_iff.mp built with ⟨_, limit, total_eq, region, written, _⟩
      refine ⟨region, total_eq ▸ limit, fun i active => ?_⟩
      have slot : i < (linearSlots fb).length := by
        rw [length_linearSlots, ← total_eq]
        exact active
      rcases written i _ (List.getElem?_eq_getElem slot) with ⟨item, encoded, stored⟩
      exact ⟨item, stored, (encodeItem_encodes lawful encoded).linkOffset⟩
  | twoD =>
      rcases buildItemChain2d_eq_ok_iff.mp built with ⟨range, total_eq, region, written, _⟩
      refine ⟨region, total_eq ▸ range.2, fun i active => ?_⟩
      rcases written i active with ⟨item, encoded, stored⟩
      rcases chainItem2d_eq_ok_iff.mp encoded with ⟨_, _, encoded⟩
      rw [← total_eq, nextSlot_eq active] at encoded
      exact ⟨item, stored, (encodeItem_encodes lawful encoded).linkOffset⟩

/-- The channel continues with the item that was meant. -/
theorem followLink_eq {I : Type} {reading : Reading I} (placement : Placement base size capacity)
    (words : size % 4 = 0 ∧ 0 < size) (inside : total ≤ capacity)
    (region : OneRegion base size total) {d : I} {i : Nat} (active : i < total)
    (link : reading.linkOffset d = itemOffset (itemAddress base size i) &&& 0xFFFC) :
    followLink reading base size capacity d = some i := by
  unfold followLink
  rw [link, linkAddress_itemOffset placement words.1 words.2 inside region active]
  exact slotAt_itemAddress placement words.2 (Nat.lt_of_lt_of_le active inside)

theorem Linked.linkedSlot_eq {I : Type} {reading : Reading I} {items : Vector I capacity}
    (linked : Linked reading base size items total) (placement : Placement base size capacity)
    (words : size % 4 = 0 ∧ 0 < size) (inside : total ≤ capacity)
    (region : OneRegion base size total) {i : Nat} (active : i < total) :
    linkedSlot reading base size items i = some (nextSlot total i) := by
  rcases linked i active with ⟨d, stored, link⟩
  unfold linkedSlot
  rw [stored]
  exact followLink_eq placement words inside region (nextSlot_lt active) link

/-- Going round a circle of `n` slots is counting modulo `n`. -/
theorem nextSlot_mod {n : Nat} (nonempty : 0 < n) (j : Nat) : nextSlot n (j % n) = (j + 1) % n := by
  have below : j % n < n := Nat.mod_lt j nonempty
  rw [← Nat.mod_add_mod j n 1]
  unfold nextSlot
  split
  · next last => rw [last, Nat.mod_self]
  · next inner => exact (Nat.mod_eq_of_lt (Nat.lt_of_le_of_ne below inner)).symm

theorem Linked.stateAfter_eq {I : Type} {reading : Reading I} {items : Vector I capacity}
    (linked : Linked reading base size items total) (placement : Placement base size capacity)
    (words : size % 4 = 0 ∧ 0 < size) (inside : total ≤ capacity)
    (region : OneRegion base size total) (nonempty : 0 < total) (j : Nat) :
    stateAfter (linkedSlot reading base size items) 0 j = some (j % total) := by
  induction j with
  | zero =>
      rw [Nat.zero_mod]
      rfl
  | succ j inductionHypothesis =>
      rw [stateAfter, inductionHypothesis, ← nextSlot_mod nonempty]
      exact linked.linkedSlot_eq placement words inside region (Nat.mod_lt j nonempty)

/-- What the links of a table written by `build` lead to. -/
structure Circular {I : Type} {capacity : Nat} (reading : Reading I) (base : Addr) (size : Nat)
    (items : Vector I capacity) (n : Nat) : Prop where
  next : forall i, i < n -> Exists fun d => items[i]? = some d ∧
    linkAddress base (reading.linkOffset d) = itemAddress base size (if i + 1 = n then 0 else i + 1)
  walk : forall j, stateAfter (linkedSlot reading base size items) 0 j = some (j % n)

/-- Descriptor links survive the 16-bit link field.  Wherever a table is placed, the assertion of
the builders passes exactly when all bytes of the active items lie in one region of
64 KB.  When it passes, the truncated offset of every active item, completed with the upper
half of the table's address, is the address of that item.  In every table that a builder
writes, following the links therefore goes round the active items for ever. -/
theorem links_survive (profile : Profile) (backend : Backend) {base : Addr} {n : Nat}
    (placement : Placement base backend.itemSize backend.capacity) (nonempty : 0 < n)
    (inside : n ≤ backend.capacity) :
    (assertOneRegion profile backend.regionPanic base backend.itemSize n = .ok () ↔
        OneRegion base backend.itemSize n) ∧
      (assertOneRegion profile backend.regionPanic base backend.itemSize n = .ok () ->
        forall i, i < n -> linkAddress base
            (itemOffset (itemAddress base backend.itemSize i) &&& 0xFFFC) =
          itemAddress base backend.itemSize i) ∧
      forall api reading, Lawful api reading backend.plan ->
        forall items0 fb odrAddr wordSize request items,
          backend.build profile api base items0 fb odrAddr wordSize request = .ok (items, n) ->
            Circular reading base backend.itemSize items n := by
  have words := backend.itemSize_words
  have checked : assertOneRegion profile backend.regionPanic base backend.itemSize n = .ok () ↔
      OneRegion base backend.itemSize n :=
    assertOneRegion_eq_ok_iff placement (Nat.mul_pos words.2 nonempty) inside
  refine ⟨checked, fun passed i active => ?_, ?_⟩
  · exact linkAddress_itemOffset placement words.1 words.2 inside (checked.mp passed) active
  · intro api reading lawful items0 fb odrAddr wordSize request items built
    rcases Backend.build_linked lawful built with ⟨passed, _, linked⟩
    have region := checked.mp passed
    refine ⟨fun i active => ?_, ?_⟩
    · rcases linked i active with ⟨d, stored, link⟩
      refine ⟨d, stored, ?_⟩
      rw [link]
      exact linkAddress_itemOffset placement words.1 words.2 inside region (nextSlot_lt active)
    · exact linked.stateAfter_eq placement words inside region nonempty

/-- Ten items that end exactly at a boundary pass, and their links arrive. -/
theorem links_survive_at_boundary :
    (OneRegion 0x2000FF10 linearItemSize 10 ∧ forall i, i < 10 ->
      linkAddress 0x2000FF10 (itemOffset (itemAddress 0x2000FF10 linearItemSize i) &&& 0xFFFC) =
        itemAddress 0x2000FF10 linearItemSize i) ∧
    OneRegion 0x2000FEC0 twoDItemSize 10 ∧ forall i, i < 10 ->
      linkAddress 0x2000FEC0 (itemOffset (itemAddress 0x2000FEC0 twoDItemSize i) &&& 0xFFFC) =
        itemAddress 0x2000FEC0 twoDItemSize i := by
  have linear := links_survive Profile.release .linear
    (show Placement 0x2000FF10 linearItemSize maxDescriptors from ⟨by decide, by decide⟩)
    (show 0 < 10 by decide) (by decide)
  have twoD := links_survive Profile.release .twoD
    (show Placement 0x2000FEC0 twoDItemSize maxSegments from ⟨by decide, by decide⟩)
    (show 0 < 10 by decide) (by decide)
  have passed : assertOneRegion Profile.release .chainSpansBoundary 0x2000FF10 linearItemSize 10 =
      .ok () := by decide
  have passed2d : assertOneRegion Profile.release .chain2dSpansBoundary 0x2000FEC0 twoDItemSize
      10 = .ok () := by decide
  exact ⟨⟨linear.1.mp passed, linear.2.1 passed⟩, twoD.1.mp passed2d, twoD.2.1 passed2d⟩

/-- With one item more they do not. -/
example : assertOneRegion Profile.release .chainSpansBoundary 0x2000FF10 linearItemSize 11 =
    .error .chainSpansBoundary := by decide

end Gpdma
end Driver
end Hub75
