import Hub75.Driver.Gpdma2d

namespace Hub75
namespace Driver

open Machine Finset

/-!
# What a successful builder has written

Each part of the two builders gets an equivalence that says when it succeeds and
what it returns then.  The builders themselves are described by
`buildItemChain_eq_ok_iff` and `buildItemChain2d_eq_ok_iff`: which segment every
slot encodes, and that no other slot was touched.

Nothing is assumed here about the encoding functions, except in the last
section, where `Lawful` is used to read a written item back.
-/

namespace Gpdma

/-! ## The checks -/

/-- What an operator computes without overflow does not depend on the build. -/
theorem usizeOf_release {profile : Profile} {value : Int} {result : Nat}
    (computed : usizeOf profile value = .ok result) :
    usizeOf Profile.release value = .ok result := by
  unfold usizeOf at computed ⊢
  split
  · next fits =>
      rw [if_pos fits] at computed
      exact computed
  · next overflows =>
      rw [if_neg overflows] at computed
      split at computed
      · cases computed
      · exact computed

theorem assertOneRegion_release {profile : Profile} {panic : Panic} {base : Addr}
    {size total : Nat} (passed : assertOneRegion profile panic base size total = .ok ()) :
    assertOneRegion Profile.release panic base size total = .ok () := by
  unfold assertOneRegion at passed ⊢
  rcases bind_eq_ok.mp passed with ⟨bytes, multiplied, passed⟩
  rcases bind_eq_ok.mp passed with ⟨after, added, passed⟩
  rcases bind_eq_ok.mp passed with ⟨last, subtracted, passed⟩
  exact bind_eq_ok.mpr ⟨bytes, usizeOf_release multiplied, bind_eq_ok.mpr
    ⟨after, usizeOf_release added, bind_eq_ok.mpr ⟨last, usizeOf_release subtracted, passed⟩⟩⟩

/-- The number of repetitions in one frame. -/
def frameReps (fb : FrameBuffer) : Nat := ∑ i ∈ range fb.bcmSegmentCount, (fb.bcmSegment i).reps

/-- A frame without repetitions is one in which no segment asks for any. -/
theorem frameReps_eq_zero_iff {fb : FrameBuffer} :
    frameReps fb = 0 ↔ forall i, i < fb.bcmSegmentCount -> (fb.bcmSegment i).reps = 0 := by
  unfold frameReps
  rw [sum_eq_zero_iff]
  exact forall_congr' fun i => by rw [mem_range]

/-- Without overflow the loop computes the sum. -/
theorem sumReps_eq {profile : Profile} {fb : FrameBuffer} (fits : frameReps fb < 0x100000000) :
    sumReps profile fb = .ok (frameReps fb) := by
  unfold sumReps frameReps at *
  generalize fb.bcmSegmentCount = count at fits ⊢
  induction count with
  | zero => rfl
  | succ count inductionHypothesis =>
      rw [sum_range_succ] at fits ⊢
      have before := inductionHypothesis (Nat.lt_of_le_of_lt (Nat.le_add_right _ _) fits)
      rw [List.range_succ, List.foldlM_append, before]
      refine bind_eq_ok.mpr ⟨_, rfl, ?_⟩
      rw [List.foldlM_cons]
      exact bind_eq_ok.mpr ⟨_, usizeAdd_eq fits, rfl⟩

/-! ## One item -/

section

variable {Config I : Type} {profile : Profile} {api : ItemApi Config I} {base : Addr}
  {size capacity request : Nat} {odrAddr : Addr} {wordSize : WordSize} {config : Config}

theorem newWriteItem_eq {ptr : Addr} {len : Nat} :
    newWriteItem profile api request ptr len odrAddr wordSize config =
      withElements profile .gpdmaWordSize ptr len wordSize fun elements =>
        api.newWrite request ptr elements wordSize odrAddr config := by
  cases wordSize <;> rfl

theorem newWriteItem_eq_ok_iff {ptr : Addr} {len : Nat} {item : I} :
    newWriteItem profile api request ptr len odrAddr wordSize config = .ok item ↔
      wordSize.Supported ∧ SourceChecks profile wordSize ptr len ∧
        api.newWrite request ptr (len / wordSize.bytes) wordSize odrAddr config = .ok item := by
  rw [newWriteItem_eq, withElements_eq_ok_iff]

theorem linkItem_eq_ok_iff {item linked : I} {next : Nat} :
    linkItem api base size capacity item next = .ok linked ↔
      next < capacity ∧ api.linkTo item (itemOffset (itemAddress base size next)) = linked := by
  unfold linkItem
  by_cases inside : next < capacity
  · rw [if_pos inside, Except.ok.injEq]
    exact (and_iff_right inside).symm
  · rw [if_neg inside]
    exact iff_of_false (fun impossible => nomatch impossible) fun linked => inside linked.1

theorem encodeItem_eq_ok_iff {segment : BcmSegment} {next : Nat} {item : I} :
    encodeItem profile api base size capacity request segment odrAddr wordSize config next =
        .ok item ↔
      wordSize.Supported ∧ SourceChecks profile wordSize segment.ptr segment.len ∧
        next < capacity ∧ Exists fun written =>
          api.newWrite request segment.ptr (segment.len / wordSize.bytes) wordSize odrAddr config =
              .ok written ∧
            api.linkTo written (itemOffset (itemAddress base size next)) = item := by
  simp only [encodeItem, bind_eq_ok, newWriteItem_eq_ok_iff, linkItem_eq_ok_iff]
  constructor
  · rintro ⟨written, ⟨supported, checks, encoded⟩, inside, linked⟩
    exact ⟨supported, checks, inside, written, encoded, linked⟩
  · rintro ⟨supported, checks, inside, written, encoded, linked⟩
    exact ⟨written, ⟨supported, checks, encoded⟩, inside, linked⟩

end

/-! ## The linear builder -/

/-- The segment that each slot of the linear table encodes. -/
def linearSlots (fb : FrameBuffer) : List Nat :=
  weighted (fun i => (fb.bcmSegment i).reps) fb.bcmSegmentCount

@[simp] theorem length_linearSlots (fb : FrameBuffer) : (linearSlots fb).length = frameReps fb :=
  length_weighted _ _

theorem buildItemChain_eq_ok_iff {profile : Profile}
    {api : ItemApi LinearItemConfig LinearItem} {base : Addr}
    {items result : Vector LinearItem maxDescriptors} {fb : FrameBuffer} {odrAddr : Addr}
    {wordSize : WordSize} {request total : Nat} :
    buildItemChain profile api base items fb odrAddr wordSize request = .ok (result, total) ↔
      (0 < fb.bcmSegmentCount ∧ fb.bcmSegmentCount ≤ maxSegments) ∧
      frameReps fb ≤ maxDescriptors ∧ total = frameReps fb ∧
      assertOneRegion profile .chainSpansBoundary base linearItemSize total = .ok () ∧
      (forall idx i, (linearSlots fb)[idx]? = some i -> Exists fun item =>
        chainItem profile api base fb odrAddr wordSize request total idx i = .ok item ∧
          result[idx]? = some item) ∧
      forall idx, total ≤ idx -> result[idx]? = items[idx]? := by
  simp only [buildItemChain, bind_eq_ok, assertThat_eq_ok_iff, exists_and_left, exists_const, pure,
    Except.pure, Except.ok.injEq, Prod.mk.injEq, fillGroups_eq_fillFrom, fillFrom_eq_ok_iff,
    Nat.zero_add]
  have slots_eq : ((List.range fb.bcmSegmentCount).flatMap fun i =>
      List.replicate (fb.bcmSegment i).reps i) = linearSlots fb := rfl
  simp only [slots_eq, length_linearSlots]
  constructor
  · rintro ⟨count, sum, summed, _, ⟨⟩, region, stored, ⟨fits, written, untouched⟩, same, total_eq⟩
    subst same
    subst total_eq
    -- A wrapped sum would pass the limit, but then the loop runs out of the table.
    have limit : frameReps fb ≤ maxDescriptors := by
      rcases fits with empty | fits
      · rw [← length_linearSlots, empty]
        exact Nat.zero_le _
      · exact fits
    have exact_sum : sum = frameReps fb := by
      have small : frameReps fb < 0x100000000 := Nat.lt_of_le_of_lt limit (by decide)
      rw [sumReps_eq small] at summed
      exact (Except.ok.inj summed).symm
    refine ⟨count, limit, exact_sum, region, written, fun idx beyond => ?_⟩
    exact untouched idx (Or.inr (exact_sum ▸ beyond))
  · rintro ⟨count, limit, total_eq, region, written, untouched⟩
    have small : frameReps fb < 0x100000000 := Nat.lt_of_le_of_lt limit (by decide)
    refine ⟨count, total, ?_, total_eq ▸ limit, (), region, result,
      ⟨Or.inr limit, written, ?_⟩, rfl, rfl⟩
    · rw [total_eq]
      exact sumReps_eq small
    · intro idx outside
      apply untouched idx
      rw [total_eq]
      omega

end Gpdma

/-! ## The 2D builder -/

namespace Gpdma2d

open Gpdma

/-- The configuration of the item that streams segment `i`. -/
def twoDConfig (fb : FrameBuffer) (i : Nat) : TwoDConfig where
  linear := ⟨if i + 1 = fb.bcmSegmentCount then .eachLinkedListItem else .lastLinkedListItem⟩
  blockRepeatCount := (fb.bcmSegment i).reps - 1
  blockSrcAddrOffset := -(fb.bcmSegment i).len

theorem u16TryFrom_eq_ok_iff {value result : Nat} :
    u16TryFrom value = .ok result ↔ value < 0x10000 ∧ value = result := by
  unfold u16TryFrom
  by_cases fits : value < 0x10000
  · rw [if_pos fits, Except.ok.injEq]
    exact (and_iff_right fits).symm
  · rw [if_neg fits]
    exact iff_of_false (fun impossible => nomatch impossible) fun converted => fits converted.1

theorem i32TryFrom_eq_ok_iff {len : Nat} {result : Int} :
    i32TryFrom len = .ok result ↔ len < 0x80000000 ∧ len = result := by
  unfold i32TryFrom
  by_cases fits : len < 0x80000000
  · rw [if_pos fits, Except.ok.injEq]
    exact (and_iff_right fits).symm
  · rw [if_neg fits]
    exact iff_of_false (fun impossible => nomatch impossible) fun converted => fits converted.1

theorem chainItem2d_eq_ok_iff {profile : Profile} {api : ItemApi TwoDConfig TwoDItem}
    {base : Addr} {fb : FrameBuffer} {odrAddr : Addr} {wordSize : WordSize} {request i : Nat}
    {item : TwoDItem} :
    chainItem2d profile api base fb odrAddr wordSize request i = .ok item ↔
      (1 ≤ (fb.bcmSegment i).reps ∧ (fb.bcmSegment i).reps ≤ 2048) ∧
      (fb.bcmSegment i).len < 0x80000000 ∧
      encodeItem profile api base twoDItemSize maxSegments request (fb.bcmSegment i) odrAddr
        wordSize (twoDConfig fb i) (if i + 1 < fb.bcmSegmentCount then i + 1 else 0) = .ok item := by
  simp only [chainItem2d, bind_eq_ok, assertThat_eq_ok_iff, u16TryFrom_eq_ok_iff,
    i32TryFrom_eq_ok_iff, exists_and_left, exists_const]
  constructor
  · rintro ⟨inRange, repeats, ⟨_, same⟩, length, ⟨short, sameLength⟩, encoded⟩
    subst same
    subst sameLength
    exact ⟨inRange, short, encoded⟩
  · rintro ⟨inRange, short, encoded⟩
    exact ⟨inRange, _, ⟨by omega, rfl⟩, _, ⟨short, rfl⟩, encoded⟩

theorem buildItemChain2d_eq_ok_iff {profile : Profile} {api : ItemApi TwoDConfig TwoDItem}
    {base : Addr} {items result : Vector TwoDItem maxSegments} {fb : FrameBuffer} {odrAddr : Addr}
    {wordSize : WordSize} {request total : Nat} :
    buildItemChain2d profile api base items fb odrAddr wordSize request = .ok (result, total) ↔
      (0 < fb.bcmSegmentCount ∧ fb.bcmSegmentCount ≤ maxSegments) ∧ total = fb.bcmSegmentCount ∧
      assertOneRegion profile .chain2dSpansBoundary base twoDItemSize total = .ok () ∧
      (forall i, i < total -> Exists fun item =>
        chainItem2d profile api base fb odrAddr wordSize request i = .ok item ∧
          result[i]? = some item) ∧
      forall i, total ≤ i -> result[i]? = items[i]? := by
  simp only [buildItemChain2d, bind_eq_ok, assertThat_eq_ok_iff, exists_and_left, exists_const,
    pure, Except.pure, Except.ok.injEq, Prod.mk.injEq, fillFrom_eq_ok_iff, Nat.zero_add,
    List.length_range]
  constructor
  · rintro ⟨count, ⟨⟩, region, stored, ⟨_, written, untouched⟩, same, total_eq⟩
    subst same
    subst total_eq
    refine ⟨count, rfl, region, fun i inside => ?_, fun i beyond => untouched i (Or.inr beyond)⟩
    exact written i i (List.getElem?_range inside)
  · rintro ⟨count, total_eq, region, written, untouched⟩
    subst total_eq
    refine ⟨count, (), region, result,
      ⟨Or.inr count.2, fun j i found => ?_, fun i outside => ?_⟩, rfl, rfl⟩
    · have read := List.getElem?_eq_some_iff.mp found
      have place : j = i := (List.getElem_range _).symm.trans read.2
      rw [place]
      exact written i (List.mem_range.mp (List.mem_of_getElem? found))
    · exact untouched i (by omega)

end Gpdma2d

/-! ## Reading an item back -/

/-- The item `d` makes the channel read `repeats + 1` blocks of `bytes` bytes
from `source`, moving by `back` after each, and then follow `link`. -/
structure Encodes {I : Type} [Descriptor I] (reading : Reading I) (d : I) (source : Addr)
    (bytes : Nat) (plan : BlockPlan) (link : BitVec 16) : Prop where
  sar : Descriptor.sar d = source
  blockBytes : reading.blockBytes d = bytes
  blockRepeatCount : reading.blockRepeatCount d = plan.blockRepeatCount
  blockSrcAddrOffset : reading.blockSrcAddrOffset d = plan.blockSrcAddrOffset
  transferCompleteMode : reading.transferCompleteMode d = plan.transferCompleteMode
  linkOffset : reading.linkOffset d = link

namespace Gpdma

variable {Config I : Type} [Descriptor I] {profile : Profile} {api : ItemApi Config I}
  {reading : Reading I} {plan : Config -> BlockPlan} {base : Addr} {size capacity request : Nat}
  {segment : BcmSegment} {odrAddr : Addr} {wordSize : WordSize} {config : Config} {next : Nat}
  {item : I}

/-- What is encoded is read back. -/
theorem encodeItem_encodes (lawful : Lawful api reading plan)
    (encoded : encodeItem profile api base size capacity request segment odrAddr wordSize config
      next = .ok item) :
    Encodes reading item segment.ptr (segment.len / wordSize.bytes * wordSize.bytes) (plan config)
      (itemOffset (itemAddress base size next) &&& 0xFFFC) := by
  rcases encodeItem_eq_ok_iff.mp encoded with ⟨_, _, _, written, newWrite, linked⟩
  subst linked
  rcases lawful.newWrite_reads _ _ _ _ _ _ _ newWrite with ⟨bytes, repeats, back, mode⟩
  rcases lawful.linkTo_reads written (itemOffset (itemAddress base size next)) with
    ⟨sameBytes, sameRepeats, sameBack, sameMode, link⟩
  exact {
    sar := (lawful.linkTo_sar _ _).trans (lawful.newWrite_sar _ _ _ _ _ _ _ newWrite)
    blockBytes := sameBytes.trans bytes
    blockRepeatCount := sameRepeats.trans repeats
    blockSrcAddrOffset := sameBack.trans back
    transferCompleteMode := sameMode.trans mode
    linkOffset := link }

/-- Encoding another source buffer of the same length changes the source address
and nothing else. -/
theorem encodeItem_other (lawful : Lawful api reading plan)
    (encoded : encodeItem profile api base size capacity request segment odrAddr wordSize config
      next = .ok item) (other : Addr) :
    encodeItem Profile.release api base size capacity request { segment with ptr := other } odrAddr
      wordSize config next = .ok (Descriptor.setSar item other) := by
  rcases encodeItem_eq_ok_iff.mp encoded with ⟨supported, _, inside, written, newWrite, linked⟩
  subst linked
  refine encodeItem_eq_ok_iff.mpr
    ⟨supported, sourceChecks_release _ _ _, inside, Descriptor.setSar written other, ?_, ?_⟩
  · exact lawful.newWrite_other _ _ other _ _ _ _ _ newWrite
  · exact lawful.linkTo_setSar written _ other

/-- A nonempty segment that fits the registers can be encoded. -/
theorem encodeItem_ok (lawful : Lawful api reading plan) (supported : wordSize.Supported)
    (checks : SourceChecks profile wordSize segment.ptr segment.len) (inside : next < capacity)
    (nonempty : 0 < segment.len / wordSize.bytes)
    (short : segment.len / wordSize.bytes * wordSize.bytes ≤ maxBlockBytes)
    (fits : (plan config).Fits) :
    Exists fun item => encodeItem profile api base size capacity request segment odrAddr wordSize
      config next = .ok item := by
  rcases lawful.newWrite_ok request segment.ptr _ wordSize odrAddr config nonempty short fits with
    ⟨written, newWrite⟩
  exact ⟨_, encodeItem_eq_ok_iff.mpr ⟨supported, checks, inside, written, newWrite, rfl⟩⟩

end Gpdma
end Driver
end Hub75
