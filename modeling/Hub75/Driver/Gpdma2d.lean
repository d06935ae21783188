import Hub75.Driver.Gpdma

namespace Hub75
namespace Driver
namespace Gpdma2d

open Machine Gpdma

/-!
# The 2D GPDMA backend

A 2D descriptor repeats its block in hardware.  This backend writes one
descriptor for each segment and asks for `reps - 1` further blocks, with an
address offset that takes the source back by the length of the segment before
each of them.  It is the only backend that checks the repetition counts at run
time.  Patching, waiting and the interrupt are those of the linear backend.
-/

/-- `size_of::<TwoDItem>()`: eight register words. -/
def twoDItemSize : Nat := 32

/-- `u16::try_from(value).expect(..)`. -/
def u16TryFrom (value : Nat) : Except Panic Nat :=
  if value < 0x10000 then .ok value else .error .repsConversion

/-- `i32::try_from(len).expect(..)`. -/
def i32TryFrom (len : Nat) : Except Panic Int :=
  if len < 0x80000000 then .ok len else .error .segmentTooLong

/-- The loop body: the item that streams segment `i`. -/
def chainItem2d (profile : Profile) (api : ItemApi TwoDConfig TwoDItem) (base : Addr)
    (fb : FrameBuffer) (odrAddr : Addr) (wordSize : WordSize) (request i : Nat) :
    Except Panic TwoDItem := do
  let segmentCount := fb.bcmSegmentCount
  let segment := fb.bcmSegment i
  assertThat (1 ≤ segment.reps ∧ segment.reps ≤ 2048) (.repsOutOfRange i segment.reps)
  let transferCompleteMode : TransferCompleteMode :=
    if i + 1 = segmentCount then .eachLinkedListItem else .lastLinkedListItem
  let blockRepeatCount ← u16TryFrom (segment.reps - 1)
  let length ← i32TryFrom segment.len
  let config : TwoDConfig := ⟨⟨transferCompleteMode⟩, blockRepeatCount, -length⟩
  let nextIdx := if i + 1 < segmentCount then i + 1 else 0
  encodeItem profile api base twoDItemSize maxSegments request segment odrAddr wordSize config
    nextIdx

/-- `build_item_chain_2d`. -/
def buildItemChain2d (profile : Profile) (api : ItemApi TwoDConfig TwoDItem) (base : Addr)
    (items : Vector TwoDItem maxSegments) (fb : FrameBuffer) (odrAddr : Addr)
    (wordSize : WordSize) (request : Nat) : Except Panic (Vector TwoDItem maxSegments × Nat) := do
  let segmentCount := fb.bcmSegmentCount
  assertThat (0 < segmentCount ∧ segmentCount ≤ maxSegments) (.segmentCountOutOfRange segmentCount)
  assertOneRegion profile .chain2dSpansBoundary base twoDItemSize segmentCount
  let items ← fillFrom .indexOutOfBounds
    (fun _ i => chainItem2d profile api base fb odrAddr wordSize request i)
    (List.range segmentCount) 0 items
  return (items, segmentCount)

end Gpdma2d
end Driver
end Hub75
