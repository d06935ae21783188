import Hub75.Scan.Links
import Hub75.Scan.Plain
import Hub75.Scan.Registers

namespace Hub75
namespace Driver

open Machine Finset

/-!
# One signal from three encodings

The backends encode the repetition counts in three ways: as a counter that an
interrupt advances, as a number of equal descriptors, and as a block repeat count
with an address offset.  Each of them tracks the same rotation cursor.  In the
linear table the channel stands on the slot that is the cursor's position in the
frame; in the 2D table it stands on the cursor's index, and its repeat counter is
the cursor's.

A table is followed through its links here, so the results need the placement of
the table, as the links do.
-/

/-- Segments that one GPDMA item can stream. -/
structure FrameBuffer.Bounded (fb : FrameBuffer) : Prop where
  reps : forall i, i < fb.bcmSegmentCount -> 1 ≤ fb.reps i ∧ fb.reps i ≤ 2048
  len : forall i, i < fb.bcmSegmentCount ->
    1 ≤ (fb.bcmSegment i).len ∧ (fb.bcmSegment i).len ≤ maxBlockBytes

namespace Gpdma

open Gpdma2d

variable {I : Type} [Descriptor I] {capacity size total : Nat} {reading : Reading I} {base : Addr}
  {items : Vector I capacity} {channel : Channel I}

/-! ## Steps of the channel -/

/-- After a block that is not the last of its item, the source moves. -/
theorem Channel.step_repeat
    (more : channel.repeats < reading.blockRepeatCount channel.registers) :
    channel.step reading base size items = some { channel with
      repeats := channel.repeats + 1
      source := channel.source + BitVec.ofNat 32 (reading.blockBytes channel.registers) +
        BitVec.ofInt 32 (reading.blockSrcAddrOffset channel.registers) } :=
  if_pos more

/-- After the last block of an item, the next item is loaded. -/
theorem Channel.step_link {i : Nat} {d : I}
    (done : ¬ channel.repeats < reading.blockRepeatCount channel.registers)
    (link : followLink reading base size capacity channel.registers = some i)
    (stored : items[i]? = some d) : channel.step reading base size items = some (load d) := by
  unfold step
  rw [if_neg done, link, Option.bind_some, stored]
  rfl

/-- Advancing by a block and then going back by its length changes nothing. -/
theorem rewind (source : Addr) (bytes : Nat) :
    source + BitVec.ofNat 32 bytes + BitVec.ofInt 32 (-bytes) = source := by
  have offset : BitVec.ofInt 32 (-bytes) = -BitVec.ofNat 32 bytes := by
    rw [BitVec.ofInt_neg, BitVec.ofInt_natCast]
  rw [offset, BitVec.add_assoc, BitVec.add_right_neg, BitVec.add_zero]

/-! ## Walking a table -/

/-- What the first `n` items of a table make the channel do: item `i` streams the block
`entry i`, `weight i` times, and leads to the next item.  Only an item that repeats its block needs
the source offset. -/
def Streams (reading : Reading I) (base : Addr) (size : Nat) (items : Vector I capacity) (n : Nat)
    (weight : Nat -> Nat) (entry : Nat -> Addr × Nat) : Prop :=
  forall i, i < n -> Exists fun d => Exists fun plan => items[i]? = some d ∧
    Encodes reading d (entry i).1 (entry i).2 plan
      (itemOffset (itemAddress base size (nextSlot n i)) &&& 0xFFFC) ∧
    plan.blockRepeatCount + 1 = weight i ∧
    (plan.blockRepeatCount = 0 ∨ plan.blockSrcAddrOffset = -((entry i).2 : Int))

/-- The item of slot `cursor.index` is in flight, on the repeat of the cursor. -/
structure InFlight (items : Vector I capacity) (n : Nat) (weight : Nat -> Nat)
    (entry : Nat -> Addr × Nat) (channel : Channel I) (cursor : Cursor) : Prop where
  valid : cursor.Valid weight n
  registers : items[cursor.index]? = some channel.registers
  repeats : channel.repeats = cursor.rep
  source : channel.source = (entry cursor.index).1

variable {n : Nat} {weight : Nat -> Nat} {entry : Nat -> Addr × Nat}

theorem Streams.positive (streams : Streams reading base size items n weight entry) :
    forall i, i < n -> 0 < weight i := by
  intro i inside
  rcases streams i inside with ⟨_, _, _, _, count, _⟩
  exact count ▸ Nat.succ_pos _

/-- The channel starts on the first visit. -/
theorem Streams.loaded (streams : Streams reading base size items n weight entry)
    (nonempty : 0 < n) :
    Exists fun d => items[0]? = some d ∧
      InFlight items n weight entry (Channel.load d) Cursor.origin := by
  rcases streams 0 nonempty with ⟨d, _, stored, encodes, _⟩
  exact ⟨d, stored, Cursor.valid_origin nonempty streams.positive, stored, rfl, encodes.sar⟩

/-- At the end of a block the channel repeats it or goes on to the next item, as the cursor
does. -/
theorem Streams.tracks (streams : Streams reading base size items n weight entry)
    (placement : Placement base size capacity) (words : size % 4 = 0 ∧ 0 < size)
    (room : n ≤ capacity) (region : OneRegion base size n) :
    Tracks (Channel.step reading base size items) (some ∘ Channel.block reading) weight n entry
      (InFlight items n weight entry) where
  sees := by
    intro channel cursor flight
    rcases streams cursor.index flight.valid.index_lt with ⟨d, _, stored, encodes, _⟩
    cases Option.some.inj (stored.symm.trans flight.registers)
    exact congrArg some (Prod.ext flight.source encodes.blockBytes)
  moves := by
    intro channel cursor flight
    have inside := flight.valid.index_lt
    have moved := flight.valid.advance streams.positive
    rcases streams cursor.index inside with ⟨d, plan, stored, encodes, count, back⟩
    cases Option.some.inj (stored.symm.trans flight.registers)
    have more_iff : channel.repeats < reading.blockRepeatCount channel.registers ↔
        ¬ weight cursor.index ≤ cursor.rep + 1 := by
      rw [encodes.blockRepeatCount, flight.repeats, ← count]
      omega
    by_cases last : weight cursor.index ≤ cursor.rep + 1
    · have link := followLink_eq placement words room region (nextSlot_lt inside) encodes.linkOffset
      rcases streams _ (nextSlot_lt inside) with ⟨next, _, follows, opening, _⟩
      have advanced : (cursor.advance weight n).1 = ⟨nextSlot n cursor.index, 0⟩ := by
        unfold Cursor.advance nextSlot
        rw [if_pos last]
        by_cases wraps : cursor.index + 1 = n
        · rw [if_pos wraps, if_pos (Nat.le_of_eq wraps.symm)]
          rfl
        · rw [if_neg wraps, if_neg (by omega)]
      rw [advanced] at moved ⊢
      have done : ¬ channel.repeats < reading.blockRepeatCount channel.registers :=
        fun more => more_iff.mp more last
      exact ⟨_, Channel.step_link done link follows, moved, follows, rfl, opening.sar⟩
    · have more := more_iff.mpr last
      have advanced : (cursor.advance weight n).1 = ⟨cursor.index, cursor.rep + 1⟩ := by
        unfold Cursor.advance
        rw [if_neg last]
      have offset : plan.blockSrcAddrOffset = -((entry cursor.index).2 : Int) := by
        rcases back with single | offset
        · rw [encodes.blockRepeatCount, single] at more
          exact absurd more (Nat.not_lt_zero _)
        · exact offset
      rw [advanced] at moved ⊢
      refine ⟨_, Channel.step_repeat more, moved, flight.registers, ?_, ?_⟩
      · exact congrArg (· + 1) flight.repeats
      · rw [encodes.blockBytes, encodes.blockSrcAddrOffset, offset, rewind]
        exact flight.source

/-- The blocks of a table repeat its items for ever, each as often as its weight says. -/
theorem Streams.channelBlocks_eq (streams : Streams reading base size items n weight entry)
    (placement : Placement base size capacity) (words : size % 4 = 0 ∧ 0 < size)
    (room : n ≤ capacity) (region : OneRegion base size n) (nonempty : 0 < n) (k : Nat) :
    channelBlocks reading base size items k =
      some (repeated ((weighted weight n).map entry) k) := by
  rcases streams.loaded nonempty with ⟨d, stored, opening⟩
  unfold channelBlocks
  rw [stored]
  exact (streams.tracks placement words room region).observe_repeated opening nonempty
    streams.positive k

/-! ## The tables of the builders -/

variable {profile : Profile} {fb : FrameBuffer} {wordSize : WordSize} {request : Nat}
  {odrAddr : Addr}

/-- The block of a slot of the linear table. -/
def slotBlock (fb : FrameBuffer) (idx : Nat) : Addr × Nat :=
  fb.block ((linearSlots fb)[idx]?.getD 0)

/-- Listing the slots once lists one frame. -/
theorem map_slotBlock (fb : FrameBuffer) :
    (weighted (fun _ => 1) (frameReps fb)).map (slotBlock fb) = fb.frame := by
  have slots : fb.frame = (linearSlots fb).map fb.block := fb.frame_eq
  rw [weighted_one, slots]
  apply List.ext_getElem
  · rw [List.length_map, List.length_map, List.length_range, length_linearSlots]
  · intro idx listed inside
    rw [List.length_map] at inside
    simp only [List.getElem_map, List.getElem_range, slotBlock, List.getElem?_eq_getElem inside,
      Option.getD_some]

theorem buildItemChain_streams {api : ItemApi LinearItemConfig LinearItem}
    {reading : Reading LinearItem} (lawful : Lawful api reading LinearItemConfig.plan)
    (admissible : fb.Admissible profile wordSize)
    {items0 items : Vector LinearItem maxDescriptors} {count : Nat}
    (built : buildItemChain profile api base items0 fb odrAddr wordSize request =
      .ok (items, count)) :
    Streams reading base linearItemSize items count (fun _ => 1) (slotBlock fb) := by
  rcases buildItemChain_eq_ok_iff.mp built with ⟨_, _, total_eq, _, written, _⟩
  intro idx active
  have slot : idx < (linearSlots fb).length := by
    rw [length_linearSlots, ← total_eq]
    exact active
  have found := List.getElem?_eq_getElem slot
  rcases written idx _ found with ⟨item, encoded, stored⟩
  have encodes := encodeItem_encodes lawful encoded
  have inside := (mem_weighted.mp (List.getElem_mem slot)).1
  have entry : slotBlock fb idx = fb.block (linearSlots fb)[idx] := by
    rw [slotBlock, found, Option.getD_some]
  rw [Nat.div_mul_cancel (Nat.dvd_of_mod_eq_zero (admissible.whole inside))] at encodes
  rw [entry]
  exact ⟨item, _, stored, encodes, rfl, Or.inl rfl⟩

theorem buildItemChain2d_streams {api : ItemApi TwoDConfig TwoDItem} {reading : Reading TwoDItem}
    (lawful : Lawful api reading TwoDConfig.plan) (admissible : fb.Admissible profile wordSize)
    {items0 items : Vector TwoDItem maxSegments} {count : Nat}
    (built : buildItemChain2d profile api base items0 fb odrAddr wordSize request =
      .ok (items, count)) :
    Streams reading base twoDItemSize items count fb.reps fb.block := by
  rcases buildItemChain2d_eq_ok_iff.mp built with ⟨_, total_eq, _, written, _⟩
  intro i active
  rcases written i active with ⟨item, encoded, stored⟩
  rcases chainItem2d_eq_ok_iff.mp encoded with ⟨reps, _, encoded⟩
  have inside : i < fb.bcmSegmentCount := total_eq ▸ active
  have encodes := encodeItem_encodes lawful encoded
  rw [Nat.div_mul_cancel (Nat.dvd_of_mod_eq_zero (admissible.whole inside)), ← total_eq,
    nextSlot_eq active] at encodes
  refine ⟨item, _, stored, encodes, ?_, Or.inr rfl⟩
  exact Nat.sub_add_cancel reps.1

/-- Everything the builders encode fits the registers. -/
theorem encodeItem_admissible {Config : Type} {api : ItemApi Config I}
    {plan : Config -> BlockPlan} (lawful : Lawful api reading plan)
    (admissible : fb.Admissible profile wordSize) (bounded : fb.Bounded) {i next : Nat}
    (inside : i < fb.bcmSegmentCount) (linked : next < capacity) {config : Config}
    (fits : (plan config).Fits) :
    Exists fun item => encodeItem profile api base size capacity request (fb.bcmSegment i) odrAddr
      wordSize config next = .ok item := by
  have whole := Nat.div_mul_cancel (Nat.dvd_of_mod_eq_zero (admissible.whole inside))
  have length := bounded.len i inside
  refine encodeItem_ok lawful admissible.supported (admissible.checks inside) linked ?_ ?_ fits
  · apply Nat.pos_of_ne_zero
    intro empty
    rw [empty, Nat.zero_mul] at whole
    exact Nat.ne_of_gt length.1 whole.symm
  · rw [whole]
    exact length.2

theorem buildItemChain_ok {api : ItemApi LinearItemConfig LinearItem}
    {reading : Reading LinearItem} (lawful : Lawful api reading LinearItemConfig.plan)
    (admissible : fb.Admissible profile wordSize) (bounded : fb.Bounded)
    (limit : frameReps fb ≤ maxDescriptors)
    (region : assertOneRegion profile .chainSpansBoundary base linearItemSize (frameReps fb) =
      .ok ()) (items0 : Vector LinearItem maxDescriptors) :
    Exists fun items => buildItemChain profile api base items0 fb odrAddr wordSize request =
      .ok (items, frameReps fb) := by
  have filled : Exists fun items => fillFrom Panic.indexOutOfBounds
      (fun idx i => chainItem profile api base fb odrAddr wordSize request (frameReps fb) idx i)
      (linearSlots fb) 0 items0 = .ok items := by
    refine fillFrom_ok items0 ?_ fun idx i found => ?_
    · rw [length_linearSlots, Nat.zero_add]
      exact limit
    · have inside := (mem_weighted.mp (List.mem_of_getElem? found)).1
      have active : idx < frameReps fb := by
        rw [← length_linearSlots]
        exact (List.getElem?_eq_some_iff.mp found).1
      have linked : nextSlot (frameReps fb) (0 + idx) < maxDescriptors := by
        rw [Nat.zero_add]
        exact Nat.lt_of_lt_of_le (nextSlot_lt active) limit
      exact encodeItem_admissible lawful admissible bounded inside linked
        ⟨Nat.zero_lt_succ _, Nat.zero_le _⟩
  rcases filled with ⟨items, filled⟩
  have small : frameReps fb < 0x100000000 := Nat.lt_of_le_of_lt limit (by decide)
  refine ⟨items, ?_⟩
  simp only [buildItemChain, bind_eq_ok, assertThat_eq_ok_iff, exists_and_left, exists_const,
    fillGroups_eq_fillFrom]
  exact ⟨⟨admissible.count_pos, admissible.count_le⟩, _, sumReps_eq small, limit, (), region,
    items, filled, rfl⟩

theorem buildItemChain2d_ok {api : ItemApi TwoDConfig TwoDItem} {reading : Reading TwoDItem}
    (lawful : Lawful api reading TwoDConfig.plan) (admissible : fb.Admissible profile wordSize)
    (bounded : fb.Bounded)
    (region : assertOneRegion profile .chain2dSpansBoundary base twoDItemSize fb.bcmSegmentCount =
      .ok ()) (items0 : Vector TwoDItem maxSegments) :
    Exists fun items => buildItemChain2d profile api base items0 fb odrAddr wordSize request =
      .ok (items, fb.bcmSegmentCount) := by
  have filled : Exists fun items => fillFrom Panic.indexOutOfBounds
      (fun _ i => chainItem2d profile api base fb odrAddr wordSize request i)
      (List.range fb.bcmSegmentCount) 0 items0 = .ok items := by
    refine fillFrom_ok items0 ?_ fun idx i found => ?_
    · rw [List.length_range, Nat.zero_add]
      exact admissible.count_le
    · have inside := List.mem_range.mp (List.mem_of_getElem? found)
      have reps := bounded.reps i inside
      have length := bounded.len i inside
      have linked : (if i + 1 < fb.bcmSegmentCount then i + 1 else 0) < maxSegments := by
        rw [nextSlot_eq inside]
        exact Nat.lt_of_lt_of_le (nextSlot_lt inside) admissible.count_le
      have fits : (twoDConfig fb i).plan.Fits := by
        refine ⟨?_, ?_⟩
        · change (fb.bcmSegment i).reps - 1 < 2048
          have upper : (fb.bcmSegment i).reps ≤ 2048 := reps.2
          omega
        · change (-((fb.bcmSegment i).len : Int)).natAbs ≤ maxBlockBytes
          rw [Int.natAbs_neg, Int.natAbs_natCast]
          exact length.2
      rcases encodeItem_admissible lawful admissible bounded inside linked fits with ⟨item, encoded⟩
      have short : (fb.bcmSegment i).len < 0x80000000 :=
        Nat.lt_of_le_of_lt length.2 (by decide)
      exact ⟨item, chainItem2d_eq_ok_iff.mpr ⟨reps, short, encoded⟩⟩
  rcases filled with ⟨items, filled⟩
  refine ⟨items, ?_⟩
  simp only [buildItemChain2d, bind_eq_ok, assertThat_eq_ok_iff, exists_and_left, exists_const]
  exact ⟨⟨admissible.count_pos, admissible.count_le⟩, (), region, items, filled, rfl⟩

/-- The number of items a backend needs for a framebuffer. -/
def Backend.itemCount (backend : Backend) (fb : FrameBuffer) : Nat :=
  match backend with
  | linear => frameReps fb
  | twoD => fb.bcmSegmentCount

/-- Wherever the table of the backend is placed so that its active items lie in one
region, it is written, and the channel walking it repeats the frame. -/
def Backend.RepeatsFrame (backend : Backend) (profile : Profile) (fb : FrameBuffer)
    (wordSize : WordSize) : Prop :=
  forall api reading, Lawful api reading backend.plan ->
    forall base, Placement base backend.itemSize backend.capacity ->
      OneRegion base backend.itemSize (backend.itemCount fb) ->
      forall items0 odrAddr request, Exists fun items =>
        backend.build profile api base items0 fb odrAddr wordSize request =
          .ok (items, backend.itemCount fb) ∧
        forall k, channelBlocks reading base backend.itemSize items k = some (repeated fb.frame k)

theorem linear_repeatsFrame (admissible : fb.Admissible profile wordSize) (bounded : fb.Bounded)
    (limit : frameReps fb ≤ maxDescriptors) :
    Backend.linear.RepeatsFrame profile fb wordSize := by
  intro api reading lawful base placement region items0 odrAddr request
  have nonempty : 0 < frameReps fb := by
    have first : fb.reps 0 ≤ frameReps fb :=
      single_le_sum (fun _ _ => Nat.zero_le _) (mem_range.mpr admissible.count_pos)
    exact Nat.lt_of_lt_of_le (bounded.reps 0 admissible.count_pos).1 first
  have checked : assertOneRegion profile .chainSpansBoundary base linearItemSize (frameReps fb) =
      .ok () := (assertOneRegion_eq_ok_iff placement
      (Nat.mul_pos (by decide) nonempty) limit).mpr region
  rcases buildItemChain_ok lawful admissible bounded limit checked items0 with ⟨items, built⟩
  refine ⟨items, built, fun k => ?_⟩
  have streams := buildItemChain_streams lawful admissible built
  rw [← map_slotBlock]
  exact streams.channelBlocks_eq placement Backend.linear.itemSize_words limit region nonempty k

theorem twoD_repeatsFrame (admissible : fb.Admissible profile wordSize) (bounded : fb.Bounded) :
    Backend.twoD.RepeatsFrame profile fb wordSize := by
  intro api reading lawful base placement region items0 odrAddr request
  have checked : assertOneRegion profile .chain2dSpansBoundary base twoDItemSize
      fb.bcmSegmentCount = .ok () :=
    (assertOneRegion_eq_ok_iff placement
      (Nat.mul_pos (by decide) admissible.count_pos) admissible.count_le).mpr region
  rcases buildItemChain2d_ok lawful admissible bounded checked items0 with ⟨items, built⟩
  refine ⟨items, built, fun k => ?_⟩
  have streams := buildItemChain2d_streams lawful admissible built
  rw [fb.frame_eq]
  exact streams.channelBlocks_eq placement Backend.twoD.itemSize_words admissible.count_le region
    admissible.count_pos k

end Gpdma

/-- From whatever the core held before, the plain backend repeats the frame once it is
started. -/
def Dma.RepeatsFrame (profile : Profile) (fb : FrameBuffer) (wordSize : WordSize) : Prop :=
  forall (api : Dma.ChannelApi), api.Lawful ->
    forall (core : Dma.IsrCore) (state : Dma.IsrCoreState) (fbPtr : Addr),
      core.state = some state -> state.wordSize = wordSize -> state.channel.active = [] ->
      Exists fun started => core.startFirstTransfer profile api fb fbPtr = .ok started ∧
        forall k, Dma.transferBlocks profile api started k = some (repeated fb.frame k)

/-- Blocks that one item can hold, one transfer can stream. -/
theorem Dma.streamable {profile : Profile} {fb : FrameBuffer} {wordSize : WordSize}
    (admissible : fb.Admissible profile wordSize) (bounded : fb.Bounded) {i : Nat}
    (inside : i < fb.bcmSegmentCount) :
    Dma.Streamable profile wordSize (fb.bcmSegment i).ptr (fb.bcmSegment i).len := by
  have whole := Nat.div_mul_cancel (Nat.dvd_of_mod_eq_zero (admissible.whole inside))
  have length := bounded.len i inside
  refine ⟨admissible.checks inside, ?_, (Nat.div_le_self _ _).trans length.2⟩
  apply Nat.pos_of_ne_zero
  intro empty
  rw [empty, Nat.zero_mul] at whole
  exact Nat.ne_of_gt length.1 whole.symm

theorem Dma.repeatsFrame {profile : Profile} {fb : FrameBuffer} {wordSize : WordSize}
    (admissible : fb.Admissible profile wordSize) (bounded : fb.Bounded) :
    Dma.RepeatsFrame profile fb wordSize := by
  intro api lawful core state fbPtr present width idle
  have same := fb.instanceAt_layout fbPtr
  have streamable : forall i, i < (fb.layout fbPtr).count -> Dma.Streamable profile wordSize
      (fbPtr + (fb.layout fbPtr).offset i) ((fb.layout fbPtr).len i) := by
    intro i inside
    have block := Dma.streamable admissible bounded inside
    rw [← same] at block
    exact block
  have startable : Dma.Startable profile state.wordSize (fb.layout fbPtr) fbPtr := by
    rw [width]
    refine ⟨⟨admissible.count_pos, admissible.count_le⟩, ?_, admissible.supported,
      streamable 0 admissible.count_pos⟩
    intro enabled i inside
    have nonnull := admissible.nonnull enabled i inside
    rw [← same] at nonnull
    exact nonnull
  rcases Dma.startFirstTransfer_unswapped lawful present idle startable with
    ⟨started, begun, next, stored, unswapped⟩
  rw [width] at unswapped
  have tracks := Dma.unswapped_tracks lawful streamable fun i inside => admissible.whole inside
  have blocks := tracks.observe_repeated ⟨next, stored, unswapped⟩ admissible.count_pos
    fun i inside => (bounded.reps i inside).1
  rw [same] at begun blocks
  refine ⟨started, begun, fun k => ?_⟩
  rw [fb.frame_eq]
  exact blocks k

/-- The three backends stream the same signal.  For every sequence of segments
that the GPDMA items can hold, and for every word size, the plain backend, the channel on
the 2D table, and the channel on the linear table where the repetitions fit into
it, transfer the same source blocks: every segment as often as its repetition count says,
in order, and then the frame again, without end. -/
theorem same_signal (profile : Profile) {fb : FrameBuffer} {wordSize : WordSize}
    (admissible : fb.Admissible profile wordSize) (bounded : fb.Bounded) :
    Dma.RepeatsFrame profile fb wordSize ∧
      Gpdma.Backend.twoD.RepeatsFrame profile fb wordSize ∧
      (Gpdma.frameReps fb ≤ Gpdma.maxDescriptors ->
        Gpdma.Backend.linear.RepeatsFrame profile fb wordSize) :=
  ⟨Dma.repeatsFrame admissible bounded, Gpdma.twoD_repeatsFrame admissible bounded,
    fun limit => Gpdma.linear_repeatsFrame admissible bounded limit⟩

/-- Two segments, shown once and twice: four blocks by each backend. -/
theorem same_signal_of_two_segments :
    (Exists fun started => Dma.initialisedCore.startFirstTransfer Profile.release Dma.assertingApi
        (Layout.twoSegments.instanceAt 0x20000000) 0x20000000 = .ok started ∧
      Dma.transferBlocks Profile.release Dma.assertingApi started 4 =
        some [(0x20000000, 64), (0x20000040, 64), (0x20000040, 64), (0x20000000, 64)]) ∧
    (Exists fun items => Gpdma.Backend.twoD.build Profile.release Registers.twoDApi 0x20010000
        (Vector.replicate maxSegments zeroedTwoDItem) (Layout.twoSegments.instanceAt 0x20000000)
        0x40020815 .oneByte 5 = .ok (items, 2) ∧
      Gpdma.channelBlocks Registers.twoDReading 0x20010000 Gpdma2d.twoDItemSize items 4 =
        some [(0x20000000, 64), (0x20000040, 64), (0x20000040, 64), (0x20000000, 64)]) ∧
    (Exists fun items => Gpdma.Backend.linear.build Profile.release Registers.linearApi 0x20010000
        (Vector.replicate Gpdma.maxDescriptors zeroedLinearItem)
        (Layout.twoSegments.instanceAt 0x20000000) 0x40020815 .oneByte 5 = .ok (items, 3) ∧
      Gpdma.channelBlocks Registers.linearReading 0x20010000 Gpdma.linearItemSize items 4 =
        some [(0x20000000, 64), (0x20000040, 64), (0x20000040, 64), (0x20000000, 64)]) := by
  have admissible : (Layout.twoSegments.instanceAt 0x20000000).Admissible Profile.release
      .oneByte := ⟨Or.inl rfl, by decide, by decide, nofun, nofun⟩
  have bounded : (Layout.twoSegments.instanceAt 0x20000000).Bounded :=
    ⟨by decide, by decide⟩
  have frame : repeated (Layout.twoSegments.instanceAt 0x20000000).frame 4 =
      [(0x20000000, 64), (0x20000040, 64), (0x20000040, 64), (0x20000000, 64)] := by decide
  have region : forall size n, size * n ≤ 0x10000 -> Gpdma.OneRegion 0x20010000 size n := by
    intro size n short byte inside
    change (0x20010000 + byte) / 0x10000 = 0x2001
    omega
  rcases same_signal Profile.release admissible bounded with ⟨plain, twoD, linear⟩
  refine ⟨?_, ?_, ?_⟩
  · rcases plain Dma.assertingApi Dma.assertingApi_lawful Dma.initialisedCore _ 0x20000000 rfl
      rfl rfl with ⟨started, begun, blocks⟩
    exact ⟨started, begun, frame ▸ blocks 4⟩
  · rcases twoD Registers.twoDApi Registers.twoDReading Registers.twoD_lawful 0x20010000
        ⟨by decide, by decide⟩ (region _ _ (by decide)) (Vector.replicate maxSegments zeroedTwoDItem)
        0x40020815 5 with ⟨items, built, blocks⟩
    exact ⟨items, built, frame ▸ blocks 4⟩
  · rcases linear (by decide) Registers.linearApi Registers.linearReading Registers.linear_lawful
        0x20010000 ⟨by decide, by decide⟩ (region _ _ (by decide))
        (Vector.replicate Gpdma.maxDescriptors zeroedLinearItem) 0x40020815 5 with
      ⟨items, built, blocks⟩
    exact ⟨items, built, frame ▸ blocks 4⟩

end Driver
end Hub75
