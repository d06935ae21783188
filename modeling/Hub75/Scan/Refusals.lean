import Hub75.Scan.Links
import Hub75.Scan.Registers
import Hub75.Swap.PlainCore

namespace Hub75
namespace Driver

open Machine

/-!
# What a driver refuses at the start, and why

The checks on a framebuffer are spread over the extraction of its segments, the
builders, and the code that makes one transfer or one item.  Here they are written down
as faults of the framebuffer: a fault is what is wrong, and the panic that says so.
`refused_for_first_fault` is that each backend panics at the start exactly for the first
fault, with its panic.  Nothing else goes wrong: the conversions and the bounds checks in
between never fail.

Code outside this repository has checks of its own.  A panic of the function that starts
a transfer counts as a fault of its block, and a panic of the function that writes an item
as a fault of the item; starting the channel on a finished table is taken to succeed.
-/

variable {profile : Profile} {fb : FrameBuffer} {wordSize : WordSize} {panic : Panic}

/-- The segment count that all backends ask for. -/
def FrameBuffer.CountInRange (fb : FrameBuffer) : Prop :=
  0 < fb.bcmSegmentCount ∧ fb.bcmSegmentCount ≤ maxSegments

/-! ## Faults of one source block -/

/-- A block that a port of halfwords cannot read.  Only builds with debug assertions
look. -/
inductive SourceFault (profile : Profile) (wordSize : WordSize) (ptr : Addr) (len : Nat) :
    Panic -> Prop
  | misaligned : profile.debugAssertions = true -> wordSize = .twoBytes -> ¬ ptr.toNat % 2 = 0 ->
      SourceFault profile wordSize ptr len .sourceNotAligned
  | odd : profile.debugAssertions = true -> wordSize = .twoBytes -> ptr.toNat % 2 = 0 ->
      ¬ len % 2 = 0 -> SourceFault profile wordSize ptr len .lengthNotMultipleOfTwo

section

variable {ptr : Addr} {len : Nat}

/-- Other ports read every block. -/
theorem SourceFault.width (fault : SourceFault profile wordSize ptr len panic) :
    wordSize = .twoBytes := by
  cases fault with
  | misaligned _ halfwords _ => exact halfwords
  | odd _ halfwords _ _ => exact halfwords

/-- The word size is looked at first, then the block, and what remains is up to `write`. -/
theorem withElements_eq_error_iff {α : Type} {refusal : Panic} {write : Nat -> Except Panic α} :
    withElements profile refusal ptr len wordSize write = .error panic ↔
      (wordSize = .fourBytes ∧ panic = refusal) ∨ SourceFault profile wordSize ptr len panic ∨
        wordSize.Supported ∧ SourceChecks profile wordSize ptr len ∧
          write (len / wordSize.bytes) = .error panic := by
  cases wordSize with
  | oneByte =>
      rw [WordSize.bytes, Nat.div_one]
      constructor
      · intro refused
        exact Or.inr (Or.inr ⟨Or.inl rfl, fun _ impossible => WordSize.noConfusion impossible,
          refused⟩)
      · rintro (⟨impossible, _⟩ | fault | ⟨_, _, refused⟩)
        · cases impossible
        · cases fault.width
        · exact refused
  | twoBytes =>
      simp only [withElements, bind_eq_error, debugAssert_eq_error_iff, debugAssert_eq_ok_iff,
        exists_and_left, exists_const]
      constructor
      · rintro (⟨enabled, misaligned, same⟩ | ⟨aligned, ⟨enabled, odd, same⟩ | ⟨even, refused⟩⟩)
        · rw [same]
          exact Or.inr (Or.inl (.misaligned enabled rfl misaligned))
        · rw [same]
          exact Or.inr (Or.inl (.odd enabled rfl (aligned enabled) odd))
        · exact Or.inr (Or.inr ⟨Or.inr rfl, fun enabled _ => ⟨aligned enabled, even enabled⟩,
            refused⟩)
      · rintro (⟨impossible, _⟩ | fault | ⟨_, checks, refused⟩)
        · cases impossible
        · cases fault with
          | misaligned enabled _ misaligned => exact Or.inl ⟨enabled, misaligned, rfl⟩
          | odd enabled _ aligned odd => exact Or.inr ⟨fun _ => aligned, Or.inl ⟨enabled, odd, rfl⟩⟩
        · exact Or.inr ⟨fun enabled => (checks enabled rfl).1,
            Or.inr ⟨fun enabled => (checks enabled rfl).2, refused⟩⟩
  | fourBytes =>
      simp only [withElements, Except.error.injEq, true_and]
      constructor
      · exact fun same => Or.inl same.symm
      · rintro (same | fault | ⟨impossible | impossible, _⟩)
        · exact same.symm
        · cases fault.width
        · cases impossible
        · cases impossible

end

/-! ## The plain backend -/

namespace Dma

/-- A segment that cannot be extracted. -/
inductive SegmentFault (profile : Profile) (fb : FrameBuffer) (i : Nat) : Panic -> Prop
  | null : profile.debugAssertions = true -> (fb.bcmSegment i).ptr = 0 ->
      SegmentFault profile fb i (.nullSegmentPointer i)

/-- A block for which no transfer can be started. -/
inductive TransferFault (profile : Profile) (api : ChannelApi) (request : Nat) (ptr : Addr)
    (len : Nat) (odrAddr : Addr) (wordSize : WordSize) : Panic -> Prop
  | width : wordSize = .fourBytes ->
      TransferFault profile api request ptr len odrAddr wordSize .dmaWordSize
  | source {panic : Panic} : SourceFault profile wordSize ptr len panic ->
      TransferFault profile api request ptr len odrAddr wordSize panic
  | foreign {panic : Panic} : wordSize.Supported -> SourceChecks profile wordSize ptr len ->
      api.writeRaw (blockTransfer request ptr len odrAddr wordSize) = .error panic ->
      TransferFault profile api request ptr len odrAddr wordSize panic

/-- What is wrong with a framebuffer for the plain backend.  All segments are asked for
their pointers, but only the first one for its alignment and its length. -/
inductive StartFault (profile : Profile) (api : ChannelApi) (fb : FrameBuffer) (request : Nat)
    (odrAddr : Addr) (wordSize : WordSize) : Panic -> Prop
  | count : ¬ fb.CountInRange ->
      StartFault profile api fb request odrAddr wordSize
        (.segmentCountOutOfRange fb.bcmSegmentCount)
  | segment {i : Nat} {panic : Panic} : fb.CountInRange ->
      FirstFault (SegmentFault profile fb) fb.bcmSegmentCount i panic ->
      StartFault profile api fb request odrAddr wordSize panic
  | transfer {panic : Panic} : fb.CountInRange ->
      (forall i, i < fb.bcmSegmentCount -> forall other, ¬ SegmentFault profile fb i other) ->
      TransferFault profile api request (fb.bcmSegment 0).ptr (fb.bcmSegment 0).len odrAddr wordSize
        panic ->
      StartFault profile api fb request odrAddr wordSize panic

theorem readSegment_eq_error_iff {i : Nat} :
    readSegment profile fb i = .error panic ↔ SegmentFault profile fb i panic := by
  simp only [readSegment, bind_eq_error, debugAssert_eq_error_iff, pure, Except.pure, reduceCtorEq,
    and_false, exists_false, or_false, ne_eq, Decidable.not_not]
  constructor
  · rintro ⟨enabled, null, same⟩
    rw [same]
    exact .null enabled null
  · intro fault
    cases fault with
    | null enabled null => exact ⟨enabled, null, rfl⟩

theorem segmentsFromFbInto_eq_error_iff {cache : SegmentCache} :
    segmentsFromFbInto profile fb cache = .error panic ↔
      (¬ fb.CountInRange ∧ panic = .segmentCountOutOfRange fb.bcmSegmentCount) ∨
        fb.CountInRange ∧ Exists fun i =>
          FirstFault (SegmentFault profile fb) fb.bcmSegmentCount i panic := by
  simp only [segmentsFromFbInto, bind_eq_error, assertThat_eq_error_iff, assertThat_eq_ok_iff,
    exists_and_left, exists_const, pure, Except.pure, reduceCtorEq, and_false, exists_false,
    or_false]
  apply or_congr_right
  apply and_congr_right
  intro range
  rw [fillFrom_range_eq_error_iff range.2]
  simp only [readSegment_eq_error_iff]

/-- Without a fault, the checks of the extraction hold. -/
theorem nonnull_of_faultless
    (faultless : forall i, i < fb.bcmSegmentCount ->
      forall other, ¬ SegmentFault profile fb i other)
    (enabled : profile.debugAssertions = true) (i : Nat) (inside : i < fb.bcmSegmentCount) :
    (fb.bcmSegment i).ptr ≠ 0 :=
  fun null => faultless i inside _ (.null enabled null)

variable {api : ChannelApi}

theorem writeRaw_eq_error_iff {channel : Channel} {transfer : Transfer} :
    channel.writeRaw api transfer = .error panic ↔ api.writeRaw transfer = .error panic := by
  simp only [Channel.writeRaw, bind_eq_error, pure, Except.pure, reduceCtorEq, and_false,
    exists_false, or_false]

theorem kickDma_eq_error_iff {channel : Channel} {request len : Nat} {ptr odrAddr : Addr} :
    kickDma profile api channel request ptr len odrAddr wordSize = .error panic ↔
      TransferFault profile api request ptr len odrAddr wordSize panic := by
  rw [kickDma_eq, withElements_eq_error_iff]
  simp only [bind_eq_error, writeRaw_eq_error_iff, pure, Except.pure, reduceCtorEq, and_false,
    exists_false, or_false]
  constructor
  · rintro (⟨width, same⟩ | fault | ⟨supported, checks, refused⟩)
    · rw [same]
      exact .width width
    · exact .source fault
    · exact .foreign supported checks refused
  · intro fault
    cases fault with
    | width width => exact Or.inl ⟨width, rfl⟩
    | source fault => exact Or.inr (Or.inl fault)
    | foreign supported checks refused => exact Or.inr (Or.inr ⟨supported, checks, refused⟩)

variable {core : IsrCore} {state : IsrCoreState}

theorem kickCurrent_eq_error_iff (loaded : Loaded fb state.bcm.cache)
    (inside : state.bcm.currentSegment < fb.bcmSegmentCount) :
    core.kickCurrent profile api state = .error panic ↔
      TransferFault profile api state.dmaRequest (fb.bcmSegment state.bcm.currentSegment).ptr
        (fb.bcmSegment state.bcm.currentSegment).len state.odrAddr state.wordSize panic := by
  unfold IsrCore.kickCurrent
  rw [bind_of_eq_ok (BcmState.currentSegmentData_eq loaded inside)]
  simp only [bind_eq_error, kickDma_eq_error_iff, pure, Except.pure, reduceCtorEq, and_false,
    exists_false, or_false]

theorem startFirstTransfer_eq_error_iff (present : core.state = some state) {fbPtr : Addr} :
    core.startFirstTransfer profile api fb fbPtr = .error panic ↔
      StartFault profile api fb state.dmaRequest state.odrAddr state.wordSize panic := by
  simp only [IsrCore.startFirstTransfer, present, bind_eq_error]
  have unloaded : state.bcm.load profile fb = .error panic ↔
      segmentsFromFbInto profile fb state.bcm.cache = .error panic := by
    simp only [BcmState.load, bind_eq_error, pure, Except.pure, reduceCtorEq, and_false,
      exists_false, or_false]
  rw [unloaded, segmentsFromFbInto_eq_error_iff]
  constructor
  · rintro ((⟨refused, same⟩ | ⟨range, i, first⟩) | ⟨bcm, loads, refused⟩)
    · rw [same]
      exact .count refused
    · exact .segment range first
    · rcases BcmState.load_eq_ok_iff.mp loads with ⟨extracted, origin⟩
      rcases segmentsFromFbInto_eq_ok_iff.mp extracted with ⟨range, nonnull, loaded, _⟩
      have atStart : bcm.currentSegment = 0 := congrArg Cursor.index origin
      have fault := (kickCurrent_eq_error_iff loaded (atStart ▸ range.1)).mp refused
      rw [atStart] at fault
      refine .transfer range (fun i inside other found => ?_) fault
      cases found with
      | null enabled null => exact nonnull enabled i inside null
  · intro fault
    cases fault with
    | count refused => exact Or.inl (Or.inl ⟨refused, rfl⟩)
    | segment range first => exact Or.inl (Or.inr ⟨range, _, first⟩)
    | transfer range faultless fault =>
        rcases segmentsFromFbInto_ok state.bcm.cache range (nonnull_of_faultless faultless) with
          ⟨cache, extracted⟩
        rcases segmentsFromFbInto_eq_ok_iff.mp extracted with ⟨_, _, loaded, _⟩
        refine Or.inr ⟨⟨cache, 0, 0⟩, BcmState.load_eq_ok_iff.mpr ⟨extracted, rfl⟩, ?_⟩
        exact (kickCurrent_eq_error_iff loaded range.1).mpr fault

end Dma

/-! ## Faults of one item -/

namespace Gpdma

/-- A block for which no item can be written. -/
inductive ItemFault {Config I : Type} (profile : Profile) (api : ItemApi Config I) (request : Nat)
    (ptr : Addr) (len : Nat) (odrAddr : Addr) (wordSize : WordSize) (config : Config) :
    Panic -> Prop
  | width : wordSize = .fourBytes ->
      ItemFault profile api request ptr len odrAddr wordSize config .gpdmaWordSize
  | source {panic : Panic} : SourceFault profile wordSize ptr len panic ->
      ItemFault profile api request ptr len odrAddr wordSize config panic
  | foreign {panic : Panic} : wordSize.Supported -> SourceChecks profile wordSize ptr len ->
      api.newWrite request ptr (len / wordSize.bytes) wordSize odrAddr config = .error panic ->
      ItemFault profile api request ptr len odrAddr wordSize config panic

section

variable {Config I : Type} {api : ItemApi Config I} {base odrAddr : Addr}
  {size capacity request : Nat} {config : Config}

theorem newWriteItem_eq_error_iff {ptr : Addr} {len : Nat} :
    newWriteItem profile api request ptr len odrAddr wordSize config = .error panic ↔
      ItemFault profile api request ptr len odrAddr wordSize config panic := by
  rw [newWriteItem_eq, withElements_eq_error_iff]
  constructor
  · rintro (⟨width, same⟩ | fault | ⟨supported, checks, refused⟩)
    · rw [same]
      exact .width width
    · exact .source fault
    · exact .foreign supported checks refused
  · intro fault
    cases fault with
    | width width => exact Or.inl ⟨width, rfl⟩
    | source fault => exact Or.inr (Or.inl fault)
    | foreign supported checks refused => exact Or.inr (Or.inr ⟨supported, checks, refused⟩)

/-- Within the table, the link adds no fault. -/
theorem encodeItem_eq_error_iff {segment : BcmSegment} {next : Nat} (inside : next < capacity) :
    encodeItem profile api base size capacity request segment odrAddr wordSize config next =
        .error panic ↔
      ItemFault profile api request segment.ptr segment.len odrAddr wordSize config panic := by
  have linked (item : I) : linkItem api base size capacity item next =
      .ok (api.linkTo item (itemOffset (itemAddress base size next))) := if_pos inside
  simp only [encodeItem, bind_eq_error, newWriteItem_eq_error_iff, linked, reduceCtorEq, and_false,
    exists_false, or_false]

/-- For a placed table, the region check raises its own panic and no other. -/
theorem assertOneRegion_eq_error_iff {failure : Panic} {total : Nat}
    (placement : Placement base size capacity) (nonnull : 0 < base.toNat + size * total)
    (inside : total ≤ capacity) :
    assertOneRegion profile failure base size total = .error panic ↔
      ¬ assertOneRegion profile failure base size total = .ok () ∧ panic = failure := by
  rw [assertOneRegion_eq placement nonnull inside, assertThat_eq_error_iff, assertThat_eq_ok_iff]

end

/-! ## The linear backend -/

/-- The configuration of the item in slot `idx` of `total`. -/
def linearConfig (total idx : Nat) : LinearItemConfig :=
  if idx + 1 = total then ⟨.eachLinkedListItem⟩ else ⟨.lastLinkedListItem⟩

/-- A slot whose item cannot be written. -/
def SlotFault (profile : Profile) (api : ItemApi LinearItemConfig LinearItem) (fb : FrameBuffer)
    (odrAddr : Addr) (wordSize : WordSize) (request idx : Nat) (panic : Panic) : Prop :=
  Exists fun i => (linearSlots fb)[idx]? = some i ∧
    ItemFault profile api request (fb.bcmSegment i).ptr (fb.bcmSegment i).len odrAddr wordSize
      (linearConfig (frameReps fb) idx) panic

/-- What is wrong with a framebuffer for the linear builder.  A segment without
repetitions has no slot and is not looked at.  A frame without items passes the limit, and
the region check then looks at the byte before the table. -/
inductive BuildFault (profile : Profile) (api : ItemApi LinearItemConfig LinearItem) (base : Addr)
    (fb : FrameBuffer) (odrAddr : Addr) (wordSize : WordSize) (request : Nat) : Panic -> Prop
  | count : ¬ fb.CountInRange ->
      BuildFault profile api base fb odrAddr wordSize request
        (.segmentCountOutOfRange fb.bcmSegmentCount)
  | overflow : fb.CountInRange -> 0x100000000 ≤ frameReps fb ->
      BuildFault profile api base fb odrAddr wordSize request .arithmeticOverflow
  | limit : fb.CountInRange -> frameReps fb < 0x100000000 -> maxDescriptors < frameReps fb ->
      BuildFault profile api base fb odrAddr wordSize request .tooManyDescriptors
  | blank : fb.CountInRange -> frameReps fb = 0 -> base.toNat % 0x10000 = 0 ->
      BuildFault profile api base fb odrAddr wordSize request .chainSpansBoundary
  | region : fb.CountInRange -> frameReps fb ≤ maxDescriptors ->
      ¬ OneRegion base linearItemSize (frameReps fb) ->
      BuildFault profile api base fb odrAddr wordSize request .chainSpansBoundary
  | slot {idx : Nat} {panic : Panic} : fb.CountInRange -> frameReps fb ≤ maxDescriptors ->
      OneRegion base linearItemSize (frameReps fb) ->
      FirstFault (SlotFault profile api fb odrAddr wordSize request) (frameReps fb) idx panic ->
      BuildFault profile api base fb odrAddr wordSize request panic

section

variable {api : ItemApi LinearItemConfig LinearItem} {base odrAddr : Addr} {request : Nat}

/-- With overflow checks, a sum that does not fit is not computed. -/
theorem sumReps_overflows (checks : profile.overflowChecks = true)
    (large : 0x100000000 ≤ frameReps fb) : sumReps profile fb = .error .arithmeticOverflow := by
  unfold sumReps frameReps at *
  generalize fb.bcmSegmentCount = count at large ⊢
  induction count with
  | zero =>
      rw [Finset.sum_range_zero] at large
      exact absurd large (by decide)
  | succ count inductionHypothesis =>
      rw [List.range_succ, List.foldlM_append]
      rcases Nat.lt_or_ge (∑ i ∈ Finset.range count, (fb.bcmSegment i).reps) 0x100000000 with
        small | already
      · have before : sumReps profile { fb with bcmSegmentCount := count } = .ok _ := sumReps_eq small
        unfold sumReps at before
        rw [bind_of_eq_ok before, List.foldlM_cons]
        refine bind_eq_error.mpr (Or.inl ?_)
        rw [Finset.sum_range_succ] at large
        exact usizeAdd_overflows checks large
      · rw [inductionHypothesis already]
        rfl

theorem chainItem_eq_error_iff {total idx i : Nat} (active : idx < total)
    (limit : total ≤ maxDescriptors) :
    chainItem profile api base fb odrAddr wordSize request total idx i = .error panic ↔
      ItemFault profile api request (fb.bcmSegment i).ptr (fb.bcmSegment i).len odrAddr wordSize
        (linearConfig total idx) panic := by
  have inside : (if idx + 1 = total then 0 else idx + 1) < maxDescriptors := by
    split <;> omega
  exact encodeItem_eq_error_iff inside

/-- The items are written slot by slot. -/
theorem fillGroups_linear_eq_error_iff {items : Vector LinearItem maxDescriptors}
    (limit : frameReps fb ≤ maxDescriptors) :
    fillGroups .indexOutOfBounds (fun i => (fb.bcmSegment i).reps)
        (fun idx i => chainItem profile api base fb odrAddr wordSize request (frameReps fb) idx i)
        (List.range fb.bcmSegmentCount) 0 items = .error panic ↔
      Exists fun idx => FirstFault (SlotFault profile api fb odrAddr wordSize request)
        (frameReps fb) idx panic := by
  rw [fillGroups_eq_fillFrom]
  change fillFrom _ _ (linearSlots fb) 0 items = _ ↔ _
  have room : 0 + (linearSlots fb).length ≤ maxDescriptors := by
    rw [length_linearSlots, Nat.zero_add]
    exact limit
  rw [fillFrom_eq_error_iff room, length_linearSlots]
  apply exists_congr
  intro idx
  apply FirstFault.congr
  intro j active other
  unfold Unproducible SlotFault
  apply exists_congr
  intro i
  rw [Nat.zero_add, chainItem_eq_error_iff active limit]

/-- The region check looks at all active bytes, or at the byte before the table. -/
theorem assertOneRegion_linear_iff (placement : Placement base linearItemSize maxDescriptors)
    (nonnull : 0 < base.toNat) {failure : Panic} {total : Nat} (limit : total ≤ maxDescriptors) :
    assertOneRegion profile failure base linearItemSize total = .ok () ↔
      OneRegion base linearItemSize total ∧ ¬ (total = 0 ∧ base.toNat % 0x10000 = 0) := by
  rcases Nat.eq_zero_or_pos total with blank | positive
  · have region : OneRegion base linearItemSize 0 := fun _ impossible => by omega
    rw [blank, assertOneRegion_eq placement (by omega) (Nat.zero_le _), assertThat_eq_ok_iff,
      and_iff_right region]
    omega
  · have items : 0 < linearItemSize * total := Nat.mul_pos (by decide) positive
    have active : ¬ (total = 0 ∧ base.toNat % 0x10000 = 0) := by omega
    rw [assertOneRegion_eq_ok_iff placement items limit, and_iff_left active]

/-- When the repetitions can be counted, the checks are made one after the other. -/
theorem buildItemChain_countable_eq_error_iff
    (placement : Placement base linearItemSize maxDescriptors) (nonnull : 0 < base.toNat)
    (small : frameReps fb < 0x100000000) {items : Vector LinearItem maxDescriptors} :
    buildItemChain profile api base items fb odrAddr wordSize request = .error panic ↔
      BuildFault profile api base fb odrAddr wordSize request panic := by
  simp only [buildItemChain, sumReps_eq small, bind_eq_error, assertThat_eq_error_iff,
    assertThat_eq_ok_iff, Except.ok.injEq, exists_and_left, exists_const, exists_eq_left', pure,
    Except.pure, reduceCtorEq, and_false, exists_false, or_false, false_or]
  have passes (limit : frameReps fb ≤ maxDescriptors) :
      assertOneRegion profile .chainSpansBoundary base linearItemSize (frameReps fb) = .ok () ↔
        OneRegion base linearItemSize (frameReps fb) ∧
          ¬ (frameReps fb = 0 ∧ base.toNat % 0x10000 = 0) :=
    assertOneRegion_linear_iff placement nonnull limit
  constructor
  · rintro (⟨refused, same⟩ | ⟨range, ⟨above, same⟩ | ⟨limit, checked⟩⟩)
    · rw [same]
      exact .count refused
    · rw [same]
      exact .limit range small (Nat.lt_of_not_le above)
    · rcases checked with failed | ⟨_, passed, refused⟩
      · rcases (assertOneRegion_eq_error_iff placement (by omega) limit).mp failed with
          ⟨fails, same⟩
        rw [same]
        by_cases region : OneRegion base linearItemSize (frameReps fb)
        · by_cases blank : frameReps fb = 0 ∧ base.toNat % 0x10000 = 0
          · exact .blank range blank.1 blank.2
          · exact absurd ((passes limit).mpr ⟨region, blank⟩) fails
        · exact .region range limit region
      · rcases (fillGroups_linear_eq_error_iff limit).mp refused with ⟨idx, first⟩
        exact .slot range limit ((passes limit).mp passed).1 first
  · intro fault
    cases fault with
    | count refused => exact Or.inl ⟨refused, rfl⟩
    | overflow _ large => exact absurd small (Nat.not_lt_of_ge large)
    | limit range _ above => exact Or.inr ⟨range, Or.inl ⟨Nat.not_le_of_lt above, rfl⟩⟩
    | blank range blank boundary =>
        have limit : frameReps fb ≤ maxDescriptors := by omega
        refine Or.inr ⟨range, Or.inr ⟨limit, Or.inl ?_⟩⟩
        refine (assertOneRegion_eq_error_iff placement (by omega) limit).mpr ⟨?_, rfl⟩
        exact fun passed => ((passes limit).mp passed).2 ⟨blank, boundary⟩
    | region range limit spans =>
        refine Or.inr ⟨range, Or.inr ⟨limit, Or.inl ?_⟩⟩
        refine (assertOneRegion_eq_error_iff placement (by omega) limit).mpr ⟨?_, rfl⟩
        exact fun passed => spans ((passes limit).mp passed).1
    | slot range limit region first =>
        have active : ¬ (frameReps fb = 0 ∧ base.toNat % 0x10000 = 0) := by
          have inside := first.inside
          omega
        refine Or.inr ⟨range, Or.inr ⟨limit, Or.inr ⟨(), ?_, ?_⟩⟩⟩
        · exact (passes limit).mpr ⟨region, active⟩
        · exact (fillGroups_linear_eq_error_iff limit).mpr ⟨_, first⟩

/-- Otherwise nothing is checked after the count. -/
theorem buildItemChain_overflows_iff (checks : profile.overflowChecks = true)
    (large : 0x100000000 ≤ frameReps fb) {items : Vector LinearItem maxDescriptors} :
    buildItemChain profile api base items fb odrAddr wordSize request = .error panic ↔
      BuildFault profile api base fb odrAddr wordSize request panic := by
  simp only [buildItemChain, sumReps_overflows checks large, bind_eq_error, assertThat_eq_error_iff,
    assertThat_eq_ok_iff, Except.error.injEq, exists_and_left, exists_const, reduceCtorEq, false_and,
    or_false]
  have beyond : maxDescriptors < frameReps fb := Nat.lt_of_lt_of_le (by decide) large
  constructor
  · rintro (⟨refused, same⟩ | ⟨range, same⟩)
    · rw [same]
      exact .count refused
    · rw [← same]
      exact .overflow range large
  · intro fault
    cases fault with
    | count refused => exact Or.inl ⟨refused, rfl⟩
    | overflow range _ => exact Or.inr ⟨range, rfl⟩
    | limit _ small _ => exact absurd small (Nat.not_lt_of_ge large)
    | blank _ blank _ => omega
    | region _ limit _ => exact absurd limit (Nat.not_le_of_lt beyond)
    | slot _ limit _ _ => exact absurd limit (Nat.not_le_of_lt beyond)

theorem buildItemChain_eq_error_iff (placement : Placement base linearItemSize maxDescriptors)
    (nonnull : 0 < base.toNat)
    (countable : profile.overflowChecks = true ∨ frameReps fb < 0x100000000)
    {items : Vector LinearItem maxDescriptors} :
    buildItemChain profile api base items fb odrAddr wordSize request = .error panic ↔
      BuildFault profile api base fb odrAddr wordSize request panic := by
  rcases Nat.lt_or_ge (frameReps fb) 0x100000000 with small | large
  · exact buildItemChain_countable_eq_error_iff placement nonnull small
  · have checks : profile.overflowChecks = true :=
      countable.resolve_right (Nat.not_lt_of_ge large)
    exact buildItemChain_overflows_iff checks large

end

end Gpdma

/-! ## The 2D backend -/

namespace Gpdma2d

open Gpdma

/-- A segment that the 2D builder refuses.  It looks at every segment, whether it is
repeated or not. -/
inductive SegmentFault (profile : Profile) (api : ItemApi TwoDConfig TwoDItem) (fb : FrameBuffer)
    (odrAddr : Addr) (wordSize : WordSize) (request i : Nat) : Panic -> Prop
  | reps : ¬ (1 ≤ (fb.bcmSegment i).reps ∧ (fb.bcmSegment i).reps ≤ 2048) ->
      SegmentFault profile api fb odrAddr wordSize request i
        (.repsOutOfRange i (fb.bcmSegment i).reps)
  | length : 1 ≤ (fb.bcmSegment i).reps ∧ (fb.bcmSegment i).reps ≤ 2048 ->
      0x80000000 ≤ (fb.bcmSegment i).len ->
      SegmentFault profile api fb odrAddr wordSize request i .segmentTooLong
  | item {panic : Panic} : 1 ≤ (fb.bcmSegment i).reps ∧ (fb.bcmSegment i).reps ≤ 2048 ->
      (fb.bcmSegment i).len < 0x80000000 ->
      ItemFault profile api request (fb.bcmSegment i).ptr (fb.bcmSegment i).len odrAddr wordSize
        (twoDConfig fb i) panic ->
      SegmentFault profile api fb odrAddr wordSize request i panic

/-- What is wrong with a framebuffer for the 2D builder. -/
inductive BuildFault (profile : Profile) (api : ItemApi TwoDConfig TwoDItem) (base : Addr)
    (fb : FrameBuffer) (odrAddr : Addr) (wordSize : WordSize) (request : Nat) : Panic -> Prop
  | count : ¬ fb.CountInRange ->
      BuildFault profile api base fb odrAddr wordSize request
        (.segmentCountOutOfRange fb.bcmSegmentCount)
  | region : fb.CountInRange -> ¬ OneRegion base twoDItemSize fb.bcmSegmentCount ->
      BuildFault profile api base fb odrAddr wordSize request .chain2dSpansBoundary
  | segment {i : Nat} {panic : Panic} : fb.CountInRange ->
      OneRegion base twoDItemSize fb.bcmSegmentCount ->
      FirstFault (SegmentFault profile api fb odrAddr wordSize request) fb.bcmSegmentCount i
        panic ->
      BuildFault profile api base fb odrAddr wordSize request panic

theorem i32TryFrom_eq_error_iff {len : Nat} :
    i32TryFrom len = .error panic ↔ 0x80000000 ≤ len ∧ panic = .segmentTooLong := by
  unfold i32TryFrom
  by_cases fits : len < 0x80000000
  · rw [if_pos fits]
    exact iff_of_false (fun impossible => by cases impossible)
      fun long => Nat.not_le_of_lt fits long.1
  · rw [if_neg fits, Except.error.injEq, and_iff_right (Nat.le_of_not_lt fits)]
    exact eq_comm

variable {api : ItemApi TwoDConfig TwoDItem} {base odrAddr : Addr} {request : Nat}

/-- The second range check, in the conversion of the count, never fails. -/
theorem chainItem2d_eq_error_iff {i : Nat} (range : fb.CountInRange)
    (inside : i < fb.bcmSegmentCount) :
    chainItem2d profile api base fb odrAddr wordSize request i = .error panic ↔
      SegmentFault profile api fb odrAddr wordSize request i panic := by
  have next : (if i + 1 < fb.bcmSegmentCount then i + 1 else 0) < maxSegments := by
    have limit := range.2
    split <;> omega
  have converted (inRange : 1 ≤ (fb.bcmSegment i).reps ∧ (fb.bcmSegment i).reps ≤ 2048) :
      u16TryFrom ((fb.bcmSegment i).reps - 1) = .ok ((fb.bcmSegment i).reps - 1) :=
    u16TryFrom_eq_ok_iff.mpr ⟨by omega, rfl⟩
  simp only [chainItem2d, bind_eq_error, assertThat_eq_error_iff, assertThat_eq_ok_iff,
    exists_and_left, exists_const, i32TryFrom_eq_error_iff, i32TryFrom_eq_ok_iff,
    encodeItem_eq_error_iff next]
  constructor
  · rintro (⟨refused, same⟩ | ⟨inRange, refused⟩)
    · rw [same]
      exact .reps refused
    · rw [converted inRange] at refused
      rcases refused with impossible | ⟨_, same, ⟨long, refused⟩ | ⟨_, ⟨short, length⟩, fault⟩⟩
      · cases impossible
      · rw [refused]
        exact .length inRange long
      · cases same
        subst length
        exact .item inRange short fault
  · intro fault
    cases fault with
    | reps refused => exact Or.inl ⟨refused, rfl⟩
    | length inRange long =>
        exact Or.inr ⟨inRange, Or.inr ⟨_, converted inRange, Or.inl ⟨long, rfl⟩⟩⟩
    | item inRange short fault =>
        exact Or.inr ⟨inRange, Or.inr ⟨_, converted inRange, Or.inr ⟨_, ⟨short, rfl⟩, fault⟩⟩⟩

theorem buildItemChain2d_eq_error_iff (placement : Placement base twoDItemSize maxSegments)
    {items : Vector TwoDItem maxSegments} :
    buildItemChain2d profile api base items fb odrAddr wordSize request = .error panic ↔
      BuildFault profile api base fb odrAddr wordSize request panic := by
  simp only [buildItemChain2d, bind_eq_error, assertThat_eq_error_iff, assertThat_eq_ok_iff,
    exists_and_left, exists_const, pure, Except.pure, reduceCtorEq, and_false, exists_false,
    or_false]
  have nonempty (range : fb.CountInRange) : 0 < twoDItemSize * fb.bcmSegmentCount :=
    Nat.mul_pos (by decide) range.1
  have passes (range : fb.CountInRange) :
      assertOneRegion profile .chain2dSpansBoundary base twoDItemSize fb.bcmSegmentCount = .ok () ↔
        OneRegion base twoDItemSize fb.bcmSegmentCount :=
    assertOneRegion_eq_ok_iff placement (nonempty range) range.2
  have fails (range : fb.CountInRange) :
      assertOneRegion profile .chain2dSpansBoundary base twoDItemSize fb.bcmSegmentCount =
          .error panic ↔
        ¬ OneRegion base twoDItemSize fb.bcmSegmentCount ∧ panic = .chain2dSpansBoundary := by
    have positive := nonempty range
    rw [assertOneRegion_eq_error_iff placement (by omega) range.2, passes range]
  have fills (range : fb.CountInRange) :
      fillFrom .indexOutOfBounds
          (fun _ i => chainItem2d profile api base fb odrAddr wordSize request i)
          (List.range fb.bcmSegmentCount) 0 items = .error panic ↔
        Exists fun i => FirstFault (SegmentFault profile api fb odrAddr wordSize request)
          fb.bcmSegmentCount i panic := by
    rw [fillFrom_range_eq_error_iff range.2]
    apply exists_congr
    intro i
    exact FirstFault.congr fun j inside other => chainItem2d_eq_error_iff range inside
  constructor
  · rintro (⟨refused, same⟩ | ⟨range, failed | ⟨_, passed, refused⟩⟩)
    · rw [same]
      exact .count refused
    · rcases (fails range).mp failed with ⟨spans, same⟩
      rw [same]
      exact .region range spans
    · rcases (fills range).mp refused with ⟨i, first⟩
      exact .segment range ((passes range).mp passed) first
  · intro fault
    cases fault with
    | count refused => exact Or.inl ⟨refused, rfl⟩
    | region range spans => exact Or.inr ⟨range, Or.inl ((fails range).mpr ⟨spans, rfl⟩)⟩
    | segment range region first =>
        refine Or.inr ⟨range, Or.inr ⟨(), (passes range).mpr region, ?_⟩⟩
        exact (fills range).mpr ⟨_, first⟩

end Gpdma2d

/-! ## All backends -/

open Gpdma Gpdma2d

/-- A driver refuses a framebuffer at the start exactly for its first fault.  The plain
driver raises the panic of the fault, whatever its core has been through before.  So do the
two builders for a table anywhere in memory, whatever is in it.  Only a linear builder
without overflow checks is asked for a frame whose repetitions 32 bits can count. -/
theorem refused_for_first_fault (profile : Profile) (fb : FrameBuffer) (wordSize : WordSize)
    (request : Nat) (odrAddr base : Addr) (nonnull : 0 < base.toNat) (panic : Panic) :
    (forall (api : Dma.ChannelApi) (core : Dma.IsrCore) (state : Dma.IsrCoreState) (fbPtr : Addr),
      core.state = some state -> state.port = (request, odrAddr, wordSize) ->
        (core.startFirstTransfer profile api fb fbPtr = .error panic ↔
          Dma.StartFault profile api fb request odrAddr wordSize panic)) ∧
    (profile.overflowChecks = true ∨ frameReps fb < 0x100000000 ->
      Placement base linearItemSize maxDescriptors -> forall api items,
        (buildItemChain profile api base items fb odrAddr wordSize request = .error panic ↔
          Gpdma.BuildFault profile api base fb odrAddr wordSize request panic)) ∧
    (Placement base twoDItemSize maxSegments ->
      forall api items,
        (buildItemChain2d profile api base items fb odrAddr wordSize request = .error panic ↔
          Gpdma2d.BuildFault profile api base fb odrAddr wordSize request panic)) := by
  refine ⟨fun api core state fbPtr present port => ?_, fun countable placement api items => ?_,
    fun placement api items => ?_⟩
  · cases port
    exact Dma.startFirstTransfer_eq_error_iff present
  · exact buildItemChain_eq_error_iff placement nonnull countable
  · exact buildItemChain2d_eq_error_iff placement

/-- A framebuffer whose second segment is never filled in. -/
def halfFilled : FrameBuffer where
  bcmSegmentCount := 2
  bcmSegment i := if i = 0 then ⟨0x20001000, 64, 1⟩ else emptySegment
  bcmSegmentsPerGroup := 1

/-- With debug assertions the plain driver finds the null pointer.  The 2D builder finds
the count of zero.  The linear builder finds only that its table spans a boundary. -/
theorem refused_for_first_fault_of_halfFilled :
    Dma.initialisedCore.startFirstTransfer ⟨true, true⟩ Dma.assertingApi halfFilled 0x20000040 =
        .error (.nullSegmentPointer 1) ∧
      buildItemChain ⟨true, true⟩ Registers.linearApi 0x2000FFF8
          (Vector.replicate maxDescriptors zeroedLinearItem) halfFilled 0x40020814 .oneByte 5 =
        .error .chainSpansBoundary ∧
      buildItemChain2d ⟨true, true⟩ Registers.twoDApi 0x20000000
          (Vector.replicate maxSegments zeroedTwoDItem) halfFilled 0x40020814 .oneByte 5 =
        .error (.repsOutOfRange 1 0) := by
  have range : halfFilled.CountInRange := ⟨by decide, by decide⟩
  have frame : frameReps halfFilled = 1 := by decide
  refine ⟨?_, ?_, ?_⟩
  · have refused := (refused_for_first_fault ⟨true, true⟩ halfFilled .oneByte 5 0x40020815
      0x20000000 (by decide) (.nullSegmentPointer 1)).1
    refine (refused _ _ _ _ rfl rfl).mpr (.segment range ⟨by decide, .null rfl rfl, ?_⟩)
    intro j before other fault
    cases Nat.lt_one_iff.mp before
    cases fault with
    | null _ null => exact absurd null (by decide)
  · have refused := (refused_for_first_fault ⟨true, true⟩ halfFilled .oneByte 5 0x40020814
      0x2000FFF8 (by decide) .chainSpansBoundary).2.1
    refine (refused (Or.inl rfl) ⟨by decide, by decide⟩ Registers.linearApi _).mpr
      (.region range (by rw [frame]; decide) ?_)
    intro region
    have beyond := region 8 (by rw [frame]; decide)
    exact absurd beyond (by decide)
  · have refused := (refused_for_first_fault ⟨true, true⟩ halfFilled .oneByte 5 0x40020814
      0x20000000 (by decide) (.repsOutOfRange 1 0)).2.2
    have region : OneRegion 0x20000000 twoDItemSize halfFilled.bcmSegmentCount := by
      intro byte active
      have short : byte < 64 := active
      have start : (0x20000000 : Addr).toNat = 0x20000000 := rfl
      omega
    refine (refused ⟨by decide, by decide⟩ Registers.twoDApi _).mpr
      (.segment range region ⟨by decide, .reps (by decide), ?_⟩)
    intro j before other fault
    cases Nat.lt_one_iff.mp before
    cases fault with
    | reps outOfRange => exact outOfRange (by decide)
    | length _ long => exact absurd long (by decide)
    | item _ _ fault =>
        cases fault with
        | width impossible => cases impossible
        | source fault => cases fault.width
        | foreign _ _ refused =>
            rcases Registers.twoD_lawful.newWrite_ok 5 (halfFilled.bcmSegment 0).ptr 64 .oneByte
              0x40020814 (twoDConfig halfFilled 0) (by decide) (by decide) (by decide) with
              ⟨_, written⟩
            cases written.symm.trans refused

end Driver
end Hub75
