import Hub75.Driver.Dma
import Hub75.Driver.GpdmaSwap
import Hub75.Driver.Backend

namespace Hub75
namespace Driver

open Machine

/-!
# The delta of a swap

Every backend subtracts two addresses as signed words and adds the difference
back as an unsigned one.  The subtraction is the ordinary operator, so a build
with overflow checks panics when the difference leaves the signed range; the
additions wrap.  Modulo `0x100000000` nothing can go wrong: any delta that is
computed at all moves a table from one buffer to the other, and the opposite
delta moves it back.  Whether it is computed depends on where the two buffers
are, and `WithinReach` says exactly where.
-/

/-- The two addresses lie in the same half of the address space, or far enough apart
that their signed values are close again.  The distance of exactly half the space is in
reach upwards only. -/
def WithinReach (old new : Addr) : Prop :=
  (old.toNat < 0x80000000 ↔ new.toNat < 0x80000000) ∨
    old.toNat + 0x80000000 ≤ new.toNat ∨ new.toNat + 0x80000000 < old.toNat

instance (old new : Addr) : Decidable (WithinReach old new) :=
  inferInstanceAs (Decidable (_ ∨ _))

variable {profile : Profile} {old new delta : Addr}

theorem withinReach_iff :
    WithinReach old new ↔
      -0x80000000 ≤ new.toInt - old.toInt ∧ new.toInt - old.toInt < 0x80000000 := by
  have oldBound : old.toNat < 0x100000000 := old.isLt
  have newBound : new.toNat < 0x100000000 := new.isLt
  unfold WithinReach
  rw [BitVec.toInt_eq_toNat_cond, BitVec.toInt_eq_toNat_cond]
  split <;> split <;> omega

/-- With overflow checks the subtraction succeeds within reach only. -/
theorem isizeSub_checked_iff (checked : profile.overflowChecks = true) :
    (Exists fun delta => isizeSub profile new old = .ok delta) ↔ WithinReach old new := by
  rw [withinReach_iff]
  unfold isizeSub
  rw [checked]
  split
  · next fits => exact iff_of_true ⟨_, rfl⟩ fits
  · next overflows => exact iff_of_false (fun ⟨_, impossible⟩ => nomatch impossible) overflows

/-- Within reach it succeeds in every build. -/
theorem isizeSub_ok (profile : Profile) (reach : WithinReach old new) :
    isizeSub profile new old = .ok (new - old) :=
  if_pos (withinReach_iff.mp reach)

/-! ## Tables under a delta -/

namespace Gpdma

variable {I : Type} [Descriptor I] {capacity : Nat} {items : Vector I capacity}

theorem patchItem_getElem? (items : Vector I capacity) (delta : Addr) (j i : Nat) :
    (patchItem items delta j)[i]? =
      if i = j then items[i]?.map (Descriptor.shiftSar delta) else items[i]? := by
  unfold patchItem
  by_cases inside : j < capacity
  · rw [dif_pos inside]
    by_cases same : i = j
    · subst same
      rw [if_pos rfl, Vector.getElem?_set_self, Vector.getElem?_eq_getElem inside]
      rfl
    · rw [if_neg same, Vector.getElem?_set_ne inside (Ne.symm same)]
  · rw [dif_neg inside]
    split
    · next same =>
        rw [same, Vector.getElem?_eq_none (Nat.le_of_not_lt inside)]
        rfl
    · rfl

/-- The patch loop shifts the items it reaches and no others. -/
theorem patchItems_getElem? (items : Vector I capacity) (delta : Addr) (count i : Nat) :
    (patchItems items delta count)[i]? =
      if i < count then items[i]?.map (Descriptor.shiftSar delta) else items[i]? := by
  induction count with
  | zero => rw [patchItems, if_neg (Nat.not_lt_zero i)]
  | succ count inductionHypothesis =>
      rw [patchItems, patchItem_getElem?, inductionHypothesis]
      by_cases latest : i = count
      · rw [if_pos latest, if_neg (by omega), if_pos (by omega)]
      · have same : i < count ↔ i < count + 1 := by omega
        rw [if_neg latest]
        simp only [same]

theorem shiftSar_back (d : I) :
    Descriptor.shiftSar (old - new) (Descriptor.shiftSar (new - old) d) = d := by
  simp only [Descriptor.shiftSar, Descriptor.sar_setSar, Descriptor.setSar_setSar,
    add_retarget_back, Descriptor.setSar_sar]

/-- A table that was patched from one buffer to another is restored by the way back. -/
theorem patchItems_back (items : Vector I capacity) (count : Nat) :
    patchItems (patchItems items (new - old) count) (old - new) count = items := by
  apply table_ext
  intro i
  rw [patchItems_getElem?, patchItems_getElem?]
  split
  · rw [Option.map_map]
    have identity : Descriptor.shiftSar (old - new) ∘ Descriptor.shiftSar (new - old) =
        (id : I -> I) := by
      funext d
      exact shiftSar_back d
    rw [identity, Option.map_id]
    rfl
  · rfl

end Gpdma

/-- The cached pointers come back bit for bit. -/
theorem SegmentCache.applyDelta_back (cache : SegmentCache) :
    (cache.applyDelta (new - old)).applyDelta (old - new) = cache := by
  cases cache with
  | mk segments count segmentsPerGroup =>
      unfold SegmentCache.applyDelta
      congr 1
      apply Vector.ext
      intro i inside
      simp only [Vector.getElem_mapIdx]
      split
      · simp only [wrappingByteOffset, add_retarget_back]
      · rfl

/-! ## Swaps anywhere in the address space -/

/-- Every backend computes the delta of a swap from the buffer at `old` to the one at
`new`, in any build. -/
structure Computed (old new : Addr) : Prop where
  /-- Queueing the swap does not overflow in the plain backend. -/
  queued : forall (profile : Profile) (core : Dma.IsrCore) (state : Dma.IsrCoreState),
    core.state = some state -> state.currentFbPtr = old ->
      Exists fun after => core.swapInnerQueue profile new = .ok after
  /-- Entering it does not in the GPDMA backends. -/
  entered : forall (profile : Profile) (waitCount : Nat) (backend : Gpdma.Backend)
    (system : Gpdma.System backend.Item backend.capacity) (waker : Nat),
    system.progress = .called new -> system.currentFbPtr = old ->
      Exists fun after => Gpdma.System.step profile waitCount system (.enter waker) = some after

/-- A swap from the buffer at `old` to the one at `new` and the swap back, by any backend in
any build. -/
structure DeltaRight (old new : Addr) : Prop where
  there : Computed old new
  back : Computed new old
  cache_moves : forall (profile : Profile) (delta : Addr), isizeSub profile new old = .ok delta ->
    forall (cache : SegmentCache) (i : Nat) (segment : BcmSegment) (offset : Addr),
      i < cache.count -> cache.segments[i]? = some segment -> segment.ptr = old + offset ->
        (cache.applyDelta delta).segments[i]? = some { segment with ptr := new + offset }
  items_move : forall (profile : Profile) (delta : Addr), isizeSub profile new old = .ok delta ->
    forall (backend : Gpdma.Backend) (items : Vector backend.Item backend.capacity) (count i : Nat)
      (d : backend.Item) (offset : Addr),
      i < count -> items[i]? = some d -> Descriptor.sar d = old + offset ->
        (backend.applyDelta items count delta)[i]? = some (Descriptor.setSar d (new + offset))
  /-- Swapping back restores every cached pointer and every descriptor. -/
  restored : forall profile : Profile, Exists fun delta => Exists fun back =>
    isizeSub profile new old = .ok delta ∧ isizeSub profile old new = .ok back ∧
      (forall cache : SegmentCache, (cache.applyDelta delta).applyDelta back = cache) ∧
      forall (backend : Gpdma.Backend) (items : Vector backend.Item backend.capacity) (count : Nat),
        backend.applyDelta (backend.applyDelta items count delta) count back = items

/-- The core of a plain driver that displays the buffer at `old`. -/
def Dma.displaying (old : Addr) : Dma.IsrCore :=
  Dma.IsrCore.new.initState ⟨⟨[]⟩, none, 0, 0, .oneByte, BcmState.new, old, none, 0, 0⟩

/-- The delta is computed in every build exactly for a buffer within reach.  Out of reach a
build with overflow checks panics in the subtraction. -/
theorem computed_iff : Computed old new ↔ WithinReach old new := by
  constructor
  · intro computed
    rcases computed.queued ⟨true, true⟩ (Dma.displaying old) _ rfl rfl with ⟨after, queued⟩
    have checked : (⟨true, true⟩ : Profile).overflowChecks = true := rfl
    apply (isizeSub_checked_iff checked).mp
    cases subtracted : isizeSub ⟨true, true⟩ new old with
    | ok delta => exact ⟨delta, rfl⟩
    | error panic =>
        simp only [Dma.IsrCore.swapInnerQueue, Dma.displaying, Dma.IsrCore.initState,
          subtracted] at queued
        cases queued
  · intro reach
    constructor
    · intro profile core state present current
      unfold Dma.IsrCore.swapInnerQueue
      rw [present]
      simp only [current, isizeSub_ok profile reach]
      exact ⟨_, rfl⟩
    · intro profile waitCount backend system waker called current
      simp only [Gpdma.System.step, called, current, isizeSub_ok profile reach]
      exact ⟨_, rfl⟩

/-- The swap delta is right, there and back, exactly for buffers that are within reach of
each other.  In one direction only are two buffers whose distance is half the address
space. -/
theorem delta_right_iff (old new : Addr) :
    DeltaRight old new ↔ WithinReach old new ∧ WithinReach new old := by
  constructor
  · intro right
    exact ⟨computed_iff.mp right.there, computed_iff.mp right.back⟩
  · rintro ⟨there, back⟩
    refine ⟨computed_iff.mpr there, computed_iff.mpr back, ?_, ?_, ?_⟩
    · intro profile delta computed cache i segment offset inside stored pointer
      rw [isizeSub_eq_ok computed]
      simp only [SegmentCache.applyDelta, Vector.getElem?_mapIdx, stored, Option.map_some,
        if_pos inside, wrappingByteOffset, pointer, add_retarget]
    · intro profile delta computed backend items count i d offset inside stored source
      have slot : i < min count backend.capacity :=
        Nat.lt_min.mpr ⟨inside, (Vector.getElem?_eq_some_iff.mp stored).1⟩
      rw [isizeSub_eq_ok computed, Gpdma.Backend.applyDelta_eq, Gpdma.patchItems_getElem?,
        if_pos slot, stored, Option.map_some, Descriptor.shiftSar, source, add_retarget]
    · intro profile
      refine ⟨_, _, isizeSub_ok profile there, isizeSub_ok profile back,
        fun cache => cache.applyDelta_back, fun backend items count => ?_⟩
      rw [Gpdma.Backend.applyDelta_eq, Gpdma.Backend.applyDelta_eq]
      exact Gpdma.patchItems_back items _

/-- The way from `0x20000000` to `0xA0000000` is computed, and the way back is not. -/
example : WithinReach 0x20000000 0xA0000000 ∧ ¬ WithinReach 0xA0000000 0x20000000 := by decide

/-- From internal memory at `0x20000000` to external memory at `0x90000000`. -/
theorem delta_overflows : ¬ DeltaRight 0x20000000 0x90000000 := by
  intro right
  rcases right.there.queued ⟨true, true⟩ (Dma.displaying 0x20000000) _ rfl rfl with ⟨after, queued⟩
  have subtracted : isizeSub ⟨true, true⟩ 0x90000000 0x20000000 = .error .arithmeticOverflow := by
    decide
  simp only [Dma.IsrCore.swapInnerQueue, Dma.displaying, Dma.IsrCore.initState,
    subtracted] at queued
  cases queued

end Driver
end Hub75
