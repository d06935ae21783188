import Hub75.Driver.Dma
import Hub75.Machine.Run
import Hub75.Machine.Custody

namespace Hub75
namespace Driver
namespace Dma

open Machine

/-!
# What one step of the plain-DMA driver can do

Each function of the backend gets one lemma that says everything it can do to a
state that is streaming.  The invariants of the later modules cite these lemmas
and never unfold the functions again.

`Streaming` is the part of the invariant that concerns the interrupt alone: the
cache holds the sequence of the displayed instance, the cursor stands on a visit
of that sequence, and the only outstanding transfer reads the segment under the
cursor.  It does not mention swaps; a pending swap enters through the separate
condition that its delta leads from the displayed buffer to the pending one.
-/

/-! ## Starting one transfer -/

/-- The transfer of one block, with the word width of the port. -/
def blockTransfer (request : Nat) (ptr : Addr) (len : Nat) (odrAddr : Addr)
    (wordSize : WordSize) : Transfer :=
  ⟨request, ptr, len / wordSize.bytes, wordSize, odrAddr⟩

/-- The transfer that streams segment `index` of `fb`. -/
def segmentTransfer (state : IsrCoreState) (fb : FrameBuffer) (index : Nat) : Transfer :=
  blockTransfer state.dmaRequest (fb.bcmSegment index).ptr (fb.bcmSegment index).len state.odrAddr
    state.wordSize

/-- A segment of whole words is streamed in full. -/
theorem segmentTransfer_block {state : IsrCoreState} {fb : FrameBuffer} {index : Nat}
    (whole : (fb.bcmSegment index).len % state.wordSize.bytes = 0) :
    (segmentTransfer state fb index).block =
      ((fb.bcmSegment index).ptr, (fb.bcmSegment index).len) := by
  unfold Transfer.block segmentTransfer
  exact congrArg (Prod.mk _) (Nat.div_mul_cancel (Nat.dvd_of_mod_eq_zero whole))

theorem writeRaw_eq_ok_iff {api : ChannelApi} {channel after : Channel} {transfer : Transfer} :
    channel.writeRaw api transfer = .ok after ↔
      api.writeRaw transfer = .ok () ∧ after = ⟨transfer :: channel.active⟩ := by
  simp only [Channel.writeRaw, bind_eq_ok, pure, Except.pure, Except.ok.injEq]
  constructor
  · rintro ⟨_, started, same⟩
    exact ⟨started, same.symm⟩
  · rintro ⟨started, same⟩
    exact ⟨(), started, same.symm⟩

theorem kickDma_eq {profile : Profile} {api : ChannelApi} {channel : Channel}
    {request len : Nat} {ptr odrAddr : Addr} {wordSize : WordSize} :
    kickDma profile api channel request ptr len odrAddr wordSize =
      withElements profile .dmaWordSize ptr len wordSize fun elements => do
        let transfer : Transfer := ⟨request, ptr, elements, wordSize, odrAddr⟩
        let channel ← channel.writeRaw api transfer
        return (channel, transfer) := by
  cases wordSize <;> rfl

theorem kickDma_eq_ok_iff {profile : Profile} {api : ChannelApi} {channel : Channel}
    {request len : Nat} {ptr odrAddr : Addr} {wordSize : WordSize} {result : Channel × Transfer} :
    kickDma profile api channel request ptr len odrAddr wordSize = .ok result ↔
      wordSize.Supported ∧ SourceChecks profile wordSize ptr len ∧
        api.writeRaw (blockTransfer request ptr len odrAddr wordSize) = .ok () ∧
        result = (⟨blockTransfer request ptr len odrAddr wordSize :: channel.active⟩,
          blockTransfer request ptr len odrAddr wordSize) := by
  rw [kickDma_eq, withElements_eq_ok_iff]
  simp only [bind_eq_ok, writeRaw_eq_ok_iff, pure, Except.pure, Except.ok.injEq]
  apply and_congr_right
  intro _
  apply and_congr_right
  intro _
  constructor
  · rintro ⟨_, ⟨started, channel_eq⟩, same⟩
    subst channel_eq
    exact ⟨started, same.symm⟩
  · rintro ⟨started, same⟩
    exact ⟨_, ⟨started, rfl⟩, same.symm⟩

/-! ## The pointers of the swap protocol -/

/-- The fields through which a swap is negotiated. -/
structure Pointers where
  current : Addr
  delta : Option Addr
  pending : Addr
  returned : Addr

def IsrCoreState.pointers (state : IsrCoreState) : Pointers :=
  ⟨state.currentFbPtr, state.pendingDelta, state.pendingFbPtr, state.returnedFbPtr⟩

/-- The pointers after a pending swap has been applied. -/
def Pointers.flip (pointers : Pointers) : Pointers :=
  ⟨pointers.pending, none, 0, pointers.current⟩

/-- A pending delta leads from the displayed buffer to the pending one. -/
def Pointers.Consistent (pointers : Pointers) : Prop :=
  forall delta, pointers.delta = some delta -> delta = pointers.pending - pointers.current

theorem Pointers.consistent_flip (pointers : Pointers) : pointers.flip.Consistent :=
  fun _ impossible => nomatch impossible

/-! ## The streaming invariant -/

structure Streaming (layout : Layout) (state : IsrCoreState) : Prop where
  supported : state.wordSize.Supported
  loaded : Loaded (layout.instanceAt state.currentFbPtr) state.bcm.cache
  cursor : state.bcm.cursor.Valid layout.passes layout.count
  transfer : state.transfer = some
    (segmentTransfer state (layout.instanceAt state.currentFbPtr) state.bcm.currentSegment)
  outstanding : state.channel.active =
    [segmentTransfer state (layout.instanceAt state.currentFbPtr) state.bcm.currentSegment]

variable {profile : Profile} {api : ChannelApi} {layout : Layout} {core after : IsrCore}
  {state : IsrCoreState}

/-- What streams has segments. -/
theorem Streaming.nonempty (streaming : Streaming layout state) : 0 < layout.count :=
  Nat.lt_of_le_of_lt (Nat.zero_le _) streaming.cursor.index_lt

/-- Kicking the current segment of a loaded cache on a quiet channel makes the
state stream, and changes nothing but the channel and the transfer. -/
theorem kickCurrent_streaming (kicked : core.kickCurrent profile api state = .ok after)
    (loaded : Loaded (layout.instanceAt state.currentFbPtr) state.bcm.cache)
    (cursor : state.bcm.cursor.Valid layout.passes layout.count)
    (quiet : state.channel.active = []) :
    Exists fun next => after.state = some next ∧ Streaming layout next ∧
      next.pointers = state.pointers ∧ next.bcm = state.bcm ∧ after.cell = core.cell ∧
      after.frameCount = core.frameCount := by
  unfold IsrCore.kickCurrent at kicked
  rw [BcmState.currentSegmentData_eq loaded cursor.index_lt] at kicked
  rcases bind_eq_ok.mp kicked with ⟨⟨ptr, len⟩, read, continued⟩
  cases read
  rcases bind_eq_ok.mp continued with ⟨⟨channel, transfer⟩, written, same⟩
  rcases kickDma_eq_ok_iff.mp written with ⟨supported, _, _, result⟩
  cases result
  cases same
  refine ⟨_, rfl, ⟨supported, loaded, cursor, rfl, ?_⟩, rfl, rfl, rfl, rfl⟩
  change _ :: state.channel.active = _
  rw [quiet]
  rfl

/-- A block that a port can stream: it passes the source checks, and its words can be
counted. -/
def Streamable (profile : Profile) (wordSize : WordSize) (ptr : Addr) (len : Nat) : Prop :=
  SourceChecks profile wordSize ptr len ∧
    0 < len / wordSize.bytes ∧ len / wordSize.bytes ≤ maxElements

/-- The kick of a segment fails for a block that cannot be streamed, and otherwise not. -/
theorem kickCurrent_ok_iff (lawful : api.Lawful)
    (loaded : Loaded (layout.instanceAt state.currentFbPtr) state.bcm.cache)
    (inside : state.bcm.currentSegment < layout.count) :
    (Exists fun after => core.kickCurrent profile api state = .ok after) ↔
      state.wordSize.Supported ∧ Streamable profile state.wordSize
        (state.currentFbPtr + layout.offset state.bcm.currentSegment)
        (layout.len state.bcm.currentSegment) := by
  unfold IsrCore.kickCurrent
  rw [BcmState.currentSegmentData_eq loaded inside]
  constructor
  · rintro ⟨after, kicked⟩
    rcases bind_eq_ok.mp kicked with ⟨⟨ptr, len⟩, read, continued⟩
    cases read
    rcases bind_eq_ok.mp continued with ⟨_, written, _⟩
    rcases kickDma_eq_ok_iff.mp written with ⟨supported, checks, started, _⟩
    exact ⟨supported, checks, (lawful.writeRaw_ok_iff _).mp started⟩
  · rintro ⟨supported, checks, countable⟩
    exact ⟨_, bind_eq_ok.mpr ⟨_, rfl, bind_eq_ok.mpr ⟨_, kickDma_eq_ok_iff.mpr
      ⟨supported, checks, (lawful.writeRaw_ok_iff _).mpr countable, rfl⟩, rfl⟩⟩⟩

/-- What the interrupt and the task never change: the port the words go to. -/
def IsrCoreState.port (state : IsrCoreState) : Nat × Addr × WordSize :=
  (state.dmaRequest, state.odrAddr, state.wordSize)

theorem kickCurrent_port (kicked : core.kickCurrent profile api state = .ok after) :
    Exists fun next => after.state = some next ∧ next.port = state.port ∧
      after.frameCount = core.frameCount := by
  rcases bind_eq_ok.mp kicked with ⟨⟨ptr, len⟩, _, continued⟩
  rcases bind_eq_ok.mp continued with ⟨⟨channel, transfer⟩, _, same⟩
  cases same
  exact ⟨_, rfl, rfl, rfl⟩

/-! ## The interrupt -/

/-- The state between tear-down and kick: the finished transfer is dropped and
the cursor has moved. -/
def movedState (layout : Layout) (state : IsrCoreState) : IsrCoreState :=
  { state with
    channel := state.channel.dropTransfer state.transfer
    transfer := none
    bcm := state.bcm.withCursor (state.bcm.cursor.advance layout.passes layout.count).1 }

theorem movedState_quiet (streaming : Streaming layout state) :
    (movedState layout state).channel.active = [] := by
  unfold movedState
  rw [streaming.transfer]
  change state.channel.active.erase _ = []
  rw [streaming.outstanding, List.erase_cons_head]

/-- The interrupt of a streaming driver, with its branches resolved. -/
theorem onDmaComplete_eq (present : core.state = some state)
    (streaming : Streaming layout state) :
    core.onDmaComplete profile api =
      if (state.bcm.cursor.advance layout.passes layout.count).2 = true then
        (core.atFrameBoundary (movedState layout state)).1.kickCurrent profile api
          (core.atFrameBoundary (movedState layout state)).2
      else core.kickCurrent profile api (movedState layout state) := by
  have advanced : state.bcm.advance profile =
      .ok (state.bcm.withCursor (state.bcm.cursor.advance layout.passes layout.count).1,
        (state.bcm.cursor.advance layout.passes layout.count).2) :=
    Layout.advance_eq streaming.loaded streaming.cursor.index_lt
  simp only [IsrCore.onDmaComplete, present, advanced, bind, Except.bind]
  cases (state.bcm.cursor.advance layout.passes layout.count).2 <;> rfl

/-- With nothing pending, a frame boundary only counts the frame. -/
theorem atFrameBoundary_quiet (core : IsrCore) (quiet : state.pendingDelta = none) :
    core.atFrameBoundary state = ({ core with frameCount := core.frameCount + 1 }, state) := by
  unfold IsrCore.atFrameBoundary
  rw [quiet]

/-- With a swap pending, it applies the swap. -/
theorem atFrameBoundary_pending (core : IsrCore) {delta : Addr}
    (pending : state.pendingDelta = some delta) :
    core.atFrameBoundary state =
      (IsrCore.signalSwapDone { core with frameCount := core.frameCount + 1 },
        { state with
          pendingDelta := none
          returnedFbPtr := state.currentFbPtr
          currentFbPtr := state.pendingFbPtr
          pendingFbPtr := 0
          bcm := state.bcm.applyDelta delta }) := by
  unfold IsrCore.atFrameBoundary
  rw [pending]

/-- Everything one interrupt can do to a streaming driver.  It keeps streaming
with the cursor one visit further on.  Either the pointers and the handshake
cell are untouched, or this was a frame boundary with a swap pending: then the
pointers flip, the cell is signalled, and the scan restarts at its origin. -/
structure Interrupted (layout : Layout) (core after : IsrCore) (state next : IsrCoreState) :
    Prop where
  present : after.state = some next
  streaming : Streaming layout next
  cursor : next.bcm.cursor = (state.bcm.cursor.advance layout.passes layout.count).1
  branches : (¬ ((state.bcm.cursor.advance layout.passes layout.count).2 = true ∧
        state.pendingDelta.isSome = true) ∧
      next.pointers = state.pointers ∧ after.cell = core.cell) ∨
    ((state.bcm.cursor.advance layout.passes layout.count).2 = true ∧
      state.pendingDelta.isSome = true ∧
      next.pointers = state.pointers.flip ∧ after.cell = core.cell.signal)

theorem onDmaComplete_cases (present : core.state = some state)
    (streaming : Streaming layout state) (consistent : state.pointers.Consistent)
    (completed : core.onDmaComplete profile api = .ok after) :
    Exists fun next => Interrupted layout core after state next := by
  have quiet := movedState_quiet streaming
  have moved := streaming.cursor.advance layout.passes_pos
  rw [onDmaComplete_eq present streaming] at completed
  by_cases boundary : (state.bcm.cursor.advance layout.passes layout.count).2 = true
  · rw [if_pos boundary] at completed
    cases pending : state.pendingDelta with
    | none =>
        have unpending : (movedState layout state).pendingDelta = none := pending
        rw [atFrameBoundary_quiet core unpending] at completed
        rcases kickCurrent_streaming completed streaming.loaded moved quiet with
          ⟨next, stored, streams, pointers, bcm, cell, _⟩
        refine ⟨next, stored, streams, congrArg BcmState.cursor bcm, Or.inl ⟨?_, pointers, cell⟩⟩
        rw [pending]
        exact fun impossible => Bool.false_ne_true impossible.2
    | some delta =>
        have reached : delta = state.pendingFbPtr - state.currentFbPtr := consistent delta pending
        have retargeted : Loaded (layout.instanceAt state.pendingFbPtr)
            (state.bcm.cache.applyDelta delta) :=
          reached ▸ layout.loaded_applyDelta streaming.loaded
        have queued : (movedState layout state).pendingDelta = some delta := pending
        rw [atFrameBoundary_pending core queued] at completed
        rcases kickCurrent_streaming completed retargeted moved quiet with
          ⟨next, stored, streams, pointers, bcm, cell, _⟩
        refine ⟨next, stored, streams, congrArg BcmState.cursor bcm,
          Or.inr ⟨boundary, ?_, pointers, cell⟩⟩
        rw [pending]
        rfl
  · rw [if_neg boundary] at completed
    rcases kickCurrent_streaming completed streaming.loaded moved quiet with
      ⟨next, stored, streams, pointers, bcm, cell, _⟩
    exact ⟨next, stored, streams, congrArg BcmState.cursor bcm,
      Or.inl ⟨fun impossible => boundary impossible.1, pointers, cell⟩⟩

/-- The buffer the next interrupt streams from. -/
def IsrCoreState.nextShown (layout : Layout) (state : IsrCoreState) : Addr :=
  if (state.bcm.cursor.advance layout.passes layout.count).2 = true ∧
      state.pendingDelta.isSome = true then state.pendingFbPtr
  else state.currentFbPtr

/-- The segment the next interrupt streams. -/
def IsrCoreState.nextSegment (layout : Layout) (state : IsrCoreState) : Nat :=
  (state.bcm.cursor.advance layout.passes layout.count).1.index

/-- The interrupt of a streaming driver panics when the next block cannot be streamed, and
otherwise not. -/
theorem onDmaComplete_ok_iff (lawful : api.Lawful) (present : core.state = some state)
    (streaming : Streaming layout state) (consistent : state.pointers.Consistent) :
    (Exists fun after => core.onDmaComplete profile api = .ok after) ↔
      Streamable profile state.wordSize
        (state.nextShown layout + layout.offset (state.nextSegment layout))
        (layout.len (state.nextSegment layout)) := by
  have inside : state.nextSegment layout < layout.count :=
    Cursor.advance_index_lt streaming.cursor.index_lt
  rw [onDmaComplete_eq present streaming]
  unfold IsrCoreState.nextShown
  by_cases boundary : (state.bcm.cursor.advance layout.passes layout.count).2 = true
  · rw [if_pos boundary]
    cases pending : state.pendingDelta with
    | none =>
        have unpending : (movedState layout state).pendingDelta = none := pending
        rw [atFrameBoundary_quiet core unpending,
          if_neg fun impossible => Bool.false_ne_true impossible.2]
        have kicks : (Exists fun after => IsrCore.kickCurrent profile api
            { core with frameCount := core.frameCount + 1 } (movedState layout state) =
              .ok after) ↔ _ := kickCurrent_ok_iff lawful streaming.loaded inside
        exact kicks.trans (and_iff_right streaming.supported)
    | some delta =>
        have reached : delta = state.pendingFbPtr - state.currentFbPtr := consistent delta pending
        have retargeted : Loaded (layout.instanceAt state.pendingFbPtr)
            (state.bcm.cache.applyDelta delta) :=
          reached ▸ layout.loaded_applyDelta streaming.loaded
        have queued : (movedState layout state).pendingDelta = some delta := pending
        rw [atFrameBoundary_pending core queued, if_pos ⟨boundary, rfl⟩]
        exact (kickCurrent_ok_iff lawful retargeted inside).trans
          (and_iff_right streaming.supported)
  · rw [if_neg boundary, if_neg fun impossible => boundary impossible.1]
    have kicks : (Exists fun after =>
        core.kickCurrent profile api (movedState layout state) = .ok after) ↔ _ :=
      kickCurrent_ok_iff lawful streaming.loaded inside
    exact kicks.trans (and_iff_right streaming.supported)

theorem atFrameBoundary_counts (core : IsrCore) (state : IsrCoreState) :
    (core.atFrameBoundary state).1.frameCount = core.frameCount + 1 ∧
      (core.atFrameBoundary state).2.port = state.port := by
  unfold IsrCore.atFrameBoundary
  cases state.pendingDelta <;> exact ⟨rfl, rfl⟩

/-- The interrupt counts a frame exactly when the cursor wraps around. -/
theorem onDmaComplete_counts (present : core.state = some state)
    (streaming : Streaming layout state) (completed : core.onDmaComplete profile api = .ok after) :
    Exists fun next => after.state = some next ∧ next.port = state.port ∧
      after.frameCount = core.frameCount +
        (if (state.bcm.cursor.advance layout.passes layout.count).2 = true then 1 else 0) := by
  rw [onDmaComplete_eq present streaming] at completed
  split at completed
  · next boundary =>
      rcases kickCurrent_port completed with ⟨next, stored, port, count⟩
      have counts := atFrameBoundary_counts core (movedState layout state)
      refine ⟨next, stored, port.trans counts.2, ?_⟩
      rw [count, counts.1]
      simp only [boundary, if_true]
  · next inner =>
      rcases kickCurrent_port completed with ⟨next, stored, port, count⟩
      refine ⟨next, stored, port, ?_⟩
      rw [count, if_neg inner]
      exact (BitVec.add_zero _).symm

/-! ## Initialisation -/

/-- What initialisation asks for.  All pointers are looked at in a build with debug
assertions, but of the blocks only the first one is streamed. -/
structure Startable (profile : Profile) (wordSize : WordSize) (layout : Layout) (base : Addr) :
    Prop where
  count : 0 < layout.count ∧ layout.count ≤ maxSegments
  nonnull : profile.debugAssertions = true ->
    forall i, i < layout.count -> base + layout.offset i ≠ 0
  supported : wordSize.Supported
  first : Streamable profile wordSize (base + layout.offset 0) (layout.len 0)

variable {base : Addr}

/-- A driver that has just been started streams the given instance from its
origin, with no swap pending and the flag down. -/
theorem startFirstTransfer_cases
    (started : core.startFirstTransfer profile api (layout.instanceAt base) base = .ok after)
    (present : core.state = some state) (quiet : state.channel.active = []) :
    Exists fun next => after.state = some next ∧ Streaming layout next ∧
      next.pointers = ⟨base, none, 0, 0⟩ ∧ next.bcm.cursor = Cursor.origin ∧
      after.swapDone = false := by
  unfold IsrCore.startFirstTransfer at started
  rw [present] at started
  rcases bind_eq_ok.mp started with ⟨bcm, read, kicked⟩
  rcases BcmState.load_eq_ok_iff.mp read with ⟨extracted, atOrigin⟩
  rcases segmentsFromFbInto_eq_ok_iff.mp extracted with ⟨range, _, loaded, _⟩
  have valid : bcm.cursor.Valid layout.passes layout.count :=
    atOrigin ▸ Cursor.valid_origin range.1 layout.passes_pos
  rcases kickCurrent_streaming kicked loaded valid quiet with
    ⟨next, stored, streams, pointers, sameBcm, cell, _⟩
  refine ⟨next, stored, streams, pointers, ?_, congrArg Cell.done cell⟩
  rw [sameBcm]
  exact atOrigin

/-- It uses the port it was given, and has counted no frame. -/
theorem startFirstTransfer_port
    (started : core.startFirstTransfer profile api (layout.instanceAt base) base = .ok after)
    (present : core.state = some state) :
    Exists fun next => after.state = some next ∧ next.port = state.port ∧
      after.frameCount = 0 := by
  unfold IsrCore.startFirstTransfer at started
  rw [present] at started
  rcases bind_eq_ok.mp started with ⟨bcm, _, kicked⟩
  exact kickCurrent_port kicked

/-- Initialisation checks nothing else. -/
theorem startFirstTransfer_ok_iff (lawful : api.Lawful) (present : core.state = some state) :
    (Exists fun after =>
        core.startFirstTransfer profile api (layout.instanceAt base) base = .ok after) ↔
      Startable profile state.wordSize layout base := by
  unfold IsrCore.startFirstTransfer
  rw [present]
  constructor
  · rintro ⟨after, started⟩
    rcases bind_eq_ok.mp started with ⟨bcm, read, kicked⟩
    rcases BcmState.load_eq_ok_iff.mp read with ⟨extracted, atOrigin⟩
    rcases segmentsFromFbInto_eq_ok_iff.mp extracted with ⟨range, nonnull, loaded, _⟩
    have index : bcm.currentSegment = 0 := congrArg Cursor.index atOrigin
    have inside : bcm.currentSegment < layout.count := index ▸ range.1
    rcases (kickCurrent_ok_iff lawful loaded inside).mp ⟨after, kicked⟩ with ⟨supported, first⟩
    simp only [index] at first
    exact ⟨range, nonnull, supported, first⟩
  · rintro ⟨range, nonnull, supported, first⟩
    have extraction : Exists fun cache =>
        segmentsFromFbInto profile (layout.instanceAt base) state.bcm.cache = .ok cache :=
      segmentsFromFbInto_ok state.bcm.cache range nonnull
    rcases extraction with ⟨cache, extracted⟩
    rcases segmentsFromFbInto_eq_ok_iff.mp extracted with ⟨_, _, loaded, _⟩
    have read : state.bcm.load profile (layout.instanceAt base) = .ok ⟨cache, 0, 0⟩ :=
      BcmState.load_eq_ok_iff.mpr ⟨extracted, rfl⟩
    simp only [bind_of_eq_ok read]
    exact (kickCurrent_ok_iff lawful loaded range.1).mpr ⟨supported, first⟩

/-- The core as `Hub75::new` initialises it, on the upper byte of a port. -/
def initialisedCore : IsrCore :=
  IsrCore.new.initState ⟨⟨[]⟩, none, 5, 0x40020815, .oneByte, BcmState.new, 0, none, 0, 0⟩

end Dma
end Driver
end Hub75
