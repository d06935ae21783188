import Hub75.Machine.Observation
import Hub75.Swap.PlainCore

namespace Hub75
namespace Driver

open Machine

/-!
# The blocks of the plain-DMA backend

Without a pending swap the interrupt only moves the cursor and starts the next
transfer.  `Dma.Unswapped` relates the driver to the rotation cursor, for any
sequence of segments and any repetition counts: a count of zero is no obstacle,
because the cursor tests it after the transfer.
-/

/-! ## Segment sequences -/

/-- The source block of segment `i`: address and byte length. -/
def FrameBuffer.block (fb : FrameBuffer) (i : Nat) : Addr × Nat :=
  ((fb.bcmSegment i).ptr, (fb.bcmSegment i).len)

def FrameBuffer.reps (fb : FrameBuffer) (i : Nat) : Nat := (fb.bcmSegment i).reps

/-- The blocks of one frame: every segment as often as its repetition count says. -/
def FrameBuffer.frame (fb : FrameBuffer) : List (Addr × Nat) :=
  (List.range fb.bcmSegmentCount).flatMap fun i => List.replicate (fb.reps i) (fb.block i)

theorem FrameBuffer.frame_eq (fb : FrameBuffer) :
    fb.frame = (weighted fb.reps fb.bcmSegmentCount).map fb.block := by
  unfold frame weighted
  rw [List.map_flatMap]
  congr 1
  funext i
  exact List.map_replicate.symm

/-- A single framebuffer as an instance of a layout of its own. -/
def FrameBuffer.layout (fb : FrameBuffer) (base : Addr) : Layout where
  count := fb.bcmSegmentCount
  offset i := (fb.bcmSegment i).ptr - base
  len i := (fb.bcmSegment i).len
  reps i := (fb.bcmSegment i).reps
  segmentsPerGroup := fb.bcmSegmentsPerGroup

theorem FrameBuffer.instanceAt_layout (fb : FrameBuffer) (base : Addr) :
    (fb.layout base).instanceAt base = fb := by
  have behind : forall ptr : Addr, base + (ptr - base) = ptr := by
    intro ptr
    rw [BitVec.add_comm, BitVec.sub_add_cancel]
  unfold layout Layout.instanceAt
  simp only [behind]

/-- A sequence that the word size of the port can stream.  The pointers are
checked in builds with debug assertions only, and a null pointer never denotes a
buffer. -/
structure FrameBuffer.Admissible (fb : FrameBuffer) (profile : Profile) (wordSize : WordSize) :
    Prop where
  supported : wordSize.Supported
  count_pos : 0 < fb.bcmSegmentCount
  count_le : fb.bcmSegmentCount ≤ maxSegments
  halfwords : forall i, i < fb.bcmSegmentCount -> wordSize = .twoBytes ->
    (fb.bcmSegment i).ptr.toNat % 2 = 0 ∧ (fb.bcmSegment i).len % 2 = 0
  nonnull : profile.debugAssertions = true ->
    forall i, i < fb.bcmSegmentCount -> (fb.bcmSegment i).ptr ≠ 0

variable {fb : FrameBuffer} {profile : Profile} {wordSize : WordSize}

theorem FrameBuffer.Admissible.checks (admissible : fb.Admissible profile wordSize) {i : Nat}
    (inside : i < fb.bcmSegmentCount) :
    SourceChecks profile wordSize (fb.bcmSegment i).ptr (fb.bcmSegment i).len :=
  fun _ => admissible.halfwords i inside

/-- Segments consist of whole words. -/
theorem FrameBuffer.Admissible.whole (admissible : fb.Admissible profile wordSize) {i : Nat}
    (inside : i < fb.bcmSegmentCount) : (fb.bcmSegment i).len % wordSize.bytes = 0 := by
  rcases admissible.supported with bytes | halfwords
  · rw [bytes]
    exact Nat.mod_one _
  · have even := (admissible.halfwords i inside halfwords).2
    rw [halfwords]
    exact even

namespace Dma

/-! ## The interrupt as a step -/

/-- The block being streamed, when exactly one transfer is outstanding. -/
def IsrCore.block (core : IsrCore) : Option (Addr × Nat) :=
  core.state.bind fun state =>
    match state.channel.active with
    | [transfer] => some transfer.block
    | _ => none

/-- The blocks of the first `k` transfers: the present one, and one for each of `k - 1`
interrupts. -/
def transferBlocks (profile : Profile) (api : ChannelApi) (core : IsrCore) (k : Nat) :
    Option (List (Addr × Nat)) :=
  observe (fun core => (core.onDmaComplete profile api).toOption) IsrCore.block core k

/-- The driver streams the instance at `base` with the cursor at the given place, and no
swap is pending. -/
structure Unswapped (layout : Layout) (base : Addr) (wordSize : WordSize) (state : IsrCoreState)
    (cursor : Cursor) : Prop where
  streaming : Streaming layout state
  shown_eq : state.currentFbPtr = base
  wordSize_eq : state.wordSize = wordSize
  cursor_eq : state.bcm.cursor = cursor
  quiet : state.pendingDelta = none

variable {api : ChannelApi} {core : IsrCore} {state : IsrCoreState} {cursor : Cursor}
  {layout : Layout} {base : Addr}

/-- One interrupt moves the cursor by one visit. -/
theorem Unswapped.interrupt (lawful : api.Lawful)
    (streamable : forall i, i < layout.count ->
      Streamable profile wordSize (base + layout.offset i) (layout.len i))
    (present : core.state = some state) (unswapped : Unswapped layout base wordSize state cursor) :
    Exists fun after => core.onDmaComplete profile api = .ok after ∧
      Exists fun next => after.state = some next ∧
        Unswapped layout base wordSize next (cursor.advance layout.reps layout.count).1 := by
  have streaming := unswapped.streaming
  have consistent : state.pointers.Consistent := by
    intro delta queued
    have pending : state.pendingDelta = some delta := queued
    rw [unswapped.quiet] at pending
    cases pending
  have inside : state.nextSegment layout < layout.count :=
    Cursor.advance_index_lt streaming.cursor.index_lt
  have shown : state.nextShown layout = base := by
    unfold IsrCoreState.nextShown
    rw [unswapped.quiet, if_neg fun impossible => Bool.false_ne_true impossible.2]
    exact unswapped.shown_eq
  have completes := (onDmaComplete_ok_iff lawful present streaming consistent).mpr <| by
    rw [unswapped.wordSize_eq, shown]
    exact streamable _ inside
  rcases completes with ⟨after, completed⟩
  rcases onDmaComplete_cases present streaming consistent completed with ⟨next, interrupted⟩
  rcases onDmaComplete_counts present streaming completed with ⟨found, stored, port, _⟩
  cases Option.some.inj (stored.symm.trans interrupted.present)
  refine ⟨after, completed, next, interrupted.present, ?_⟩
  rcases interrupted.branches with ⟨_, pointers, _⟩ | ⟨_, pending, _⟩
  · exact {
      streaming := interrupted.streaming
      shown_eq := (congrArg Pointers.current pointers).trans unswapped.shown_eq
      wordSize_eq := (congrArg (fun port : Nat × Addr × WordSize => port.2.2) port).trans
        unswapped.wordSize_eq
      cursor_eq := by
        rw [interrupted.cursor, unswapped.cursor_eq]
        exact congrArg Prod.fst (Cursor.advance_max_one layout.reps layout.count cursor)
      quiet := (congrArg Pointers.delta pointers).trans unswapped.quiet }
  · rw [unswapped.quiet] at pending
    exact absurd pending Bool.false_ne_true

/-- The driver shows the segment under the cursor. -/
theorem Unswapped.block (present : core.state = some state)
    (unswapped : Unswapped layout base wordSize state cursor)
    (whole : layout.len cursor.index % wordSize.bytes = 0) :
    core.block = some ((layout.instanceAt base).block cursor.index) := by
  have index : state.bcm.currentSegment = cursor.index := congrArg Cursor.index unswapped.cursor_eq
  unfold IsrCore.block
  rw [present, Option.bind_some, unswapped.streaming.outstanding, unswapped.shown_eq, index]
  exact congrArg some (segmentTransfer_block (unswapped.wordSize_eq ▸ whole))

/-- Without swaps the interrupt is a machine that tracks the rotation. -/
theorem unswapped_tracks (lawful : api.Lawful)
    (streamable : forall i, i < layout.count ->
      Streamable profile wordSize (base + layout.offset i) (layout.len i))
    (whole : forall i, i < layout.count -> layout.len i % wordSize.bytes = 0) :
    Tracks (fun core : IsrCore => (core.onDmaComplete profile api).toOption) IsrCore.block
      layout.reps layout.count (layout.instanceAt base).block fun core cursor =>
        Exists fun state => core.state = some state ∧
          Unswapped layout base wordSize state cursor where
  sees := by
    rintro core cursor ⟨state, present, unswapped⟩
    have inside : cursor.index < layout.count := by
      rw [← unswapped.cursor_eq]
      exact unswapped.streaming.cursor.index_lt
    exact unswapped.block present (whole _ inside)
  moves := by
    rintro core cursor ⟨state, present, unswapped⟩
    rcases unswapped.interrupt lawful streamable present with ⟨after, completed, relates⟩
    refine ⟨after, ?_, relates⟩
    rw [completed]
    rfl

/-- Whatever the segment cache held before, initialisation puts the driver on the first
visit. -/
theorem startFirstTransfer_unswapped (lawful : api.Lawful) (present : core.state = some state)
    (quiet : state.channel.active = [])
    (startable : Startable profile state.wordSize layout base) :
    Exists fun started =>
      core.startFirstTransfer profile api (layout.instanceAt base) base = .ok started ∧
      Exists fun next => started.state = some next ∧
        Unswapped layout base state.wordSize next Cursor.origin := by
  rcases (startFirstTransfer_ok_iff lawful present).mpr startable with ⟨started, begun⟩
  rcases startFirstTransfer_cases begun present quiet with
    ⟨next, stored, streaming, pointers, origin, _⟩
  rcases startFirstTransfer_port begun present with ⟨found, again, port, _⟩
  cases Option.some.inj (again.symm.trans stored)
  exact ⟨started, begun, next, stored, streaming, congrArg Pointers.current pointers,
    congrArg (fun port : Nat × Addr × WordSize => port.2.2) port, origin,
    congrArg Pointers.delta pointers⟩

end Dma
end Driver
end Hub75
