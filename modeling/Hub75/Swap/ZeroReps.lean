import Hub75.Swap.PlainExchange
import Hub75.Swap.GpdmaDisplay

namespace Hub75
namespace Driver

open Machine

/-!
# Segments without repetitions

A segment may ask for no repetition at all.  The three backends meet such a
segment with three mechanisms.  The cursor of the plain backend tests the count
after the transfer, so it streams the segment once.  The linear builder writes no
item for it.  The 2D builder checks the range of the count and refuses.

`Dma.HonoursReps` and `Gpdma.HonoursReps` say what should hold in each case.  Either the
sequence is refused before anything is streamed, or in every run, whatever is swapped
meanwhile, each transfer is that of the segment whose turn it is by the repetition counts,
and the next one follows.  A sequence that asks for nothing is refused.  A layout and an
address make an arbitrary sequence, since the offsets are arbitrary.
-/

/-- The segment whose turn it is after `k` transfers, when in every frame each segment is
streamed as often as it asks. -/
def Layout.turn (layout : Layout) (k : Nat) : Option Nat :=
  (weighted layout.reps layout.count)[k % (weighted layout.reps layout.count).length]?

namespace Dma

/-- The cursor is on segment `i`, and the transfer in flight is the one of this segment of the
displayed buffer. -/
def IsrCoreState.Streams (layout : Layout) (state : IsrCoreState) (i : Nat) : Prop :=
  state.bcm.currentSegment = i ∧
    state.channel.active = [segmentTransfer state (layout.instanceAt state.currentFbPtr) i]

variable {profile : Profile} {api : ChannelApi} {layout : Layout} {base : Addr} {hand : List Addr}
  {core0 core : IsrCore} {state0 state : IsrCoreState} {system : System} {trace : List Label}

/-- When every segment asks, a segment is passed as often as it asks. -/
theorem weighted_passes (asked : forall i, i < layout.count -> 0 < layout.reps i) :
    weighted layout.passes layout.count = weighted layout.reps layout.count := by
  unfold weighted
  apply List.flatMap_congr
  intro i member
  rw [Layout.passes_eq_reps (asked i (List.mem_range.mp member))]

/-- Then the cursor is on the segment whose turn it is. -/
theorem Handshake.turn (asked : forall i, i < layout.count -> 0 < layout.reps i)
    (handshake : Handshake layout trace system state) :
    layout.turn (interrupts trace) = some state.bcm.currentSegment := by
  have found := handshake.invariant.streaming.cursor.weighted_position
  rw [handshake.position] at found
  unfold Layout.turn
  rw [← weighted_passes asked, length_weighted]
  exact found

end Dma

/-! ## The GPDMA backends -/

namespace Gpdma

open Gpdma2d

/-- The item in flight is one for segment `i` of one of the buffers.  As long as the segment
is made of whole words, its present block starts at the beginning of the segment. -/
structure Channel.Streams {I : Type} [Descriptor I] (reading : Reading I) (layout : Layout)
    (wordSize : WordSize) (buffers : List Addr) (channel : Channel I) (i : Nat) : Prop where
  item : Exists fun buffer => buffer ∈ buffers ∧
    Descriptor.sar channel.registers = buffer + layout.offset i ∧
    (layout.len i % wordSize.bytes = 0 -> channel.source = buffer + layout.offset i)
  length : reading.blockBytes channel.registers =
    layout.len i / wordSize.bytes * wordSize.bytes

variable {profile : Profile} {layout : Layout} {base address odrAddr : Addr} {hand : List Addr}
  {wordSize : WordSize} {request waitCount size : Nat}

/-- The channel is on an item for the segment that the scan has come to. -/
theorem Scans.streams {backend : Backend} {launch : Launch profile backend layout}
    {chain : Chain backend.Item backend.capacity} {buffers : List Addr} {trace : List PanelLabel}
    {steps : List Label} {panel : Panel backend.Item backend.capacity}
    {system : System backend.Item backend.capacity}
    (scans : Scans launch chain buffers trace steps panel system) :
    panel.channel.Streams launch.reading layout launch.wordSize buffers
      (backend.segment layout system.walker.index) := by
  rcases scans.mirrors.written with ⟨other, written, source⟩
  rcases scans.buffer with ⟨buffer, member, reads⟩
  have same : other = buffer := by
    have sums : other + backend.offset layout system.walker.index =
        buffer + backend.offset layout system.walker.index := source.symm.trans reads
    exact add_right_cancel sums
  subst same
  rw [backend.offset_eq] at reads
  refine ⟨⟨other, member, ?_, fun whole => ?_⟩, written.encodes.blockBytes⟩
  · rw [← backend.offset_eq]
    exact written.encodes.sar
  · exact (scans.mirrors.source (Or.inr whole)).trans reads

end Gpdma

end Driver
end Hub75
