import Hub75.Driver.Bcm
import Hub75.Machine.Handshake

namespace Hub75
namespace Driver
namespace Dma

open Machine

/-!
# The plain-DMA backend

One transfer at a time is outstanding on the DMA channel.  Its completion
interrupt tears the transfer down, advances the BCM state machine, applies a
pending framebuffer swap at a frame boundary, and starts the next transfer.  A
swap is three separate pieces of code run by the display task: a critical
section that queues the swap, the polls of a completion future, and a critical
section that reads the pointer to hand back.  They are separate definitions
here because the interrupt may run between any two of them.

The channel is observed through the transfers outstanding on it: `write_raw`
starts one, and dropping the transfer ends it.  `write_raw` belongs to
embassy-stm32 and has checks of its own.  `ChannelApi` stands for them, and
`ChannelApi.Lawful` for what is documented about them; it is assumed only where it
is named.  The waker calls are recorded in the order in which they are issued.
-/

/-! ## Transfers -/

/-- The arguments of one `write_raw` call. -/
structure Transfer where
  request : Nat
  source : Addr
  elements : Nat
  wordSize : WordSize
  target : Addr
deriving DecidableEq, Repr

/-- The source block a transfer reads: address and byte length. -/
def Transfer.block (transfer : Transfer) : Addr × Nat :=
  (transfer.source, transfer.elements * transfer.wordSize.bytes)

/-- The transfers outstanding on the channel. -/
structure Channel where
  active : List Transfer

/-- What `write_raw` checks before it starts a transfer. -/
structure ChannelApi where
  writeRaw : Transfer -> Except Panic Unit

/-- The most elements that the counter of a channel can hold. -/
def maxElements : Nat := 0xFFFF

/-- The documented behaviour of `write_raw`: a transfer is started when its elements can
be counted, and it has any. -/
structure ChannelApi.Lawful (api : ChannelApi) : Prop where
  writeRaw_ok_iff : forall transfer,
    api.writeRaw transfer = .ok () ↔ 0 < transfer.elements ∧ transfer.elements ≤ maxElements

/-- `write_raw` with its assertion and nothing else. -/
def assertingApi : ChannelApi where
  writeRaw transfer :=
    assertThat (0 < transfer.elements ∧ transfer.elements ≤ maxElements) .foreign

theorem assertingApi_lawful : assertingApi.Lawful where
  writeRaw_ok_iff _ := assertThat_eq_ok_iff

def Channel.writeRaw (api : ChannelApi) (channel : Channel) (transfer : Transfer) :
    Except Panic Channel := do
  api.writeRaw transfer
  return ⟨transfer :: channel.active⟩

def Channel.dropTransfer (channel : Channel) : Option Transfer -> Channel
  | none => channel
  | some transfer => ⟨channel.active.erase transfer⟩

/-- `kick_dma`: start a transfer with the word width of the port. -/
def kickDma (profile : Profile) (api : ChannelApi) (channel : Channel) (request : Nat) (ptr : Addr)
    (len : Nat) (odrAddr : Addr) (wordSize : WordSize) : Except Panic (Channel × Transfer) :=
  match wordSize with
  | .oneByte => do
      let transfer : Transfer := ⟨request, ptr, len, .oneByte, odrAddr⟩
      let channel ← channel.writeRaw api transfer
      return (channel, transfer)
  | .twoBytes => do
      debugAssert profile (ptr.toNat % 2 = 0) .sourceNotAligned
      debugAssert profile (len % 2 = 0) .lengthNotMultipleOfTwo
      let transfer : Transfer := ⟨request, ptr, len / 2, .twoBytes, odrAddr⟩
      let channel ← channel.writeRaw api transfer
      return (channel, transfer)
  | .fourBytes => .error .dmaWordSize

/-! ## The interrupt-side state -/

structure IsrCoreState where
  channel : Channel
  transfer : Option Transfer
  dmaRequest : Nat
  odrAddr : Addr
  wordSize : WordSize
  bcm : BcmState
  currentFbPtr : Addr
  pendingDelta : Option Addr
  pendingFbPtr : Addr
  returnedFbPtr : Addr

/-- `IsrCore`.  The last field records the calls of `Waker::wake`, newest
first; a waker is known by an arbitrary number. -/
structure IsrCore where
  state : Option IsrCoreState
  swapDone : Bool
  swapWaker : Option Nat
  frameCount : BitVec 32
  wakes : List Nat

namespace IsrCore

def new : IsrCore where
  state := none
  swapDone := false
  swapWaker := none
  frameCount := 0
  wakes := []

/-- The completion flag and waker slot as one handshake cell. -/
def cell (core : IsrCore) : Cell Nat where
  done := core.swapDone
  slot := core.swapWaker
  wakes := core.wakes

def signalSwapDone (core : IsrCore) : IsrCore :=
  { core with
    swapDone := true
    swapWaker := none
    wakes := core.swapWaker.toList ++ core.wakes }

def initState (core : IsrCore) (state : IsrCoreState) : IsrCore :=
  { core with state := some state }

/-- Start the transfer of the current segment and store it. -/
def kickCurrent (profile : Profile) (api : ChannelApi) (core : IsrCore) (state : IsrCoreState) :
    Except Panic IsrCore := do
  let (ptr, len) ← state.bcm.currentSegmentData
  let (channel, transfer) ← kickDma profile api state.channel state.dmaRequest ptr len
    state.odrAddr state.wordSize
  return { core with state := some { state with channel, transfer := some transfer } }

/-- The frame-boundary part of the interrupt: count the frame, and apply a
pending swap. -/
def atFrameBoundary (core : IsrCore) (state : IsrCoreState) : IsrCore × IsrCoreState :=
  let core := { core with frameCount := core.frameCount + 1 }
  match state.pendingDelta with
  | none => (core, state)
  | some delta =>
      (core.signalSwapDone,
        { state with
          pendingDelta := none
          returnedFbPtr := state.currentFbPtr
          currentFbPtr := state.pendingFbPtr
          pendingFbPtr := 0
          bcm := state.bcm.applyDelta delta })

def onDmaComplete (profile : Profile) (api : ChannelApi) (core : IsrCore) :
    Except Panic IsrCore :=
  match core.state with
  | none => .ok core
  | some state => do
      let state := { state with
        channel := state.channel.dropTransfer state.transfer
        transfer := none }
      let (bcm, frameBoundary) ← state.bcm.advance profile
      let state := { state with bcm }
      let (core, state) :=
        if frameBoundary then core.atFrameBoundary state else (core, state)
      core.kickCurrent profile api state

/-- The first critical section of `swap_inner`: queue the swap. -/
def swapInnerQueue (profile : Profile) (core : IsrCore) (newFbPtr : Addr) : Except Fault IsrCore :=
  match core.state with
  | none => .error (.error .notInitialised)
  | some state =>
      match isizeSub profile newFbPtr state.currentFbPtr with
      | .error panic => .error (.panic panic)
      | .ok delta => .ok { core with
          state := some { state with pendingDelta := some delta, pendingFbPtr := newFbPtr }
          swapDone := false }

/-- The critical section of the poll closure of `swap_inner`: recheck the flag,
and leave the waker if it is still down. -/
def swapInnerLock (core : IsrCore) (waker : Nat) : IsrCore :=
  if core.swapDone then core else { core with swapWaker := some waker }

/-- On the shared cell it is the critical section of a poll. -/
theorem cell_swapInnerLock (core : IsrCore) (waker : Nat) :
    (core.swapInnerLock waker).cell = core.cell.lock waker := by
  unfold swapInnerLock Cell.lock cell
  split <;> rfl

theorem swapDone_swapInnerLock (core : IsrCore) (waker : Nat) :
    (core.swapInnerLock waker).swapDone = core.swapDone :=
  (congrArg Cell.done (core.cell_swapInnerLock waker)).trans Cell.done_lock

theorem state_swapInnerLock (core : IsrCore) (waker : Nat) :
    (core.swapInnerLock waker).state = core.state := by
  unfold swapInnerLock
  split <;> rfl

/-- The last critical section of `swap_inner`: the pointer to hand back. -/
def swapInnerReturned (core : IsrCore) : Except Fault Addr :=
  match core.state with
  | none => .error (.error .notInitialised)
  | some state => .ok state.returnedFbPtr

def startFirstTransfer (profile : Profile) (api : ChannelApi) (core : IsrCore) (fb : FrameBuffer)
    (fbPtr : Addr) : Except Panic IsrCore :=
  match core.state with
  | none => .error .hub75NotInitialised
  | some state => do
      let bcm ← state.bcm.load profile fb
      let state := { state with
        bcm
        currentFbPtr := fbPtr
        pendingDelta := none
        pendingFbPtr := 0
        returnedFbPtr := 0 }
      kickCurrent profile api { core with swapDone := false, frameCount := 0 } state

end IsrCore

/-! ## The display task and its environment -/

/-- The driver handle in use: the shared core, the future of the swap in
progress, and the buffers in the caller's hand.  A swap that was called but not
polled yet holds its buffer without having queued it. -/
structure System where
  core : IsrCore
  held : Option Addr
  phase : Phase Nat
  hand : List Addr

/-- The steps of the interrupt (`isr`) and of the task.  `enter` is the start of
the first poll, which runs the first critical section; `poll` starts a later
one.  `load` and `lock` are the two halves of the poll closure. -/
inductive Label
  | isr
  | swap (fbPtr : Addr)
  | enter (waker : Nat)
  | load
  | lock
  | poll (waker : Nat)
  | finish
  | cancel
deriving DecidableEq, Repr

namespace System

/-- One step.  `swap` takes `&mut self` and moves a buffer out of the caller's
hand, so it needs an idle driver and an owned buffer; a future can be dropped
where it awaits, or before it was polled at all. -/
def step (profile : Profile) (api : ChannelApi) (system : System) : Label -> Option System
  | .isr =>
      match system.core.onDmaComplete profile api with
      | .ok core => some { system with core }
      | .error _ => none
  | .swap fbPtr =>
      if system.held = none ∧ system.phase = .idle ∧ fbPtr ∈ system.hand then
        some { system with held := some fbPtr, hand := system.hand.erase fbPtr }
      else none
  | .enter waker =>
      match system.held with
      | none => none
      | some fbPtr =>
          match system.core.swapInnerQueue profile fbPtr with
          | .ok core => some { system with core, held := none, phase := .started waker }
          | .error _ => none
  | .load =>
      match system.phase with
      | .started waker => some { system with phase := system.core.cell.loadPhase waker }
      | _ => none
  | .lock =>
      match system.phase with
      | .missed waker => some { system with
          core := system.core.swapInnerLock waker
          phase := system.core.cell.lockPhase waker }
      | _ => none
  | .poll waker =>
      match system.phase with
      | .asleep _ _ => some { system with phase := .started waker }
      | _ => none
  | .finish =>
      match system.phase with
      | .ready =>
          match system.core.swapInnerReturned with
          | .ok fbPtr => some { system with phase := .idle, hand := fbPtr :: system.hand }
          | .error _ => none
      | _ => none
  | .cancel =>
      match system.held, system.phase with
      | some _, .idle => some { system with held := none }
      | none, .asleep _ _ => some { system with phase := .idle }
      | _, _ => none

end System
end Dma
end Driver
end Hub75
