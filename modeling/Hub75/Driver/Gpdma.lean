import Hub75.Driver.Bcm
import Hub75.Driver.Descriptor
import Hub75.Machine.Handshake

namespace Hub75
namespace Driver
namespace Gpdma

open Machine

/-!
# The linear GPDMA backend

The channel walks a circular list of descriptors for ever.  This backend writes
one descriptor for every repetition of every segment, and only the terminal one
raises an interrupt.  A framebuffer swap patches the source address of every
active descriptor while the channel is running, and then waits for a number of
these interrupts that is selected by the features of the crate.

The functions shared with the 2D backend are written once, over the descriptor
type: the encoding of one segment, the link to the next item, the patch loop,
and the interrupt-side counter.
-/

/-- `MAX_DESCRIPTORS`. -/
def maxDescriptors : Nat := (1 <<< 8) - 1

/-- `size_of::<LinearItem>()`: six register words. -/
def linearItemSize : Nat := 24

/-! ## Parts of both builders -/

/-- The assertion that the first and the last byte of the active items have the
same upper half of the address. -/
def assertOneRegion (profile : Profile) (panic : Panic) (base : Addr) (size total : Nat) :
    Except Panic Unit := do
  let bytes ← usizeMul profile size total
  let after ← usizeAdd profile base.toNat bytes
  let last ← usizeSub profile after 1
  assertThat (base.toNat >>> 16 = last >>> 16) panic

/-- The item that transfers one segment with the word width of the port. -/
def newWriteItem {Config I : Type} (profile : Profile) (api : ItemApi Config I) (request : Nat)
    (ptr : Addr) (len : Nat) (odrAddr : Addr) (wordSize : WordSize) (config : Config) :
    Except Panic I :=
  match wordSize with
  | .oneByte => api.newWrite request ptr len .oneByte odrAddr config
  | .twoBytes => do
      debugAssert profile (ptr.toNat % 2 = 0) .sourceNotAligned
      debugAssert profile (len % 2 = 0) .lengthNotMultipleOfTwo
      api.newWrite request ptr (len / 2) .twoBytes odrAddr config
  | .fourBytes => .error .gpdmaWordSize

/-- Link an item to slot `next` of the table, whose bounds are checked. -/
def linkItem {Config I : Type} (api : ItemApi Config I) (base : Addr) (size capacity : Nat)
    (item : I) (next : Nat) : Except Panic I :=
  if next < capacity then .ok (api.linkTo item (itemOffset (itemAddress base size next)))
  else .error (.indexOutOfBounds next)

/-- The end of both loop bodies: write the item of a segment and link it. -/
def encodeItem {Config I : Type} (profile : Profile) (api : ItemApi Config I) (base : Addr)
    (size capacity request : Nat) (segment : BcmSegment) (odrAddr : Addr) (wordSize : WordSize)
    (config : Config) (next : Nat) : Except Panic I := do
  let item ← newWriteItem profile api request segment.ptr segment.len odrAddr wordSize config
  linkItem api base size capacity item next

/-! ## The builder -/

/-- The sum of the repetition counts, in `usize` arithmetic. -/
def sumReps (profile : Profile) (fb : FrameBuffer) : Except Panic Nat :=
  (List.range fb.bcmSegmentCount).foldlM
    (fun total i => usizeAdd profile total (fb.bcmSegment i).reps) 0

/-- The loop body: the item at `idx` that streams segment `i`. -/
def chainItem (profile : Profile) (api : ItemApi LinearItemConfig LinearItem) (base : Addr)
    (fb : FrameBuffer) (odrAddr : Addr) (wordSize : WordSize) (request total idx i : Nat) :
    Except Panic LinearItem :=
  let config : LinearItemConfig := ⟨.lastLinkedListItem⟩
  let terminalConfig : LinearItemConfig := ⟨.eachLinkedListItem⟩
  let itemConfig := if idx + 1 = total then terminalConfig else config
  let nextIdx := if idx + 1 = total then 0 else idx + 1
  encodeItem profile api base linearItemSize maxDescriptors request (fb.bcmSegment i) odrAddr
    wordSize itemConfig nextIdx

/-- `build_item_chain`, on the table at `base`; the result is the table and the
number of active items. -/
def buildItemChain (profile : Profile) (api : ItemApi LinearItemConfig LinearItem) (base : Addr)
    (items : Vector LinearItem maxDescriptors) (fb : FrameBuffer) (odrAddr : Addr)
    (wordSize : WordSize) (request : Nat) :
    Except Panic (Vector LinearItem maxDescriptors × Nat) := do
  let segmentCount := fb.bcmSegmentCount
  assertThat (0 < segmentCount ∧ segmentCount ≤ maxSegments) (.segmentCountOutOfRange segmentCount)
  let total ← sumReps profile fb
  assertThat (total ≤ maxDescriptors) .tooManyDescriptors
  assertOneRegion profile .chainSpansBoundary base linearItemSize total
  let items ← fillGroups .indexOutOfBounds (fun i => (fb.bcmSegment i).reps)
    (fun idx i => chainItem profile api base fb odrAddr wordSize request total idx i)
    (List.range segmentCount) 0 items
  return (items, total)

/-! ## The patch loops -/

/-- One store of a patch loop. -/
def patchItem {I : Type} [Descriptor I] {capacity : Nat} (items : Vector I capacity)
    (delta : Addr) (j : Nat) : Vector I capacity :=
  if inside : j < capacity then items.set j (Descriptor.shiftSar delta items[j]) else items

/-- The first `count` stores of a patch loop, in ascending order. -/
def patchItems {I : Type} [Descriptor I] {capacity : Nat} (items : Vector I capacity)
    (delta : Addr) : Nat -> Vector I capacity
  | 0 => items
  | j + 1 => patchItem (patchItems items delta j) delta j

/-- `items.iter_mut().take(count)` stops at the end of the table. -/
def applyItemDelta (items : Vector LinearItem maxDescriptors) (count : Nat) (delta : Addr) :
    Vector LinearItem maxDescriptors :=
  patchItems items delta (min count maxDescriptors)

def applyItemDelta2d (items : Vector TwoDItem maxSegments) (count : Nat) (delta : Addr) :
    Vector TwoDItem maxSegments :=
  patchItems items delta (min count maxSegments)

/-! ## The interrupt-side state -/

/-- The features that shorten the wait of `swap`. -/
structure Features where
  unsafeSwapWait1 : Bool
  unsafeSwapWait0 : Bool
deriving DecidableEq, Repr

/-- `SWAP_WAIT_COUNT`. -/
def swapWaitCount (features : Features) : Nat :=
  if features.unsafeSwapWait0 then 0 else if features.unsafeSwapWait1 then 1 else 2

/-- `u8` subtraction with the overflow behaviour of the build. -/
def u8Sub (profile : Profile) (a b : Nat) : Except Panic Nat :=
  if b ≤ a then .ok (a - b)
  else if profile.overflowChecks then .error .arithmeticOverflow
  else .ok ((a + 0x100 - b) % 0x100)

/-- `IsrCore`.  As in the plain backend, the last field records the calls of
`Waker::wake`, newest first. -/
structure IsrCore where
  swapWaits : Nat
  swapDone : Bool
  swapWaker : Option Nat
  frameCount : BitVec 32
  wakes : List Nat

namespace IsrCore

def new : IsrCore where
  swapWaits := 0
  swapDone := false
  swapWaker := none
  frameCount := 0
  wakes := []

/-- The completion flag and waker slot as one handshake cell. -/
def cell (core : IsrCore) : Cell Nat where
  done := core.swapDone
  slot := core.swapWaker
  wakes := core.wakes

def signalSwapDone (core : IsrCore) : IsrCore :=
  { core with
    swapDone := true
    swapWaker := none
    wakes := core.swapWaker.toList ++ core.wakes }

def onFrame (profile : Profile) (core : IsrCore) : Except Panic IsrCore := do
  let core := { core with frameCount := core.frameCount + 1 }
  if 0 < core.swapWaits then
    let swapWaits ← u8Sub profile core.swapWaits 1
    let core := { core with swapWaits }
    if swapWaits = 0 then
      return core.signalSwapDone
    else
      return core
  else
    return core

/-- The first critical section of `wait_swap`. -/
def waitSwapArm (waitCount : Nat) (core : IsrCore) : IsrCore :=
  { core with swapWaits := waitCount, swapDone := false }

/-- The critical section of the poll closure of `wait_swap`. -/
def waitSwapLock (core : IsrCore) (waker : Nat) : IsrCore :=
  if core.swapDone then core else { core with swapWaker := some waker }

/-- On the shared cell it is the critical section of a poll. -/
theorem cell_waitSwapLock (core : IsrCore) (waker : Nat) :
    (core.waitSwapLock waker).cell = core.cell.lock waker := by
  unfold waitSwapLock Cell.lock cell
  split <;> rfl

theorem swapDone_waitSwapLock (core : IsrCore) (waker : Nat) :
    (core.waitSwapLock waker).swapDone = core.swapDone :=
  (congrArg Cell.done (core.cell_waitSwapLock waker)).trans Cell.done_lock

theorem swapWaits_waitSwapLock (core : IsrCore) (waker : Nat) :
    (core.waitSwapLock waker).swapWaits = core.swapWaits := by
  unfold waitSwapLock
  split <;> rfl

/-- What one `on_frame` does to the wait counter and the handshake cell: nothing
while no wait is armed, the completing signal when one interrupt was left, and
one count down otherwise. -/
def Counted (core after : IsrCore) : Prop :=
  (core.swapWaits = 0 ∧ after.swapWaits = 0 ∧ after.cell = core.cell) ∨
    (core.swapWaits = 1 ∧ after.swapWaits = 0 ∧ after.cell = core.cell.signal) ∨
      (2 ≤ core.swapWaits ∧ after.swapWaits + 1 = core.swapWaits ∧ after.cell = core.cell)

/-- The counter never underflows, whatever the build settings. -/
theorem onFrame_counted (profile : Profile) (core : IsrCore) :
    Exists fun after => core.onFrame profile = .ok after ∧ Counted core after := by
  unfold onFrame
  by_cases armed : 0 < core.swapWaits
  · have subtracted : u8Sub profile core.swapWaits 1 = .ok (core.swapWaits - 1) := if_pos armed
    simp only [if_pos armed, subtracted, bind, Except.bind]
    by_cases last : core.swapWaits - 1 = 0
    · simp only [if_pos last]
      exact ⟨_, rfl, Or.inr (Or.inl ⟨by omega, last, rfl⟩)⟩
    · simp only [if_neg last]
      refine ⟨_, rfl, Or.inr (Or.inr ⟨by omega, ?_, rfl⟩)⟩
      change core.swapWaits - 1 + 1 = core.swapWaits
      omega
  · have unarmed : core.swapWaits = 0 := Nat.eq_zero_of_not_pos armed
    simp only [if_neg armed]
    exact ⟨_, rfl, Or.inl ⟨unarmed, unarmed, rfl⟩⟩

theorem onFrame_cases {profile : Profile} {core after : IsrCore}
    (counted : core.onFrame profile = .ok after) : Counted core after := by
  rcases onFrame_counted profile core with ⟨next, same, effect⟩
  cases Except.ok.inj (same.symm.trans counted)
  exact effect

end IsrCore

/-! ## `wait_swap` against the interrupt -/

/-- The interrupt-side state with the future of `wait_swap`. -/
structure Waiter where
  core : IsrCore
  phase : Phase Nat

/-- Calls of `on_frame`, and the steps of the future.  `arm` is its first poll up
to the closure of `poll_fn`. -/
inductive WaitLabel
  | isr
  | arm (waker : Nat)
  | load
  | lock
  | poll (waker : Nat)
  | finish
  | cancel
deriving DecidableEq, Repr

/-- One step.  The interrupt is not restricted here: `on_frame` may be called at
any time. -/
def Waiter.step (profile : Profile) (waitCount : Nat) (waiter : Waiter) :
    WaitLabel -> Option Waiter
  | .isr =>
      match waiter.core.onFrame profile with
      | .ok core => some { waiter with core }
      | .error _ => none
  | .arm waker =>
      match waiter.phase with
      | .idle => some ⟨waiter.core.waitSwapArm waitCount, .started waker⟩
      | _ => none
  | .load =>
      match waiter.phase with
      | .started waker => some { waiter with phase := waiter.core.cell.loadPhase waker }
      | _ => none
  | .lock =>
      match waiter.phase with
      | .missed waker =>
          some ⟨waiter.core.waitSwapLock waker, waiter.core.cell.lockPhase waker⟩
      | _ => none
  | .poll waker =>
      match waiter.phase with
      | .asleep _ _ => some { waiter with phase := .started waker }
      | _ => none
  | .finish =>
      match waiter.phase with
      | .ready => some { waiter with phase := .idle }
      | _ => none
  | .cancel =>
      match waiter.phase with
      | .asleep _ _ => some { waiter with phase := .idle }
      | _ => none

end Gpdma
end Driver
end Hub75
