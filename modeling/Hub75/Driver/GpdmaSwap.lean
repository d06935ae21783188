import Hub75.Driver.Gpdma2d

namespace Hub75
namespace Driver
namespace Gpdma

open Machine

/-!
# A GPDMA driver in use

`swap` of the GPDMA backends does not use the interrupt to retarget the table.
The display task patches the descriptors itself, one store after the other,
while the channel keeps loading them; then it arms the wait and polls.  Any two
of these actions can have channel steps and interrupts between them, so each
is a step of its own.

Of the channel this model keeps what the driver relies on.  It walks the active
items in a circle.  One step ends the present descriptor, sets a pending flag
of one bit if that descriptor was the terminal one, and loads the source
address of the next descriptor, which it then uses until the following step.
The interrupt runs at any later time, clears the flag, and counts one frame.

Both backends have the same handle and the same `swap`, up to the type of the
items, which is a parameter here.
-/

/-- The descriptor in flight: its index, and the source address that was loaded
with it.  `history` records every load with its index, newest first; no step
depends on it. -/
structure Walker where
  index : Nat
  source : Addr
  history : List (Nat × Addr)
deriving DecidableEq, Repr

/-- How far the task is with `swap`.  A swap that was called but not polled yet
holds its buffer.  `patching` is the loop of `apply_item_delta` before its store
to slot `next`, and `waiting` the rest of the body; both keep `old_ptr`. -/
inductive Progress
  | idle
  | called (fbPtr : Addr)
  | patching (oldPtr delta : Addr) (next waker : Nat)
  | waiting (oldPtr : Addr) (phase : Phase Nat)
deriving DecidableEq, Repr

/-- The `Hub75` handle with its table, the channel, and the caller. -/
structure System (I : Type) (capacity : Nat) where
  core : IsrCore
  items : Vector I capacity
  descriptorCount : Nat
  currentFbPtr : Addr
  progress : Progress
  walker : Walker
  pending : Bool
  hand : List Addr

/-- `walk` is the channel and `isr` the interrupt; the others are the task.
`enter` is the start of the first poll up to the patch loop, `store` one
iteration of it, and `arm` the start of `wait_swap`. -/
inductive Label
  | walk
  | isr
  | swap (fbPtr : Addr)
  | enter (waker : Nat)
  | store
  | arm
  | load
  | lock
  | poll (waker : Nat)
  | finish
  | cancel
deriving DecidableEq, Repr

namespace System

variable {I : Type} [Descriptor I] {capacity : Nat}

/-- The slot after `index` in the circular list. -/
def nextIndex (system : System I capacity) (index : Nat) : Nat :=
  if index + 1 = system.descriptorCount then 0 else index + 1

/-- The number of iterations of the patch loop. -/
def patchCount (system : System I capacity) : Nat := min system.descriptorCount capacity

/-- One step of the channel. -/
def walk (system : System I capacity) : Option (System I capacity) :=
  let index := system.nextIndex system.walker.index
  match system.items[index]? with
  | none => none
  | some item => some { system with
      walker := ⟨index, Descriptor.sar item, (index, Descriptor.sar item) :: system.walker.history⟩
      pending := system.pending || decide (system.walker.index + 1 = system.descriptorCount) }

/-- One step.  With `SWAP_WAIT_COUNT` zero, `wait_swap` returns without arming
anything. -/
def step (profile : Profile) (waitCount : Nat) (system : System I capacity) :
    Label -> Option (System I capacity)
  | .walk => system.walk
  | .isr =>
      if system.pending then
        match system.core.onFrame profile with
        | .ok core => some { system with core, pending := false }
        | .error _ => none
      else none
  | .swap fbPtr =>
      if system.progress = .idle ∧ fbPtr ∈ system.hand then
        some { system with progress := .called fbPtr, hand := system.hand.erase fbPtr }
      else none
  | .enter waker =>
      match system.progress with
      | .called fbPtr =>
          match isizeSub profile fbPtr system.currentFbPtr with
          | .ok delta => some { system with
              currentFbPtr := fbPtr
              progress := .patching system.currentFbPtr delta
                (if delta ≠ 0 then 0 else system.patchCount) waker }
          | .error _ => none
      | _ => none
  | .store =>
      match system.progress with
      | .patching oldPtr delta next waker =>
          if next < system.patchCount then
            some { system with
              items := patchItem system.items delta next
              progress := .patching oldPtr delta (next + 1) waker }
          else none
      | _ => none
  | .arm =>
      match system.progress with
      | .patching oldPtr _ next waker =>
          if next < system.patchCount then none
          else if waitCount ≠ 0 then
            some { system with
              core := system.core.waitSwapArm waitCount
              progress := .waiting oldPtr (.started waker) }
          else some { system with progress := .waiting oldPtr .ready }
      | _ => none
  | .load =>
      match system.progress with
      | .waiting oldPtr (.started waker) =>
          some { system with progress := .waiting oldPtr (system.core.cell.loadPhase waker) }
      | _ => none
  | .lock =>
      match system.progress with
      | .waiting oldPtr (.missed waker) => some { system with
          core := system.core.waitSwapLock waker
          progress := .waiting oldPtr (system.core.cell.lockPhase waker) }
      | _ => none
  | .poll waker =>
      match system.progress with
      | .waiting oldPtr (.asleep _ _) =>
          some { system with progress := .waiting oldPtr (.started waker) }
      | _ => none
  | .finish =>
      match system.progress with
      | .waiting oldPtr .ready =>
          some { system with progress := .idle, hand := oldPtr :: system.hand }
      | _ => none
  | .cancel =>
      match system.progress with
      | .called _ => some { system with progress := .idle }
      | .waiting _ (.asleep _ _) => some { system with progress := .idle }
      | _ => none

/-- A driver whose table has just been built for the buffer at `base`, with the
channel on any item of the circle and the pending flag up or down. -/
def started (items : Vector I capacity) (descriptorCount : Nat) (base : Addr) (hand : List Addr)
    (position : Nat) (pending : Bool) : System I capacity where
  core := IsrCore.new
  items := items
  descriptorCount := descriptorCount
  currentFbPtr := base
  progress := .idle
  walker := ⟨position, (items[position]?.map Descriptor.sar).getD 0, []⟩
  pending := pending
  hand := hand

end System
end Gpdma
end Driver
end Hub75
