import Mathlib.Data.List.Basic

namespace Hub75
namespace Machine

/-!
# A completion flag with one waker slot

An interrupt handler reports a completed request to a polling task through a
flag and a slot for the task's waker.  The task arms a request, and then each
poll first reads the flag without a lock; only when the flag is still down does
it enter a critical section, read the flag again, and leave its waker.  The
handler's signal raises the flag and wakes whatever waker is in the slot.

`Sound` is the contract of this protocol, relative to a Boolean `completed` that
says whether the request armed last has completed.  Nothing is assumed about
when the handler signals, except that one request is not completed twice.  In
particular a waker left by an abandoned request may still be in the slot.
-/

/-- The shared cell, with the wake-ups issued so far, newest first. -/
structure Cell (Waker : Type) where
  done : Bool
  slot : Option Waker
  wakes : List Waker

/-- How far the task is with its request.  `asleep waker mark` is left by a poll
that returned Pending when `mark` wake-ups had been issued. -/
inductive Phase (Waker : Type)
  | idle
  | started (waker : Waker)
  | missed (waker : Waker)
  | asleep (waker : Waker) (mark : Nat)
  | ready
deriving DecidableEq, Repr

variable {Waker : Type}

namespace Cell

def arm (cell : Cell Waker) : Cell Waker :=
  { cell with done := false }

/-- Raise the flag and wake the waker in the slot. -/
def signal (cell : Cell Waker) : Cell Waker :=
  { done := true, slot := none, wakes := cell.slot.toList ++ cell.wakes }

/-- The critical section of a poll. -/
def lock (cell : Cell Waker) (waker : Waker) : Cell Waker :=
  if cell.done then cell else { cell with slot := some waker }

/-- The phase in which the critical section of a poll ends. -/
def lockPhase (cell : Cell Waker) (waker : Waker) : Phase Waker :=
  if cell.done then .ready else .asleep waker cell.wakes.length

/-- The phase in which the unlocked read of a poll ends. -/
def loadPhase (cell : Cell Waker) (waker : Waker) : Phase Waker :=
  if cell.done then .ready else .missed waker

variable {cell : Cell Waker} {waker : Waker}

theorem done_lock : (cell.lock waker).done = cell.done := by
  unfold lock
  split <;> rfl

/-- Neither part of a poll gives the request up. -/
theorem loadPhase_ne_idle : cell.loadPhase waker ≠ .idle := by
  unfold loadPhase
  split <;> exact fun impossible => nomatch impossible

theorem lockPhase_ne_idle : cell.lockPhase waker ≠ .idle := by
  unfold lockPhase
  split <;> exact fun impossible => nomatch impossible

/-- Readiness is reported only with the flag up. -/
theorem done_of_loadPhase (ready : cell.loadPhase waker = .ready) : cell.done = true := by
  unfold loadPhase at ready
  split at ready
  · next raised => exact raised
  · cases ready

theorem done_of_lockPhase (ready : cell.lockPhase waker = .ready) : cell.done = true := by
  unfold lockPhase at ready
  split at ready
  · next raised => exact raised
  · cases ready

end Cell

/-- The contract between the cell and the task. -/
structure Sound (completed : Bool) (cell : Cell Waker) (phase : Phase Waker) : Prop where
  flag : cell.done = completed
  ready : phase = .ready -> completed = true
  waiting : forall waker mark, phase = .asleep waker mark -> completed = false ->
    cell.slot = some waker ∧ cell.wakes.length = mark
  woken : forall waker mark, phase = .asleep waker mark -> completed = true ->
    Exists fun earlier => cell.wakes = waker :: earlier ∧ earlier.length = mark

namespace Sound

variable {completed : Bool} {cell : Cell Waker} {phase : Phase Waker}

/-- Phases in which the task does not sleep and has not been told anything
impose no condition beyond the flag. -/
theorem of_awake (flag : cell.done = completed) (notReady : phase ≠ .ready)
    (notAsleep : forall waker mark, phase ≠ .asleep waker mark) : Sound completed cell phase where
  flag := flag
  ready same := absurd same notReady
  waiting waker mark same := absurd same (notAsleep waker mark)
  woken waker mark same := absurd same (notAsleep waker mark)

/-- Arming lowers the flag, whatever an earlier request left behind. -/
theorem arm (waker : Waker) : Sound false cell.arm (.started waker) :=
  of_awake rfl (fun impossible => nomatch impossible) (fun _ _ impossible => nomatch impossible)

/-- The completing signal wakes a sleeping task exactly once. -/
theorem signal (sound : Sound false cell phase) (notReady : phase ≠ .ready) :
    Sound true cell.signal phase where
  flag := rfl
  ready same := absurd same notReady
  waiting _ _ _ impossible := nomatch impossible
  woken waker mark same _ := by
    rcases sound.waiting waker mark same rfl with ⟨slot, length⟩
    exact ⟨cell.wakes, by simp only [Cell.signal, slot, Option.toList, List.singleton_append], length⟩

/-- A task that is ready was told by a completed request, so a request that is
still running cannot have a ready task. -/
theorem not_ready (sound : Sound false cell phase) : phase ≠ .ready :=
  fun same => Bool.false_ne_true (sound.ready same)

theorem load {waker : Waker} (sound : Sound completed cell (.started waker)) :
    Sound completed cell (cell.loadPhase waker) := by
  unfold Cell.loadPhase
  cases raised : cell.done with
  | false =>
      exact of_awake sound.flag (fun impossible => nomatch impossible)
        (fun _ _ impossible => nomatch impossible)
  | true =>
      exact {
        flag := sound.flag
        ready := fun _ => sound.flag.symm.trans raised
        waiting := fun _ _ impossible => nomatch impossible
        woken := fun _ _ impossible => nomatch impossible }

/-- The recheck under the lock closes the window left by the unlocked read:
the waker is stored only while the flag is down. -/
theorem lock {waker : Waker} (sound : Sound completed cell (.missed waker)) :
    Sound completed (cell.lock waker) (cell.lockPhase waker) := by
  unfold Cell.lock Cell.lockPhase
  cases raised : cell.done with
  | false =>
      have running : completed = false := sound.flag.symm.trans raised
      exact {
        flag := running.symm
        ready := fun impossible => nomatch impossible
        waiting := fun other mark same _ => by
          cases same
          exact ⟨rfl, rfl⟩
        woken := fun _ _ _ impossible => absurd (running.symm.trans impossible) Bool.false_ne_true }
  | true =>
      exact {
        flag := sound.flag
        ready := fun _ => sound.flag.symm.trans raised
        waiting := fun _ _ impossible => nomatch impossible
        woken := fun _ _ impossible => nomatch impossible }

/-- Polling again replaces the waker to be left, and giving up or finishing
leaves the cell alone. -/
theorem repoll (sound : Sound completed cell phase) (waker : Waker) :
    Sound completed cell (.started waker) :=
  of_awake sound.flag (fun impossible => nomatch impossible)
    (fun _ _ impossible => nomatch impossible)

theorem leave (sound : Sound completed cell phase) : Sound completed cell .idle :=
  of_awake sound.flag (fun impossible => nomatch impossible)
    (fun _ _ impossible => nomatch impossible)

end Sound
end Machine
end Hub75
