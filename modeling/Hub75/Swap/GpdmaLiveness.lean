import Hub75.Swap.FrameCount
import Hub75.Machine.Fairness

namespace Hub75
namespace Driver
namespace Gpdma

open Machine

/-!
# Every GPDMA swap ends

A swap of a GPDMA backend has more to wait for than a plain one: its own stores, then the
ends of whole frames, which the channel reports through a flag of one bit, then the
interrupts that take the flag down, and last its own polls.  Each of the four is a rank
of its own: the stores left, the descriptors up to the terminal one, the wait counter, and
the distance of the task from its end.

Nothing is assumed about how fast any of them is.  Interrupts may be merged, and the channel
may go round the table many times before one is served.
-/

variable {I : Type} [Descriptor I] {capacity : Nat} {profile : Profile} {waitCount : Nat}
  {chain : Chain I capacity} {system after : System I capacity} {label : Label}

/-- The steps of the task. -/
def Label.Task (label : Label) : Prop := label ≠ .walk ∧ label ≠ .isr

/-- The channel never stops, a pending interrupt is served at last, and the executor goes on
with the patch loop and attends to the wait. -/
structure Fair (run : Endless (@System.step I _ capacity profile waitCount)) :
    Prop where
  walks : forall time, Eventually (fun later => run.label later = .walk) time
  interrupts : forall time, (run.state time).pending = true ->
    Eventually (fun later => run.label later = .isr) time
  patching : forall time oldPtr delta next waker,
    (run.state time).progress = .patching oldPtr delta next waker ->
      Eventually (fun later => (run.label later).Task) time
  attended : Attended (fun time => (run.state time).core.cell)
    (fun time => (run.state time).future.phase) (fun time => (run.label time).Task)

/-! ## One step of a swap in progress -/

/-- The channel and the interrupt do not touch the task. -/
theorem System.step_progress (taken : System.step profile waitCount system label = some after)
    (notTask : ¬ label.Task) : after.progress = system.progress := by
  by_cases walk : label = .walk
  · subst walk
    rcases System.step_walk taken with ⟨_, _, same⟩
    exact same ▸ rfl
  · have isr : label = .isr := Decidable.of_not_not fun other => notTask ⟨walk, other⟩
    subst isr
    rcases System.step_isr taken with ⟨_, _, _, same⟩
    exact same ▸ rfl

/-- A swap in progress keeps the pointer it will return, and the buffer it has brought
stays displayed, until it returns or its future is dropped. -/
theorem System.step_replacing {found : Addr} (replacing : system.progress.oldPtr = some found)
    (taken : System.step profile waitCount system label = some after) :
    after.currentFbPtr = system.currentFbPtr ∧
      (after.progress.oldPtr = some found ∨
        (label = .finish ∧ after.hand = found :: system.hand) ∨ label = .cancel) := by
  have polls_kept : label.Polls -> after.currentFbPtr = system.currentFbPtr ∧
      after.progress.oldPtr = some found := by
    intro polls
    rcases System.step_polls polls taken with ⟨oldPtr, phase, next, core, waiting, _, _, _, same⟩
    rw [waiting] at replacing
    subst same
    exact ⟨rfl, replacing⟩
  cases label with
  | walk =>
      rcases System.step_walk taken with ⟨_, _, same⟩
      subst same
      exact ⟨rfl, Or.inl replacing⟩
  | isr =>
      rcases System.step_isr taken with ⟨_, _, _, same⟩
      subst same
      exact ⟨rfl, Or.inl replacing⟩
  | swap fbPtr =>
      rcases System.step_swap taken with ⟨⟨idle, _⟩, _⟩
      rw [idle] at replacing
      cases replacing
  | enter waker =>
      rcases System.step_enter taken with ⟨fbPtr, called, _⟩
      rw [called] at replacing
      cases replacing
  | store =>
      rcases System.step_store taken with ⟨_, _, _, _, patching, _, same⟩
      rw [patching] at replacing
      subst same
      exact ⟨rfl, Or.inl replacing⟩
  | arm =>
      rcases System.step_arm taken with ⟨_, _, _, _, patching, _, ⟨_, same⟩ | ⟨_, same⟩⟩
      · rw [patching] at replacing
        subst same
        exact ⟨rfl, Or.inl replacing⟩
      · rw [patching] at replacing
        subst same
        exact ⟨rfl, Or.inl replacing⟩
  | load =>
      rcases polls_kept trivial with ⟨current, still⟩
      exact ⟨current, Or.inl still⟩
  | lock =>
      rcases polls_kept trivial with ⟨current, still⟩
      exact ⟨current, Or.inl still⟩
  | poll waker =>
      rcases polls_kept trivial with ⟨current, still⟩
      exact ⟨current, Or.inl still⟩
  | finish =>
      rcases System.step_finish taken with ⟨oldPtr, ready, same⟩
      rw [ready] at replacing
      cases Option.some.inj replacing
      subst same
      exact ⟨rfl, Or.inr (Or.inl ⟨rfl, rfl⟩)⟩
  | cancel =>
      rcases System.step_cancel taken with ⟨_, same⟩
      subst same
      exact ⟨rfl, Or.inr (Or.inr rfl)⟩

/-- A step of the task in the patch loop is a store, or it begins the wait.  A wait for no
interrupt is over at once. -/
theorem System.step_patching {oldPtr delta : Addr} {next waker : Nat}
    (patching : system.progress = .patching oldPtr delta next waker)
    (taken : System.step profile waitCount system label = some after) (task : label.Task) :
    (next < system.patchCount ∧ after.progress = .patching oldPtr delta (next + 1) waker) ∨
      (waitCount ≠ 0 ∧ after.future.phase = .started waker ∨
        waitCount = 0 ∧ after.future.phase = .ready) := by
  have other : label.Polls -> False := by
    intro polls
    rcases System.step_polls polls taken with ⟨_, _, _, _, waiting, _⟩
    rw [patching] at waiting
    cases waiting
  cases label with
  | walk => exact absurd rfl task.1
  | isr => exact absurd rfl task.2
  | swap fbPtr =>
      rcases System.step_swap taken with ⟨⟨idle, _⟩, _⟩
      rw [patching] at idle
      cases idle
  | enter waker =>
      rcases System.step_enter taken with ⟨_, called, _⟩
      rw [patching] at called
      cases called
  | store =>
      rcases System.step_store taken with ⟨_, _, _, _, here, more, same⟩
      rw [patching] at here
      cases here
      subst same
      exact Or.inl ⟨more, rfl⟩
  | arm =>
      rcases System.step_arm taken with ⟨_, _, _, _, here, _, ⟨waits, same⟩ | ⟨none, same⟩⟩
      · rw [patching] at here
        cases here
        subst same
        exact Or.inr (Or.inl ⟨waits, rfl⟩)
      · subst same
        exact Or.inr (Or.inr ⟨none, rfl⟩)
  | load => exact absurd trivial other
  | lock => exact absurd trivial other
  | poll waker => exact absurd trivial other
  | finish =>
      rcases System.step_finish taken with ⟨_, ready, _⟩
      rw [patching] at ready
      cases ready
  | cancel =>
      rcases System.step_cancel taken with ⟨⟨_, called⟩ | ⟨_, _, _, asleep⟩, _⟩
      · rw [patching] at called
        cases called
      · rw [patching] at asleep
        cases asleep

/-- A step of the task while it waits is a step of the future of `wait_swap`, and when that
is over, so is the swap. -/
theorem System.step_waiting (live : system.future.phase ≠ .idle)
    (taken : System.step profile waitCount system label = some after) (task : label.Task) :
    (after.future.phase = .idle -> after.progress = .idle) ∧ Exists fun event => event ≠ .isr ∧
      system.future.step profile waitCount event = some after.future := by
  have waits : Exists fun oldPtr => Exists fun phase => system.progress = .waiting oldPtr phase := by
    cases progress : system.progress with
    | waiting oldPtr phase => exact ⟨oldPtr, phase, rfl⟩
    | _ =>
        refine absurd ?_ live
        simp only [System.future, progress]
  rcases waits with ⟨_, _, waiting⟩
  cases label with
  | walk => exact absurd rfl task.1
  | isr => exact absurd rfl task.2
  | swap fbPtr =>
      rcases System.step_swap taken with ⟨⟨idle, _⟩, _⟩
      cases waiting.symm.trans idle
  | enter waker =>
      rcases System.step_enter taken with ⟨_, called, _⟩
      cases waiting.symm.trans called
  | store =>
      rcases System.step_store taken with ⟨_, _, _, _, patching, _⟩
      cases waiting.symm.trans patching
  | arm =>
      rcases System.step_arm taken with ⟨_, _, _, _, patching, _⟩
      cases waiting.symm.trans patching
  | load =>
      rcases System.step_load taken with ⟨_, _, started, same⟩
      refine ⟨fun idle => ?_, .load, (fun impossible => WaitLabel.noConfusion impossible), ?_⟩
      · subst same
        exact absurd idle Cell.loadPhase_ne_idle
      · simp only [same, Waiter.step, System.future, started]
  | lock =>
      rcases System.step_lock taken with ⟨_, _, missed, same⟩
      refine ⟨fun idle => ?_, .lock, (fun impossible => WaitLabel.noConfusion impossible), ?_⟩
      · subst same
        exact absurd idle Cell.lockPhase_ne_idle
      · simp only [same, Waiter.step, System.future, missed]
  | poll waker =>
      rcases System.step_poll taken with ⟨_, ⟨_, _, asleep⟩, same⟩
      refine ⟨fun idle => ?_, .poll waker, (fun impossible => WaitLabel.noConfusion impossible), ?_⟩
      · subst same
        cases idle
      · simp only [same, Waiter.step, System.future, asleep]
  | finish =>
      rcases System.step_finish taken with ⟨_, ready, same⟩
      refine ⟨fun _ => same ▸ rfl, .finish, (fun impossible => WaitLabel.noConfusion impossible), ?_⟩
      simp only [same, Waiter.step, System.future, ready]
  | cancel =>
      rcases System.step_cancel taken with ⟨⟨_, called⟩ | ⟨_, _, _, asleep⟩, same⟩
      · cases waiting.symm.trans called
      · refine ⟨fun _ => same ▸ rfl, .cancel, (fun impossible => WaitLabel.noConfusion impossible), ?_⟩
        simp only [same, Waiter.step, System.future, asleep]

/-! ## One step of the wait -/

section Waiting

variable {waiter next : Waiter} {event : WaitLabel}

/-- What a step of the future does: it leaves the flag and the counter alone, and under the
raised flag it comes closer to the end. -/
theorem Waiter.step_task (taken : waiter.step profile waitCount event = some next)
    (notIsr : event ≠ .isr) (live : waiter.phase ≠ .idle) :
    next.core.swapDone = waiter.core.swapDone ∧ next.core.swapWaits = waiter.core.swapWaits ∧
      (waiter.core.swapDone = true -> waiter.phase.Settles next.phase) := by
  cases event with
  | isr => exact absurd rfl notIsr
  | arm waker =>
      simp only [Waiter.step] at taken
      cases taken
  | load =>
      simp only [Waiter.step] at taken
      split at taken
      · next waker started =>
          cases taken
          refine ⟨rfl, rfl, fun done => ?_⟩
          have told : waiter.core.cell.loadPhase waker = .ready := if_pos done
          rw [started, told]
          exact .load waker
      · cases taken
  | lock =>
      simp only [Waiter.step] at taken
      split at taken
      · next waker missed =>
          cases taken
          refine ⟨waiter.core.swapDone_waitSwapLock waker, waiter.core.swapWaits_waitSwapLock waker,
            fun done => ?_⟩
          have told : waiter.core.cell.lockPhase waker = .ready := if_pos done
          rw [missed, told]
          exact .lock waker
      · cases taken
  | poll waker =>
      simp only [Waiter.step] at taken
      split at taken
      · next other mark asleep =>
          cases taken
          refine ⟨rfl, rfl, fun _ => ?_⟩
          rw [asleep]
          exact .poll other waker mark
      · cases taken
  | finish =>
      simp only [Waiter.step] at taken
      split at taken
      · next ready =>
          cases taken
          refine ⟨rfl, rfl, fun _ => ?_⟩
          rw [ready]
          exact .finish
      · cases taken
  | cancel =>
      simp only [Waiter.step] at taken
      split at taken
      · next waker mark asleep =>
          cases taken
          refine ⟨rfl, rfl, fun _ => ?_⟩
          rw [asleep]
          exact .cancel waker mark
      · cases taken

/-- From a wait that is over the future only returns. -/
theorem Waiter.step_ready (taken : waiter.step profile waitCount event = some next)
    (notIsr : event ≠ .isr) (ready : waiter.phase = .ready) : next.phase = .idle := by
  cases event with
  | isr => exact absurd rfl notIsr
  | finish =>
      simp only [Waiter.step, ready, Option.some.injEq] at taken
      exact taken ▸ rfl
  | arm | load | lock | poll | cancel =>
      simp only [Waiter.step, ready, reduceCtorEq] at taken

/-- An unfinished wait has interrupts left to count. -/
def Waiter.Awaits (waiter : Waiter) : Prop :=
  waiter.phase ≠ .idle -> waiter.core.swapDone = false -> 0 < waiter.core.swapWaits

theorem Waiter.Awaits.step (awaits : waiter.Awaits) (positive : 0 < waitCount)
    (taken : waiter.step profile waitCount event = some next) : next.Awaits := by
  intro live running
  by_cases isr : event = .isr
  · subst isr
    simp only [Waiter.step] at taken
    split at taken
    · next core counted =>
        cases taken
        have before : core.cell = waiter.core.cell -> 0 < waiter.core.swapWaits := fun same =>
          awaits live ((congrArg Cell.done same).symm.trans running)
        rcases IsrCore.onFrame_cases counted with ⟨unarmed, _, cell⟩ | ⟨_, _, cell⟩ | ⟨more, left, _⟩
        · exact absurd (before cell) (unarmed ▸ Nat.lt_irrefl 0)
        · have raised : core.swapDone = true := congrArg Cell.done cell
          exact absurd (raised.symm.trans running) Bool.true_eq_false.mp
        · change 0 < core.swapWaits
          omega
    · cases taken
  · by_cases idle : waiter.phase = .idle
    · cases event with
      | arm waker =>
          simp only [Waiter.step, idle] at taken
          cases taken
          exact positive
      | isr => exact absurd rfl isr
      | load | lock | poll | finish | cancel =>
          simp only [Waiter.step, idle, reduceCtorEq] at taken
    · rcases Waiter.step_task taken isr idle with ⟨done, waits, _⟩
      rw [waits]
      exact awaits idle (done.symm.trans running)

end Waiting

/-- A driver that waits for no interrupt is never seen waiting. -/
def System.Immediate (system : System I capacity) : Prop :=
  system.future.phase = .idle ∨ system.future.phase = .ready

theorem System.Immediate.step (immediate : system.Immediate)
    (taken : System.step profile 0 system label = some after) : after.Immediate := by
  by_cases task : label.Task
  · by_cases idle : system.future.phase = .idle
    · cases label with
      | walk => exact absurd rfl task.1
      | isr => exact absurd rfl task.2
      | swap fbPtr =>
          rcases System.step_swap taken with ⟨_, same⟩
          exact same ▸ Or.inl rfl
      | enter waker =>
          rcases System.step_enter taken with ⟨_, _, same⟩
          exact same ▸ Or.inl rfl
      | store =>
          rcases System.step_store taken with ⟨_, _, _, _, _, _, same⟩
          exact same ▸ Or.inl rfl
      | arm =>
          rcases System.step_arm taken with ⟨_, _, _, _, _, _, ⟨waits, _⟩ | ⟨_, same⟩⟩
          · exact absurd rfl waits
          · exact same ▸ Or.inr rfl
      | load =>
          rcases System.step_load taken with ⟨_, _, started, _⟩
          simp only [System.future, started, reduceCtorEq] at idle
      | lock =>
          rcases System.step_lock taken with ⟨_, _, missed, _⟩
          simp only [System.future, missed, reduceCtorEq] at idle
      | poll waker =>
          rcases System.step_poll taken with ⟨_, ⟨_, _, asleep⟩, _⟩
          simp only [System.future, asleep, reduceCtorEq] at idle
      | finish =>
          rcases System.step_finish taken with ⟨_, _, same⟩
          exact same ▸ Or.inl rfl
      | cancel =>
          rcases System.step_cancel taken with ⟨_, same⟩
          exact same ▸ Or.inl rfl
    · rcases System.step_waiting idle taken task with ⟨_, event, notIsr, moved⟩
      exact Or.inl (Waiter.step_ready moved notIsr (immediate.resolve_left idle))
  · have same := System.step_progress taken task
    unfold System.Immediate System.future
    rw [same]
    exact immediate

/-! ## The four ranks -/

variable {backend : Backend} {layout : Layout} {launch : Launch profile backend layout}
  {run : Endless (@System.step I _ capacity profile waitCount)}

/-- The driver has been followed all along the run: its table, its handshake, and its
channel. -/
structure Followed (waitCount count position : Nat) (pending : Bool) (trace : List Label)
    (system : System I capacity) : Prop where
  counts : system.descriptorCount = count
  counting : Counting count position pending trace system
  handshake : waitCount ≠ 0 -> Exists fun events => Handshake waitCount events system.future
  awaits : waitCount ≠ 0 -> system.future.Awaits
  immediate : waitCount = 0 -> system.Immediate

variable {count position : Nat} {pending : Bool}

/-- The descriptors from the one in flight to the terminal one, or none if the flag is up. -/
def toTerminal (count position : Nat) (pending : Bool) (trace : List Label) : Nat :=
  if flag count position pending trace = true then 0 else count - (position + walks trace) % count

/-- Every end of a descriptor brings the flag closer. -/
theorem toTerminal_walk {trace : List Label} (positive : 0 < count)
    (down : flag count position pending trace = false) :
    toTerminal count position pending (.walk :: trace) < toTerminal count position pending trace := by
  have below := Nat.mod_lt (position + walks trace) positive
  unfold toTerminal
  rw [down, if_neg Bool.false_ne_true]
  by_cases ends : atTerminal count position trace
  · have raised : flag count position pending (.walk :: trace) = true := by
      simp only [flag, ends, decide_true, Bool.or_true]
    rw [if_pos raised]
    omega
  · have still : flag count position pending (.walk :: trace) = false := by
      simp only [flag, down, ends, decide_false, Bool.or_self]
    have next : (position + walks (.walk :: trace)) % count = (position + walks trace) % count + 1 := by
      change (position + walks trace + 1) % count = _
      rw [← Nat.mod_add_mod]
      apply Nat.mod_eq_of_lt
      unfold atTerminal at ends
      omega
    rw [still, if_neg Bool.false_ne_true, next]
    omega

/-- The channel raises the flag again and again, so the interrupt runs again and again. -/
theorem Fair.interrupted (fair : Fair run) (positive : 0 < count)
    (followed : forall time, Followed waitCount count position pending (run.history time)
      (run.state time)) (time : Nat) : Eventually (fun later => run.label later = .isr) time := by
  have raised : LeadsTo (fun _ => True)
      (fun later => True ∧ (run.state later).pending = true) := by
    refine leadsTo_of_rank (fun later => run.label later = .walk)
      (fun later => toTerminal count position pending (run.history later)) ?_ ?_ ?_
    · intro later _ down
      have lowered : flag count position pending (run.history later) = false := by
        rw [← (followed later).counting.pending_eq]
        exact Bool.eq_false_of_not_eq_true down
      refine ⟨trivial, ?_⟩
      rw [run.history_succ]
      cases taken : run.label later with
      | walk => exact (toTerminal_walk positive lowered).le
      | isr =>
          have served := run.taken later
          rw [taken] at served
          exact absurd (System.step_isr served).1 down
      | _ => exact Nat.le_refl _
    · intro later _ down walk
      have lowered : flag count position pending (run.history later) = false := by
        rw [← (followed later).counting.pending_eq]
        exact Bool.eq_false_of_not_eq_true down
      rw [run.history_succ, walk]
      exact toTerminal_walk positive lowered
    · intro later _
      exact (fair.walks later).mono fun _ _ walk => Or.inl walk
  rcases raised time trivial with ⟨reached, after, _, up⟩
  exact (fair.interrupts reached up).from_earlier after

/-- The swap is in its patch loop. -/
def Progress.Patching (progress : Progress) : Prop :=
  Exists fun oldPtr => Exists fun delta => Exists fun next => Exists fun waker =>
    progress = .patching oldPtr delta next waker

/-- The stores left, and the arming after them. -/
def Progress.storesLeft (patchCount : Nat) : Progress -> Nat
  | .patching _ _ next _ => patchCount + 1 - next
  | _ => 0

/-- A step of the task in the patch loop leaves fewer stores, or arms the wait. -/
theorem System.step_storesLeft (patching : system.progress.Patching)
    (taken : System.step profile waitCount system label = some after) (task : label.Task)
    (notYet : ¬ after.future.phase ≠ .idle) :
    after.progress.Patching ∧
      after.progress.storesLeft system.patchCount < system.progress.storesLeft system.patchCount := by
  rcases patching with ⟨oldPtr, delta, next, waker, here⟩
  rcases System.step_patching here taken task with ⟨more, there⟩ | begun
  · refine ⟨⟨oldPtr, delta, next + 1, waker, there⟩, ?_⟩
    rw [here, there]
    simp only [Progress.storesLeft]
    omega
  · refine absurd (fun idle => ?_) notYet
    rcases begun with ⟨_, started⟩ | ⟨_, ready⟩
    · exact nomatch started.symm.trans idle
    · exact nomatch ready.symm.trans idle

/-- The patch loop comes to its end, and the wait begins. -/
theorem Fair.arms (fair : Fair run)
    (followed : forall time, Followed waitCount count position pending (run.history time)
      (run.state time)) :
    LeadsTo (fun time => (run.state time).progress.Patching)
      (fun time => (run.state time).progress.Patching ∧
        (run.state (time + 1)).future.phase ≠ .idle) := by
  have same_count : forall time, (run.state time).patchCount = min count capacity := by
    intro time
    unfold System.patchCount
    rw [(followed time).counts]
  refine leadsTo_of_rank (fun time => (run.label time).Task)
    (fun time => (run.state time).progress.storesLeft (min count capacity)) ?_ ?_ ?_
  · intro time patching notYet
    by_cases task : (run.label time).Task
    · have stored := System.step_storesLeft patching (run.taken time) task notYet
      rw [same_count] at stored
      exact ⟨stored.1, stored.2.le⟩
    · have same := System.step_progress (run.taken time) task
      rw [same]
      exact ⟨patching, Nat.le_refl _⟩
  · intro time patching notYet task
    have stored := System.step_storesLeft patching (run.taken time) task notYet
    rw [same_count] at stored
    exact stored.2
  · rintro time ⟨oldPtr, delta, next, waker, here⟩
    exact (fair.patching time oldPtr delta next waker here).mono fun _ _ task => Or.inl task

/-- The interrupt counts the wait down, and nothing else of a wait in progress touches the
counter. -/
theorem System.step_waits (live : system.future.phase ≠ .idle)
    (taken : System.step profile waitCount system label = some after) :
    (system.core.swapDone = true -> after.core.swapDone = true) ∧
      after.core.swapWaits ≤ system.core.swapWaits ∧
      (label = .isr -> 0 < system.core.swapWaits ->
        after.core.swapWaits < system.core.swapWaits) := by
  by_cases isr : label = .isr
  · subst isr
    rcases System.step_isr taken with ⟨_, core, counted, same⟩
    subst same
    change (_ -> core.swapDone = true) ∧ core.swapWaits ≤ _ ∧ (_ -> _ -> core.swapWaits < _)
    rcases IsrCore.onFrame_cases counted with ⟨_, left, cell⟩ | ⟨_, left, cell⟩ | ⟨_, left, cell⟩
    · exact ⟨fun done => (congrArg Cell.done cell).trans done, by omega, fun _ _ => by omega⟩
    · exact ⟨fun _ => congrArg Cell.done cell, by omega, fun _ _ => by omega⟩
    · exact ⟨fun done => (congrArg Cell.done cell).trans done, by omega, fun _ _ => by omega⟩
  · by_cases walk : label = .walk
    · subst walk
      rcases System.step_walk taken with ⟨_, _, same⟩
      subst same
      exact ⟨id, Nat.le_refl _, fun impossible => nomatch impossible⟩
    · rcases System.step_waiting live taken ⟨walk, isr⟩ with ⟨_, event, notIsr, moved⟩
      rcases Waiter.step_task moved notIsr live with ⟨done, waits, _⟩
      exact ⟨fun up => done.trans up, waits.le, fun impossible => absurd impossible isr⟩

/-- A wait completes, unless it ends before. -/
theorem Fair.completes (fair : Fair run) (waits : waitCount ≠ 0) (positive : 0 < count)
    (followed : forall time, Followed waitCount count position pending (run.history time)
      (run.state time)) :
    LeadsTo (fun time => (run.state time).future.phase ≠ .idle)
      (fun time => (run.state time).future.phase ≠ .idle ∧
        ((run.state time).core.swapDone = true ∨
          (run.state (time + 1)).future.phase = .idle)) := by
  refine leadsTo_of_rank (fun time => run.label time = .isr)
    (fun time => (run.state time).core.swapWaits) ?_ ?_ ?_
  · intro time live notYet
    exact ⟨fun idle => notYet (Or.inr idle), (System.step_waits live (run.taken time)).2.1⟩
  · intro time live notYet isr
    have running : (run.state time).core.swapDone = false :=
      Bool.eq_false_of_not_eq_true fun done => notYet (Or.inl done)
    exact (System.step_waits live (run.taken time)).2.2 isr
      ((followed time).awaits waits live running)
  · intro time _
    exact (fair.interrupted positive followed time).mono fun _ _ isr => Or.inl isr

/-- A completed wait ends. -/
theorem Fair.settles (fair : Fair run) (waits : waitCount ≠ 0)
    (followed : forall time, Followed waitCount count position pending (run.history time)
      (run.state time)) :
    LeadsTo
      (fun time => (run.state time).future.phase ≠ .idle ∧ (run.state time).core.swapDone = true)
      (fun time => ((run.state time).future.phase ≠ .idle ∧
        (run.state time).core.swapDone = true) ∧
          (run.state (time + 1)).future.phase = .idle) := by
  refine fair.attended.ends ?_ ?_ ?_
  · intro time done
    rcases (followed time).handshake waits with ⟨events, handshake⟩
    have finished : completed waitCount events = true := handshake.sound.flag.symm.trans done
    exact finished ▸ handshake.sound
  · intro time live done notTask
    refine ⟨?_, (System.step_waits live (run.taken time)).1 done⟩
    simp only [System.future, System.step_progress (run.taken time) notTask]
  · intro time live done task
    rcases System.step_waiting live (run.taken time) task with ⟨_, event, notIsr, moved⟩
    exact ⟨(Waiter.step_task moved notIsr live).2.2 done,
      (System.step_waits live (run.taken time)).1 done⟩

/-- A wait for no interrupt ends as well. -/
theorem Fair.returns (fair : Fair run) (immediate : forall time, (run.state time).Immediate) :
    LeadsTo (fun time => (run.state time).future.phase ≠ .idle)
      (fun time => (run.state time).future.phase ≠ .idle ∧
        (run.state (time + 1)).future.phase = .idle) := by
  refine leadsTo_of_rank (fun time => (run.label time).Task) (fun _ => 0) ?_ ?_ ?_
  · exact fun time _ going => ⟨going, Nat.le_refl 0⟩
  · intro time live going task
    rcases System.step_waiting live (run.taken time) task with ⟨_, event, notIsr, moved⟩
    exact absurd (Waiter.step_ready moved notIsr ((immediate time).resolve_left live)) going
  · intro time live
    have ready : (run.state time).future.phase = .ready := (immediate time).resolve_left live
    refine (fair.attended.polling time ?_).mono fun _ _ task => Or.inl task
    rw [ready]
    trivial

/-- Whatever it waits for, a swap that has left its patch loop ends. -/
theorem Fair.ends (fair : Fair run) (positive : 0 < count)
    (followed : forall time, Followed waitCount count position pending (run.history time)
      (run.state time)) :
    LeadsTo (fun time => (run.state time).future.phase ≠ .idle)
      (fun time => (run.state time).future.phase ≠ .idle ∧
        (run.state (time + 1)).future.phase = .idle) := by
  intro time live
  by_cases waits : waitCount = 0
  · exact fair.returns (fun moment => (followed moment).immediate waits) time live
  · rcases fair.completes waits positive followed time live with ⟨reached, after, still, done | idle⟩
    · rcases fair.settles waits followed reached ⟨still, done⟩ with ⟨later, last, ⟨waiting, _⟩, idle⟩
      exact ⟨later, after.trans last, waiting, idle⟩
    · exact ⟨reached, after, still, idle⟩

/-! ## The end of a swap -/

/-- A wait that is given up or answered leaves the task idle. -/
theorem System.step_ends (live : system.future.phase ≠ .idle)
    (taken : System.step profile waitCount system label = some after)
    (idle : after.future.phase = .idle) : after.progress = .idle := by
  by_cases task : label.Task
  · exact (System.step_waiting live taken task).1 idle
  · have same := System.step_progress taken task
    simp only [System.future, same] at idle live
    exact absurd idle live

/-- What a launched driver keeps. -/
theorem Launch.followed {backend : Backend} {layout : Layout}
    (launch : Launch profile backend layout) {trace : List Label}
    {system : System backend.Item backend.capacity}
    (run : Run (System.step profile waitCount) launch.start trace system) :
    Followed waitCount launch.count launch.position launch.pending trace system := by
  rcases launch.invariant with ⟨chain, describes, initially⟩
  have kept : waitCount ≠ 0 -> Exists fun events =>
      Handshake waitCount events system.future ∧ system.future.Awaits := by
    intro waits
    have positive : 0 < waitCount := Nat.pos_of_ne_zero waits
    rcases System.run_future waits run with ⟨events, waited⟩
    have quiet : Handshake waitCount [] launch.start.future :=
      ⟨rfl, Sound.of_awake rfl nofun nofun⟩
    exact ⟨events, waited.invariant
      (fun steps waiter => Handshake waitCount steps waiter ∧ waiter.Awaits)
      ⟨quiet, fun live => absurd rfl live⟩
      fun _ _ _ _ held moved => ⟨held.1.step positive moved, held.2.step positive moved⟩⟩
  refine ⟨(initially.run run).count_eq.trans describes.count_eq, launch.counting run,
    fun waits => (kept waits).imp fun _ => And.left, fun waits => (kept waits).elim fun _ => And.right,
    fun none => ?_⟩
  subst none
  exact run.invariant (fun _ reached => reached.Immediate) (Or.inl rfl)
    fun _ _ _ _ immediate taken => immediate.step taken

/-- Every swap of a GPDMA backend that was begun ends, in every endless run in which the
channel does not stop, pending interrupts are served, and the executor attends to the
task.  It stays in progress until its future is dropped or returns.  A return hands back the
buffer that was displayed when the swap began, and the buffer it brought is then the displayed
one. -/
theorem patched_swap_ends (profile : Profile) (waitCount : Nat)
    {backend : Backend} {layout : Layout} (launch : Launch profile backend layout)
    (run : Endless (@System.step backend.Item _ backend.capacity profile waitCount))
    (first : run.state 0 = launch.start) (fair : Fair run) {time waker : Nat}
    (entered : run.label time = .enter waker) :
    Exists fun later => time < later ∧
      (forall between, time < between -> between ≤ later ->
        (run.state between).progress.oldPtr = some (run.state time).currentFbPtr) ∧
      (run.label later = .cancel ∨
        run.label later = .finish ∧
          (run.state time).progress = .called (run.state later).currentFbPtr ∧
          (run.state (later + 1)).hand =
            (run.state time).currentFbPtr :: (run.state later).hand) := by
  have followed : forall moment, Followed waitCount launch.count launch.position launch.pending
      (run.history moment) (run.state moment) := by
    intro moment
    have reached := run.run_history moment
    rw [first] at reached
    exact launch.followed reached
  have nonempty : 0 < launch.count := Nat.lt_of_le_of_lt (Nat.zero_le _) launch.position_lt
  have enter := run.taken time
  rw [entered] at enter
  rcases System.step_enter enter with ⟨fbPtr, called, same⟩
  -- The loop is left, the wait completes, and the task comes to its end.
  have ended : Eventually (fun later => (run.state later).future.phase ≠ .idle ∧
      (run.state (later + 1)).future.phase = .idle) (time + 1) := by
    have patching : (run.state (time + 1)).progress.Patching := by
      rw [same]
      exact ⟨_, _, _, _, rfl⟩
    rcases fair.arms followed (time + 1) patching with ⟨armed, from_start, _, live⟩
    exact (fair.ends nonempty followed (armed + 1) live).from_earlier (by omega)
  have left : Eventually (fun later => (run.state (later + 1)).progress.oldPtr ≠
      some (run.state time).currentFbPtr) (time + 1) := by
    refine ended.mono fun later _ reached => ?_
    rw [System.step_ends reached.1 (run.taken later) reached.2]
    exact fun impossible => nomatch impossible
  rcases left.first with ⟨later, after, changed, absent⟩
  have begun : (run.state (time + 1)).progress.oldPtr = some (run.state time).currentFbPtr ∧
      (run.state (time + 1)).currentFbPtr = fbPtr := by
    rw [same]
    exact ⟨rfl, rfl⟩
  have lasting : forall between, time < between -> between ≤ later ->
      (run.state between).progress.oldPtr = some (run.state time).currentFbPtr ∧
        (run.state between).currentFbPtr = fbPtr := by
    intro between from_time before
    refine kept_until
      (fun moment => (run.state moment).progress.oldPtr = some (run.state time).currentFbPtr ∧
        (run.state moment).currentFbPtr = fbPtr)
      (fun moment => (run.state (moment + 1)).progress.oldPtr ≠
        some (run.state time).currentFbPtr) ?_ from_time begun
      fun moment from_start below => absent moment from_start (below.trans_le before)
    rintro moment ⟨replacing, current⟩ going
    exact ⟨Decidable.of_not_not going,
      (System.step_replacing replacing (run.taken moment)).1.trans current⟩
  have last := lasting later after (Nat.le_refl later)
  refine ⟨later, after, fun between from_time before => (lasting between from_time before).1, ?_⟩
  rcases (System.step_replacing last.1 (run.taken later)).2 with still | ⟨finished, handed⟩ | cancelled
  · exact absurd still changed
  · exact Or.inr ⟨finished, last.2.symm ▸ called, handed⟩
  · exact Or.inl cancelled

/-- The channel can always go on. -/
theorem Invariant.walks (invariant : Invariant chain system) :
    Exists fun after => System.step profile waitCount system .walk = some after := by
  have inside := invariant.position
  have room := chain.count_le
  have active : system.nextIndex system.walker.index < capacity := by
    unfold System.nextIndex
    rw [invariant.count_eq]
    split <;> omega
  simp only [System.step, System.walk, Vector.getElem?_eq_getElem active]
  exact ⟨_, rfl⟩

/-- From any idle state the channel can go round for ever, with an interrupt after each round. -/
theorem Invariant.walked_forever (invariant : Invariant chain system)
    (idle : system.progress = .idle) :
    Exists fun run : Endless (@System.step I _ capacity profile waitCount) =>
      run.state 0 = system ∧
      (forall time, Eventually (fun later => run.label later = .walk) time) ∧
      (forall time, Eventually (fun later => run.label later = .isr) time) ∧
      forall time, (run.state time).progress = .idle := by
  have round : 0 < chain.count + 1 := Nat.succ_pos chain.count
  -- In every round the terminal item is passed before the interrupt.
  have initially : system.progress = .idle ∧ Invariant chain system ∧
      (system.pending = true ∨ 0 % (chain.count + 1) ≤ system.walker.index) :=
    ⟨idle, invariant, Or.inr (by rw [Nat.zero_mod]; exact Nat.zero_le _)⟩
  have goes_on := Endless.exists_of_schedule (@System.step I _ capacity profile waitCount)
    (fun time => if time % (chain.count + 1) = chain.count then .isr else .walk)
    (fun time reached => reached.progress = .idle ∧ Invariant chain reached ∧
      (reached.pending = true ∨ time % (chain.count + 1) ≤ reached.walker.index))
    initially <| by
      rintro time reached ⟨still, kept, passed⟩
      have inside := kept.position
      by_cases last : time % (chain.count + 1) = chain.count
      · have pending : reached.pending = true := passed.resolve_right (by omega)
        rcases IsrCore.onFrame_counted profile reached.core with ⟨core, counted, _⟩
        have taken : System.step profile waitCount reached .isr =
            some { reached with core, pending := false } := by
          simp only [System.step, pending, if_true, counted]
        have closed : (time + 1) % (chain.count + 1) = 0 := by
          rw [← Nat.mod_add_mod, last, Nat.mod_self]
        simp only [if_pos last, closed]
        exact ⟨_, taken, still, kept.step taken, Or.inr (Nat.zero_le _)⟩
      · have below := Nat.mod_lt time round
        have next : (time + 1) % (chain.count + 1) = time % (chain.count + 1) + 1 := by
          rw [← Nat.mod_add_mod]
          exact Nat.mod_eq_of_lt (by omega)
        rcases @Invariant.walks I _ capacity profile waitCount chain reached kept with ⟨after, taken⟩
        rcases System.step_walk taken with ⟨_, _, same⟩
        have moved := kept.step taken
        subst same
        simp only [if_neg last, next]
        refine ⟨_, taken, still, moved, ?_⟩
        change (reached.pending || decide (reached.walker.index + 1 = reached.descriptorCount)) = true ∨
          _ ≤ reached.nextIndex reached.walker.index
        by_cases terminal : reached.walker.index + 1 = reached.descriptorCount
        · exact Or.inl (Bool.or_eq_true_iff.mpr (Or.inr (decide_eq_true terminal)))
        · rcases passed with pending | before
          · exact Or.inl (Bool.or_eq_true_iff.mpr (Or.inl pending))
          · right
            unfold System.nextIndex
            rw [if_neg terminal]
            exact Nat.succ_le_succ before
  rcases goes_on with ⟨run, first, same, held⟩
  refine ⟨run, first, fun time => ⟨time * (chain.count + 1), ?_, ?_⟩,
    fun time => ⟨chain.count + time * (chain.count + 1), ?_, ?_⟩, fun time => (held time).1⟩
  · exact Nat.le_mul_of_pos_right time round
  · have start : time * (chain.count + 1) % (chain.count + 1) ≠ chain.count := by
      rw [Nat.mul_mod_left]
      exact chain.count_pos.ne
    rw [same]
    exact if_neg start
  · exact (Nat.le_mul_of_pos_right time round).trans (Nat.le_add_left _ _)
  · have stop : (chain.count + time * (chain.count + 1)) % (chain.count + 1) = chain.count := by
      rw [Nat.add_mul_mod_self_right, Nat.mod_eq_of_lt (Nat.lt_succ_self _)]
    rw [same]
    exact if_pos stop

/-- The exchange of the earlier example has a fair endless continuation. -/
theorem exampleExchange_fair :
    Exists fun run : Endless (@System.step LinearItem _ maxDescriptors Profile.release 2) =>
      run.state 0 = exampleLaunch.start ∧ run.label 1 = .enter 7 ∧ Fair run := by
  have runs : (execute (System.step Profile.release 2) exampleLaunch.start exampleExchange).map
      System.progress = some .idle := by decide +kernel
  rcases Option.map_eq_some_iff.mp runs with ⟨system, executed, idle⟩
  rcases exampleLaunch.invariant with ⟨chain, _, initially⟩
  rcases (initially.run (run_of_execute executed)).walked_forever idle with
    ⟨rest, meets, walks, interrupts, quiet⟩
  rcases Endless.exists_of_execute executed rest meets with ⟨run, first, same, after⟩
  have task : forall time, time < 18 -> Eventually (fun later => (run.label later).Task) time := by
    intro time before
    have last : run.label 17 = .finish := same 17 .finish rfl
    have moves : (run.label 17).Task := by
      rw [last]
      exact ⟨nofun, nofun⟩
    exact ⟨17, Nat.le_of_lt_succ before, moves⟩
  have settled : forall time, 18 ≤ time -> (run.state time).progress = .idle := by
    intro time past
    have reached : run.state (time - 18 + 18) = rest.state (time - 18) := (after (time - 18)).1
    rw [Nat.sub_add_cancel past] at reached
    rw [reached]
    exact quiet _
  -- What comes again and again in the continuation does so in the whole run.
  have again : forall label, (forall time, Eventually (fun later => rest.label later = label) time) ->
      forall time, Eventually (fun later => run.label later = label) time := by
    intro label recurs time
    rcases recurs time with ⟨later, from_time, there⟩
    exact ⟨later + 18, from_time.trans (Nat.le_add_right later 18), (after later).2.trans there⟩
  refine ⟨run, first, same 1 _ rfl, again _ walks, fun time _ => again _ interrupts time, ?_, ?_, ?_⟩
  · intro time oldPtr delta next waker patching
    by_cases before : time < 18
    · exact task time before
    · rw [settled time (Nat.le_of_not_lt before)] at patching
      cases patching
  · intro time polling
    by_cases before : time < 18
    · exact task time before
    · simp only [System.future, settled time (Nat.le_of_not_lt before)] at polling
      exact absurd polling id
  · intro time waker mark asleep _
    by_cases before : time < 18
    · exact task time before
    · simp only [System.future, settled time (Nat.le_of_not_lt before), reduceCtorEq] at asleep

theorem patched_swap_ends_of_exchange :
    Exists fun run : Endless (@System.step LinearItem _ maxDescriptors Profile.release 2) =>
      run.state 0 = exampleLaunch.start ∧
      Exists fun later => 1 < later ∧ (run.label later = .cancel ∨ run.label later = .finish) := by
  rcases exampleExchange_fair with ⟨run, first, entered, fair⟩
  rcases patched_swap_ends Profile.release 2 exampleLaunch run first fair entered with
    ⟨later, after, _, ended⟩
  exact ⟨run, first, later, after, ended.imp_right And.left⟩

end Gpdma
end Driver
end Hub75
