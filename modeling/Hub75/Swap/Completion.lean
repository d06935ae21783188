import Hub75.Swap.PlainSafety
import Hub75.Swap.GpdmaTable

namespace Hub75
namespace Driver

open Machine Finset

/-!
# The completion handshake of both cores

A swap completes at one event of the interrupt.  For the plain backend this is
the first frame boundary after the swap was queued; for the GPDMA backends it is
the call of `on_frame` that makes up the wait count.  Both events are read off
the history of a run, without looking at the state, and the states reached are
then compared with them: the flag is up exactly when the swap armed last has
completed, and the sleeping task has been woken exactly when its swap has.

`Sound` is the contract of the handshake library.  A stale waker, a replaced
waker and an abandoned swap need no cases of their own.
-/

/-! ## The plain backend -/

namespace Dma

/-- A swap has been queued in this history. -/
def armed : List Label -> Bool
  | [] => false
  | .enter _ :: _ => true
  | _ :: trace => armed trace

/-- The number of interrupts in this history. -/
def interrupts : List Label -> Nat
  | [] => 0
  | .isr :: trace => interrupts trace + 1
  | _ :: trace => interrupts trace

/-- The swap queued last has completed: a frame boundary, which is every
`frame`th interrupt, has occurred since. -/
def completed (frame : Nat) : List Label -> Bool
  | [] => false
  | .enter _ :: _ => false
  | .isr :: trace =>
      completed frame trace || (armed trace && decide ((interrupts trace + 1) % frame = 0))
  | _ :: trace => completed frame trace

/-- The number of transfers in a frame. -/
def frameLength (layout : Layout) : Nat := ∑ i ∈ range layout.count, layout.passes i

variable {profile : Profile} {api : ChannelApi} {layout : Layout} {system after : System}
  {state : IsrCoreState} {trace : List Label}

structure Handshake (layout : Layout) (trace : List Label) (system : System)
    (state : IsrCoreState) : Prop where
  invariant : Invariant layout system state
  position : state.bcm.cursor.position layout.passes = interrupts trace % frameLength layout
  pending : state.pendingDelta.isSome = (armed trace && !completed (frameLength layout) trace)
  sound : Sound (completed (frameLength layout) trace) system.core.cell system.phase

/-- The interrupt completes a swap exactly when it applies the pending delta. -/
theorem Handshake.step_isr (handshake : Handshake layout trace system state)
    (taken : System.step profile api system .isr = some after) :
    Exists fun next => Handshake layout (.isr :: trace) after next := by
  have cursor := handshake.invariant.streaming.cursor
  have moved : (state.bcm.cursor.advance layout.passes layout.count).1.position layout.passes =
      (interrupts trace + 1) % frameLength layout := by
    rw [cursor.advance_position layout.passes_pos, handshake.position]
    exact Nat.mod_add_mod _ _ _
  have boundary_iff := cursor.advance_wraps_iff_position layout.passes_pos
  rw [moved] at boundary_iff
  have phase : after.phase = system.phase := by
    rcases System.step_isr taken with ⟨_, _, same⟩
    rw [same]
  rcases handshake.invariant.step_isr taken with ⟨next, invariant, interrupted⟩
  have position : next.bcm.cursor.position layout.passes =
      interrupts (.isr :: trace) % frameLength layout := interrupted.cursor ▸ moved
  have pending := handshake.pending
  have sound := handshake.sound
  rcases interrupted.branches with ⟨missed, pointers, cell⟩ | ⟨boundary, applied, pointers, cell⟩
  · -- Nothing was pending, or the frame goes on.
    have unchanged : completed (frameLength layout) (.isr :: trace) =
        completed (frameLength layout) trace := by
      simp only [completed]
      cases done : completed (frameLength layout) trace with
      | true => rfl
      | false =>
          rw [done, Bool.not_false, Bool.and_true] at pending
          rw [Bool.false_or, ← pending]
          by_contra both
          rw [Bool.not_eq_false, Bool.and_eq_true] at both
          exact missed ⟨boundary_iff.mpr (of_decide_eq_true both.2), both.1⟩
    have delta : next.pendingDelta = state.pendingDelta := congrArg Pointers.delta pointers
    refine ⟨next, invariant, position, ?_, ?_⟩
    · rw [unchanged, delta]
      exact pending
    · rw [unchanged, phase, cell]
      exact sound
  · -- The frame boundary that consumes the pending delta.
    rw [applied] at pending
    have waiting := Bool.and_eq_true_iff.mp pending.symm
    have running : completed (frameLength layout) trace = false :=
      (Bool.not_eq_true' _).mp waiting.2
    have finished : completed (frameLength layout) (.isr :: trace) = true := by
      simp only [completed, waiting.1, running, Bool.false_or, Bool.true_and]
      exact decide_eq_true (boundary_iff.mp boundary)
    have delta : next.pendingDelta = none := congrArg Pointers.delta pointers
    refine ⟨next, invariant, position, ?_, ?_⟩
    · rw [finished, delta, Bool.not_true, Bool.and_false]
      rfl
    · rw [running] at sound
      rw [finished, phase, cell]
      exact sound.signal sound.not_ready

theorem Handshake.step_enter {waker : Nat} (handshake : Handshake layout trace system state)
    (taken : System.step profile api system (.enter waker) = some after) :
    Exists fun next => Handshake layout (.enter waker :: trace) after next := by
  rcases handshake.invariant.step_enter taken with
    ⟨_, _, next, invariant, pointers, bcm, phase, _, cell⟩
  refine ⟨next, invariant, ?_, ?_, ?_⟩
  · rw [bcm]
    exact handshake.position
  · exact congrArg (fun reached => Option.isSome (Pointers.delta reached)) pointers
  · rw [phase, cell]
    exact Sound.arm waker

/-- The other steps of the task leave the history of the interrupt alone. -/
theorem Handshake.step_task {label : Label} (handshake : Handshake layout trace system state)
    (taken : System.step profile api system label = some after) (notIsr : label ≠ .isr)
    (notEnter : forall waker, label ≠ .enter waker) :
    Handshake layout (label :: trace) after state := by
  have invariant := (handshake.invariant.step_task taken notIsr notEnter).1
  have interrupts_eq : interrupts (label :: trace) = interrupts trace := by
    cases label with
    | isr => exact absurd rfl notIsr
    | _ => rfl
  have armed_eq : armed (label :: trace) = armed trace := by
    cases label with
    | enter waker => exact absurd rfl (notEnter waker)
    | _ => rfl
  have completed_eq : completed (frameLength layout) (label :: trace) =
      completed (frameLength layout) trace := by
    cases label with
    | isr => exact absurd rfl notIsr
    | enter waker => exact absurd rfl (notEnter waker)
    | _ => rfl
  refine ⟨invariant, interrupts_eq ▸ handshake.position, ?_, ?_⟩
  · rw [armed_eq, completed_eq]
    exact handshake.pending
  · rw [completed_eq]
    have sound := handshake.sound
    cases label with
    | isr => exact absurd rfl notIsr
    | enter waker => exact absurd rfl (notEnter waker)
    | swap fbPtr =>
        rcases System.step_swap taken with ⟨_, same⟩
        rw [same]
        exact sound
    | load =>
        rcases System.step_load taken with ⟨waker, started, same⟩
        rw [started] at sound
        rw [same]
        exact sound.load
    | lock =>
        rcases System.step_lock taken with ⟨waker, missed, same⟩
        rw [missed] at sound
        rw [same]
        change Sound _ (system.core.swapInnerLock waker).cell _
        rw [IsrCore.cell_swapInnerLock]
        exact sound.lock
    | poll waker =>
        rcases System.step_poll taken with ⟨_, same⟩
        rw [same]
        exact sound.repoll waker
    | finish =>
        rcases System.step_finish taken with ⟨_, _, _, same⟩
        rw [same]
        exact sound.leave
    | cancel =>
        rcases System.step_cancel taken with ⟨_, same⟩ | ⟨_, _, same⟩
        · rw [same]
          exact sound
        · rw [same]
          exact sound.leave

theorem Handshake.step {label : Label} (handshake : Handshake layout trace system state)
    (taken : System.step profile api system label = some after) :
    Exists fun next => Handshake layout (label :: trace) after next := by
  by_cases isr : label = .isr
  · subst isr
    exact handshake.step_isr taken
  · by_cases enter : Exists fun waker => label = .enter waker
    · rcases enter with ⟨waker, same⟩
      subst same
      exact handshake.step_enter taken
    · exact ⟨state, handshake.step_task taken isr fun waker same => enter ⟨waker, same⟩⟩

theorem Handshake.initial {core0 core : IsrCore} {state0 : IsrCoreState} {base : Addr}
    {hand : List Addr} (present : core0.state = some state0) (quiet : state0.channel.active = [])
    (started : core0.startFirstTransfer profile api (layout.instanceAt base) base = .ok core)
    (distinct : (base :: hand).Nodup) :
    Exists fun state => Handshake layout [] (System.started core hand) state := by
  rcases Invariant.initial present quiet started distinct with
    ⟨state, invariant, atOrigin, pointers, down⟩
  refine ⟨state, invariant, ?_, ?_, ?_⟩
  · rw [atOrigin]
    exact (Nat.zero_mod _).symm
  · exact congrArg (fun reached => Option.isSome (Pointers.delta reached)) pointers
  · exact Sound.of_awake down nofun nofun

end Dma

/-! ## The GPDMA backends -/

namespace Gpdma

/-- The calls of `on_frame` since the wait armed last. -/
def framesSinceArm : List WaitLabel -> Option Nat
  | [] => none
  | .arm _ :: _ => some 0
  | .isr :: trace => (framesSinceArm trace).map (· + 1)
  | _ :: trace => framesSinceArm trace

/-- The wait armed last has seen its interrupts. -/
def completed (waitCount : Nat) (trace : List WaitLabel) : Bool :=
  match framesSinceArm trace with
  | none => false
  | some frames => decide (waitCount ≤ frames)

/-- The counter is what the history leaves of the wait count. -/
def remaining (waitCount : Nat) (trace : List WaitLabel) : Nat :=
  match framesSinceArm trace with
  | none => 0
  | some frames => waitCount - frames

variable {profile : Profile} {waitCount : Nat} {waiter after : Waiter} {trace : List WaitLabel}

theorem framesSinceArm_isr (trace : List WaitLabel) :
    framesSinceArm (.isr :: trace) = (framesSinceArm trace).map (· + 1) := rfl

theorem remaining_isr (waitCount : Nat) (trace : List WaitLabel) :
    remaining waitCount (.isr :: trace) = remaining waitCount trace - 1 := by
  unfold remaining
  rw [framesSinceArm_isr]
  cases framesSinceArm trace with
  | none => rfl
  | some frames => exact Nat.sub_add_eq waitCount frames 1

/-- The interrupt that finds one wait left completes the swap. -/
theorem completed_isr_of_one (one : remaining waitCount trace = 1) :
    completed waitCount trace = false ∧ completed waitCount (.isr :: trace) = true := by
  unfold remaining at one
  unfold completed
  rw [framesSinceArm_isr]
  cases frames_eq : framesSinceArm trace with
  | none =>
      rw [frames_eq] at one
      cases one
  | some frames =>
      rw [frames_eq] at one
      have left : waitCount - frames = 1 := one
      have reached : waitCount ≤ frames + 1 := by omega
      exact ⟨decide_eq_false (by omega), decide_eq_true reached⟩

/-- No other interrupt does. -/
theorem completed_isr_of_ne (more : remaining waitCount trace ≠ 1) :
    completed waitCount (.isr :: trace) = completed waitCount trace := by
  unfold remaining at more
  unfold completed
  rw [framesSinceArm_isr]
  cases frames_eq : framesSinceArm trace with
  | none => rfl
  | some frames =>
      rw [frames_eq] at more
      have left : waitCount - frames ≠ 1 := more
      have same : waitCount ≤ frames + 1 ↔ waitCount ≤ frames := by omega
      exact decide_eq_decide.mpr same

structure Handshake (waitCount : Nat) (trace : List WaitLabel) (waiter : Waiter) : Prop where
  waits : waiter.core.swapWaits = remaining waitCount trace
  sound : Sound (completed waitCount trace) waiter.core.cell waiter.phase

theorem Handshake.step_isr (handshake : Handshake waitCount trace waiter)
    (taken : waiter.step profile waitCount .isr = some after) :
    Handshake waitCount (.isr :: trace) after := by
  simp only [Waiter.step] at taken
  split at taken
  · next core counted =>
      cases Option.some.inj taken
      have waits := handshake.waits
      have sound := handshake.sound
      rcases IsrCore.onFrame_cases counted with
        ⟨unarmed, left, cell⟩ | ⟨last, left, cell⟩ | ⟨more, left, cell⟩
      · constructor
        · rw [remaining_isr]
          change core.swapWaits = _
          omega
        · rw [completed_isr_of_ne (by omega)]
          change Sound _ core.cell _
          exact cell.symm ▸ sound
      · have completes := completed_isr_of_one (waits.symm.trans last)
        rw [completes.1] at sound
        constructor
        · rw [remaining_isr]
          change core.swapWaits = _
          omega
        · rw [completes.2]
          change Sound _ core.cell _
          rw [cell]
          exact sound.signal sound.not_ready
      · constructor
        · rw [remaining_isr]
          change core.swapWaits = _
          omega
        · rw [completed_isr_of_ne (by omega)]
          change Sound _ core.cell _
          exact cell.symm ▸ sound
  · cases taken

theorem Handshake.step (positive : 0 < waitCount) {label : WaitLabel}
    (handshake : Handshake waitCount trace waiter)
    (taken : waiter.step profile waitCount label = some after) :
    Handshake waitCount (label :: trace) after := by
  have waits := handshake.waits
  have sound := handshake.sound
  cases label with
  | isr => exact handshake.step_isr taken
  | arm waker =>
      simp only [Waiter.step] at taken
      split at taken
      · cases Option.some.inj taken
        constructor
        · rfl
        · have running : completed waitCount (.arm waker :: trace) = false :=
            decide_eq_false (Nat.not_le.mpr positive)
          rw [running]
          change Sound false waiter.core.cell.arm (.started waker)
          exact Sound.arm waker
      · cases taken
  | load =>
      simp only [Waiter.step] at taken
      split at taken
      · next waker started =>
          cases Option.some.inj taken
          rw [started] at sound
          exact ⟨waits, sound.load⟩
      · cases taken
  | lock =>
      simp only [Waiter.step] at taken
      split at taken
      · next waker missed =>
          cases Option.some.inj taken
          rw [missed] at sound
          refine ⟨(waiter.core.swapWaits_waitSwapLock waker).trans waits, ?_⟩
          change Sound _ (waiter.core.waitSwapLock waker).cell _
          rw [IsrCore.cell_waitSwapLock]
          exact sound.lock
      · cases taken
  | poll waker =>
      simp only [Waiter.step] at taken
      split at taken
      · cases Option.some.inj taken
        exact ⟨waits, sound.repoll waker⟩
      · cases taken
  | finish =>
      simp only [Waiter.step] at taken
      split at taken
      · cases Option.some.inj taken
        exact ⟨waits, sound.leave⟩
      · cases taken
  | cancel =>
      simp only [Waiter.step] at taken
      split at taken
      · cases Option.some.inj taken
        exact ⟨waits, sound.leave⟩
      · cases taken

/-- The future of `wait_swap` inside the whole driver. -/
def System.future {I : Type} {capacity : Nat} (system : System I capacity) : Waiter where
  core := system.core
  phase :=
    match system.progress with
    | .waiting _ phase => phase
    | _ => .idle

/-- Every step of the whole driver is a step of that future, or does not concern
it. -/
theorem System.step_future {I : Type} [Descriptor I] {capacity : Nat}
    {system next : System I capacity} {label : Label} (waits : waitCount ≠ 0)
    (taken : System.step profile waitCount system label = some next) :
    next.future = system.future ∨
      Exists fun event => system.future.step profile waitCount event = some next.future := by
  cases label with
  | walk =>
      rcases System.step_walk taken with ⟨_, _, same⟩
      exact Or.inl (same ▸ rfl)
  | isr =>
      rcases System.step_isr taken with ⟨_, core, counted, same⟩
      refine Or.inr ⟨.isr, ?_⟩
      simp only [same, Waiter.step, System.future, counted]
  | swap fbPtr =>
      rcases System.step_swap taken with ⟨⟨idle, _⟩, same⟩
      apply Or.inl
      simp only [same, System.future, idle]
  | enter waker =>
      rcases System.step_enter taken with ⟨_, called, same⟩
      apply Or.inl
      simp only [same, System.future, called]
  | store =>
      rcases System.step_store taken with ⟨_, _, _, _, patching, _, same⟩
      apply Or.inl
      simp only [same, System.future, patching]
  | arm =>
      rcases System.step_arm taken with ⟨_, _, _, waker, patching, _, ⟨_, same⟩ | ⟨none, _⟩⟩
      · refine Or.inr ⟨.arm waker, ?_⟩
        simp only [same, Waiter.step, System.future, patching]
      · exact absurd none waits
  | load =>
      rcases System.step_load taken with ⟨_, _, started, same⟩
      refine Or.inr ⟨.load, ?_⟩
      simp only [same, Waiter.step, System.future, started]
  | lock =>
      rcases System.step_lock taken with ⟨_, _, missed, same⟩
      refine Or.inr ⟨.lock, ?_⟩
      simp only [same, Waiter.step, System.future, missed]
  | poll waker =>
      rcases System.step_poll taken with ⟨_, ⟨_, _, asleep⟩, same⟩
      refine Or.inr ⟨.poll waker, ?_⟩
      simp only [same, Waiter.step, System.future, asleep]
  | finish =>
      rcases System.step_finish taken with ⟨_, ready, same⟩
      refine Or.inr ⟨.finish, ?_⟩
      simp only [same, Waiter.step, System.future, ready]
  | cancel =>
      rcases System.step_cancel taken with ⟨⟨_, called⟩ | ⟨_, _, _, asleep⟩, same⟩
      · apply Or.inl
        simp only [same, System.future, called]
      · refine Or.inr ⟨.cancel, ?_⟩
        simp only [same, Waiter.step, System.future, asleep]

/-- A run of the whole driver contains a run of its future. -/
theorem System.run_future {I : Type} [Descriptor I] {capacity : Nat}
    {start system : System I capacity} {labels : List Label} (waits : waitCount ≠ 0)
    (run : Run (System.step profile waitCount) start labels system) :
    Exists fun events =>
      Run (Waiter.step profile waitCount) start.future events system.future := by
  induction run with
  | refl => exact ⟨[], .refl⟩
  | snoc _ taken inductionHypothesis =>
      rcases inductionHypothesis with ⟨events, reached⟩
      rcases System.step_future waits taken with same | ⟨event, moved⟩
      · exact ⟨events, same ▸ reached⟩
      · exact ⟨event :: events, reached.snoc moved⟩

end Gpdma

/-! ## Both cores -/

/-- The completion handshake neither loses nor invents a wake-up, in either core
and over every interleaving of arming, polls, interrupts, cancellation and later
swaps.  The flag is up exactly when the swap armed last has completed; a poll is
ready only then; and a task that sleeps on a completed swap has been woken since
its poll, with the waker of that poll.  In the plain core a delta is pending
exactly from the arming to the completing frame boundary.  In the GPDMA core the
interrupt never fails, and the counter is the wait count less the interrupts
since the arming. -/
theorem handshake_sound (profile : Profile) (api : Dma.ChannelApi) :
    (forall (layout : Layout) (core0 core : Dma.IsrCore) (state0 : Dma.IsrCoreState) (base : Addr)
        (hand : List Addr) (trace : List Dma.Label) (system : Dma.System),
      core0.state = some state0 -> state0.channel.active = [] ->
      core0.startFirstTransfer profile api (layout.instanceAt base) base = .ok core ->
      (base :: hand).Nodup ->
      Run (Dma.System.step profile api) (Dma.System.started core hand) trace system ->
        Sound (Dma.completed (Dma.frameLength layout) trace) system.core.cell system.phase ∧
        Exists fun state => system.core.state = some state ∧ state.pendingDelta.isSome =
          (Dma.armed trace && !Dma.completed (Dma.frameLength layout) trace)) ∧
    (forall (waitCount : Nat) (trace : List Gpdma.WaitLabel) (waiter : Gpdma.Waiter),
      0 < waitCount ->
      Run (Gpdma.Waiter.step profile waitCount) ⟨Gpdma.IsrCore.new, .idle⟩ trace waiter ->
        Sound (Gpdma.completed waitCount trace) waiter.core.cell waiter.phase ∧
        (Exists fun after => waiter.core.onFrame profile = .ok after) ∧
        forall frames, Gpdma.framesSinceArm trace = some frames -> frames ≤ waitCount ->
          waiter.core.swapWaits + frames = waitCount) := by
  constructor
  · intro layout core0 core state0 base hand trace system present quiet started distinct run
    rcases Dma.Handshake.initial present quiet started distinct with ⟨first, initially⟩
    have reached := run.invariant
      (fun steps state => Exists fun inner => Dma.Handshake layout steps state inner)
      ⟨first, initially⟩ fun _ _ _ _ held taken => by
        rcases held with ⟨inner, handshake⟩
        exact handshake.step taken
    rcases reached with ⟨state, handshake⟩
    exact ⟨handshake.sound, state, handshake.invariant.present, handshake.pending⟩
  · intro waitCount trace waiter positive run
    have initially : Gpdma.Handshake waitCount [] ⟨Gpdma.IsrCore.new, .idle⟩ :=
      ⟨rfl, Sound.of_awake rfl nofun nofun⟩
    have reached := run.invariant (fun steps state => Gpdma.Handshake waitCount steps state)
      initially fun _ _ _ _ handshake taken => handshake.step positive taken
    refine ⟨reached.sound, ?_, fun frames since within => ?_⟩
    · rcases Gpdma.IsrCore.onFrame_counted profile waiter.core with ⟨after, counted, _⟩
      exact ⟨after, counted⟩
    · have waits := reached.waits
      simp only [Gpdma.remaining, since] at waits
      omega

/-- In the plain core the third interrupt after the arming is the frame boundary
and wakes the task; in the GPDMA core the second interrupt does, with the waker
of the second poll. -/
theorem handshake_sound_of_wakeups :
    (Exists fun system => execute (Dma.System.step Profile.release Dma.assertingApi)
        (Dma.System.started Dma.startedCore [0x20002000])
        [.swap 0x20002000, .enter 7, .load, .lock, .isr, .isr, .isr] = some system ∧
      system.core.wakes = [7] ∧
      Sound (Dma.completed (Dma.frameLength Layout.twoSegments)
        [.isr, .isr, .isr, .lock, .load, .enter 7, .swap 0x20002000]) system.core.cell
        system.phase) ∧
    (Exists fun waiter => execute (Gpdma.Waiter.step Profile.release 2)
        ⟨Gpdma.IsrCore.new, .idle⟩
        [.arm 7, .load, .lock, .isr, .poll 8, .load, .lock, .isr] = some waiter ∧
      waiter.core.wakes = [8] ∧
      Sound (Gpdma.completed 2 [.isr, .lock, .load, .poll 8, .isr, .lock, .load, .arm 7])
        waiter.core.cell waiter.phase) := by
  constructor
  · have runs : (execute (Dma.System.step Profile.release Dma.assertingApi)
        (Dma.System.started Dma.startedCore [0x20002000])
        [.swap 0x20002000, .enter 7, .load, .lock, .isr, .isr, .isr]).map
          (fun system => system.core.wakes) = some [7] := by decide +kernel
    rcases Option.map_eq_some_iff.mp runs with ⟨system, executed, wakes⟩
    exact ⟨system, executed, wakes, ((handshake_sound Profile.release Dma.assertingApi).1
      Layout.twoSegments Dma.initialisedCore Dma.startedCore _ 0x20000000 [0x20002000] _ system
      rfl rfl rfl (by decide) (run_of_execute executed)).1⟩
  · have runs : (execute (Gpdma.Waiter.step Profile.release 2) ⟨Gpdma.IsrCore.new, .idle⟩
        [.arm 7, .load, .lock, .isr, .poll 8, .load, .lock, .isr]).map
          (fun waiter => waiter.core.wakes) = some [8] := by decide
    rcases Option.map_eq_some_iff.mp runs with ⟨waiter, executed, wakes⟩
    exact ⟨waiter, executed, wakes, ((handshake_sound Profile.release Dma.assertingApi).2 2 _
      waiter (by decide) (run_of_execute executed)).1⟩

end Driver
end Hub75
