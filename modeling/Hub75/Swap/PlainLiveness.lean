import Hub75.Swap.FrameCount
import Hub75.Machine.Fairness

namespace Hub75
namespace Driver
namespace Dma

open Machine

/-!
# Every plain swap ends

The safety results hold in runs in which a swap is never answered.  Here the transfers
go on completing, and the executor polls the task as it has to.  Then every swap that
was begun ends: its future returns the displaced buffer, or the caller drops it.

Until the frame is over nothing bounds the number of polls, since a task may be polled
without having been woken.  What counts down is the rest of the frame, by the interrupts
alone.  After that the flag is up, and it is the task that has to move.
-/

variable {profile : Profile} {api : ChannelApi} {layout : Layout} {system after : System}
  {state : IsrCoreState} {trace : List Label} {label : Label}

/-- The interrupts never stop, and the executor attends to the task. -/
structure Fair (run : Endless (System.step profile api)) : Prop where
  interrupts : forall time, Eventually (fun later => run.label later = .isr) time
  attended : Attended (fun time => (run.state time).core.cell) (fun time => (run.state time).phase)
    (fun time => run.label time ≠ .isr)

/-! ## One step of a swap in progress -/

/-- No swap begins while another is in progress. -/
theorem Invariant.notEnter (invariant : Invariant layout system state)
    (taken : System.step profile api system label = some after) (live : system.phase ≠ .idle)
    (waker : Nat) : label ≠ .enter waker := by
  intro same
  subst same
  rcases System.step_enter taken with ⟨fbPtr, held, _⟩
  exact live (invariant.calling (held ▸ rfl))

/-- The interrupt does not touch the task. -/
theorem System.step_isr_phase (taken : System.step profile api system .isr = some after) :
    after.phase = system.phase := by
  rcases System.step_isr taken with ⟨_, _, same⟩
  exact same ▸ rfl

/-- A swap in progress ends with its return, or when its future is dropped. -/
theorem Invariant.ends (invariant : Invariant layout system state)
    (taken : System.step profile api system label = some after) (live : system.phase ≠ .idle)
    (idle : after.phase = .idle) : label = .finish ∨ label = .cancel := by
  cases label with
  | isr => exact absurd (System.step_isr_phase taken ▸ idle) live
  | swap fbPtr =>
      rcases System.step_swap taken with ⟨⟨_, was_idle, _⟩, _⟩
      exact absurd was_idle live
  | enter waker => exact absurd rfl (invariant.notEnter taken live waker)
  | load =>
      rcases System.step_load taken with ⟨_, _, same⟩
      subst same
      exact absurd idle Cell.loadPhase_ne_idle
  | lock =>
      rcases System.step_lock taken with ⟨_, _, same⟩
      subst same
      exact absurd idle Cell.lockPhase_ne_idle
  | poll waker =>
      rcases System.step_poll taken with ⟨_, same⟩
      subst same
      cases idle
  | finish => exact Or.inl rfl
  | cancel => exact Or.inr rfl

/-- Under the raised flag every step of the task brings it closer to the end. -/
theorem Invariant.settles (invariant : Invariant layout system state)
    (taken : System.step profile api system label = some after) (live : system.phase ≠ .idle)
    (done : system.core.swapDone = true) (task : label ≠ .isr) :
    system.phase.Settles after.phase ∧ after.core.swapDone = true := by
  have kept := (invariant.step_task taken task (invariant.notEnter taken live)).2.trans done
  refine ⟨?_, kept⟩
  cases label with
  | isr => exact absurd rfl task
  | swap fbPtr =>
      rcases System.step_swap taken with ⟨⟨_, idle, _⟩, _⟩
      exact absurd idle live
  | enter waker => exact absurd rfl (invariant.notEnter taken live waker)
  | load =>
      rcases System.step_load taken with ⟨waker, started, same⟩
      subst same
      have told : system.core.cell.loadPhase waker = .ready := if_pos done
      rw [started, told]
      exact .load waker
  | lock =>
      rcases System.step_lock taken with ⟨waker, missed, same⟩
      subst same
      have told : system.core.cell.lockPhase waker = .ready := if_pos done
      rw [missed, told]
      exact .lock waker
  | poll waker =>
      rcases System.step_poll taken with ⟨⟨other, mark, asleep⟩, same⟩
      subst same
      rw [asleep]
      exact .poll other waker mark
  | finish =>
      rcases System.step_finish taken with ⟨ready, _, _, same⟩
      subst same
      rw [ready]
      exact .finish
  | cancel =>
      rcases System.step_cancel taken with ⟨held, _⟩ | ⟨_, ⟨waker, mark, asleep⟩, same⟩
      · exact absurd (invariant.calling held) live
      · subst same
        rw [asleep]
        exact .cancel waker mark

/-! ## The rest of the frame -/

/-- The interrupts that the swap queued last still waits for. -/
def awaited (frame : Nat) (trace : List Label) : Nat :=
  if completed frame trace = true then 0 else frameRest frame trace

/-- Every interrupt shortens the wait. -/
theorem awaited_isr {frame : Nat} (positive : 0 < frame) (queued : armed trace = true)
    (running : completed frame trace = false) :
    awaited frame (.isr :: trace) < awaited frame trace := by
  have below := Nat.mod_lt (interrupts trace) positive
  have before : awaited frame trace = frame - interrupts trace % frame := by
    unfold awaited frameRest
    rw [running, if_neg Bool.false_ne_true]
  rw [before]
  by_cases boundary : (interrupts trace + 1) % frame = 0
  · have finished : completed frame (.isr :: trace) = true := by
      simp only [completed, queued, boundary, decide_true, Bool.and_self, Bool.or_true]
    unfold awaited
    rw [if_pos finished]
    omega
  · have going : completed frame (.isr :: trace) = false := by
      simp only [completed, running, boundary, decide_false, Bool.and_false, Bool.or_self]
    have next : (interrupts trace + 1) % frame = interrupts trace % frame + 1 := by
      rw [← Nat.mod_add_mod]
      apply Nat.mod_eq_of_lt
      by_contra last
      have whole : interrupts trace % frame + 1 = frame := by omega
      rw [← Nat.mod_add_mod, whole, Nat.mod_self] at boundary
      exact boundary rfl
    unfold awaited
    rw [going, if_neg Bool.false_ne_true]
    change frame - (interrupts trace + 1) % frame < _
    omega

/-- No other step of a swap in progress changes it. -/
theorem awaited_task {frame : Nat} (notIsr : label ≠ .isr)
    (notEnter : forall waker, label ≠ .enter waker) :
    awaited frame (label :: trace) = awaited frame trace := by
  cases label with
  | isr => exact absurd rfl notIsr
  | enter waker => exact absurd rfl (notEnter waker)
  | _ => rfl

theorem armed_cons (queued : armed trace = true) : armed (label :: trace) = true := by
  cases label with
  | enter waker => rfl
  | _ => exact queued

/-! ## The end of a swap -/

variable {run : Endless (System.step profile api)}

/-- The driver has been followed all along the run. -/
def Followed (layout : Layout) (run : Endless (System.step profile api)) : Prop :=
  forall time, Exists fun state => Handshake layout (run.history time) (run.state time) state

/-- A swap in progress completes, unless it ends before. -/
theorem Fair.completes (fair : Fair run) (followed : Followed layout run) :
    LeadsTo
      (fun time => (run.state time).phase ≠ .idle ∧ armed (run.history time) = true)
      (fun time => ((run.state time).phase ≠ .idle ∧ armed (run.history time) = true) ∧
        ((run.state time).core.swapDone = true ∨ (run.state (time + 1)).phase = .idle)) := by
  have running : forall time,
      ¬ ((run.state time).core.swapDone = true ∨ (run.state (time + 1)).phase = .idle) ->
      completed (frameLength layout) (run.history time) = false := by
    intro time notYet
    rcases followed time with ⟨state, handshake⟩
    rw [← handshake.sound.flag]
    exact Bool.eq_false_of_not_eq_true fun done => notYet (Or.inl done)
  refine leadsTo_of_rank (fun time => run.label time = .isr)
    (fun time => awaited (frameLength layout) (run.history time)) ?_ ?_ ?_
  · rintro time ⟨live, queued⟩ notYet
    rcases followed time with ⟨state, handshake⟩
    rw [run.history_succ]
    refine ⟨⟨fun idle => notYet (Or.inr idle), armed_cons queued⟩, ?_⟩
    have nonempty := handshake.invariant.streaming.nonempty
    by_cases isr : run.label time = .isr
    · rw [isr]
      exact (awaited_isr (frameLength_pos nonempty) queued (running time notYet)).le
    · exact (awaited_task isr (handshake.invariant.notEnter (run.taken time) live)).le
  · rintro time ⟨live, queued⟩ notYet isr
    rcases followed time with ⟨state, handshake⟩
    rw [run.history_succ, isr]
    exact awaited_isr (frameLength_pos handshake.invariant.streaming.nonempty) queued
      (running time notYet)
  · intro time _
    exact (fair.interrupts time).mono fun _ _ isr => Or.inl isr

/-- A completed swap ends. -/
theorem Fair.settles (fair : Fair run) (followed : Followed layout run) :
    LeadsTo
      (fun time => (run.state time).phase ≠ .idle ∧ (run.state time).core.swapDone = true)
      (fun time => ((run.state time).phase ≠ .idle ∧ (run.state time).core.swapDone = true) ∧
        (run.state (time + 1)).phase = .idle) := by
  refine fair.attended.ends ?_ ?_ ?_
  · intro time done
    rcases followed time with ⟨state, handshake⟩
    have finished : completed (frameLength layout) (run.history time) = true :=
      handshake.sound.flag.symm.trans done
    exact finished ▸ handshake.sound
  · intro time live done notTask
    have isr : run.label time = .isr := Decidable.of_not_not notTask
    have taken := run.taken time
    rcases followed time with ⟨state, handshake⟩
    rcases followed (time + 1) with ⟨next, later⟩
    rw [isr] at taken
    refine ⟨System.step_isr_phase taken, later.sound.flag.trans ?_⟩
    rw [run.history_succ, isr]
    change (completed _ _ || _) = true
    rw [← handshake.sound.flag]
    exact Bool.or_eq_true_iff.mpr (Or.inl done)
  · intro time live done task
    rcases followed time with ⟨state, handshake⟩
    exact handshake.invariant.settles (run.taken time) live done task

/-- Every plain swap that was begun ends, in every endless run in which the interrupts
do not stop and the executor attends to the task.  It stays in progress until its future
is dropped or returns.  A return hands back the buffer that was displayed when the swap
was queued, and the buffer it brought is then the displayed one. -/
theorem swap_ends (profile : Profile) (api : ChannelApi) (layout : Layout) {core0 core : IsrCore}
    {state0 : IsrCoreState} {base : Addr} {hand : List Addr} (present : core0.state = some state0)
    (quiet : state0.channel.active = [])
    (started : core0.startFirstTransfer profile api (layout.instanceAt base) base = .ok core)
    (distinct : (base :: hand).Nodup) (run : Endless (System.step profile api))
    (first : run.state 0 = System.started core hand) (fair : Fair run) {time waker : Nat}
    (entered : run.label time = .enter waker) :
    Exists fun later => time < later ∧
      (forall between, time < between -> between ≤ later ->
        (run.state between).phase ≠ .idle) ∧
      (run.label later = .cancel ∨
        run.label later = .finish ∧ Exists fun found => Exists fun shown =>
          (run.state time).core.state = some found ∧ (run.state later).core.state = some shown ∧
          (run.state time).held = some shown.currentFbPtr ∧
          (run.state (later + 1)).hand = found.currentFbPtr :: (run.state later).hand) := by
  rcases Handshake.initial present quiet started distinct with ⟨_, initially⟩
  have followed : Followed layout run := by
    intro time
    refine (run.run_history time).invariant
      (fun steps reached => Exists fun state => Handshake layout steps reached state)
      ⟨_, first ▸ initially⟩ ?_
    rintro _ _ _ _ ⟨_, handshake⟩ taken
    exact handshake.step taken
  have enter := run.taken time
  rw [entered] at enter
  have begun : (run.state (time + 1)).phase ≠ .idle := by
    rcases System.step_enter enter with ⟨_, _, _, _, same⟩
    rw [same]
    exact fun impossible => nomatch impossible
  have queued : armed (run.history (time + 1)) = true := by
    rw [run.history_succ, entered]
    rfl
  have ended : Eventually (fun later => (run.state (later + 1)).phase = .idle) (time + 1) := by
    rcases fair.completes followed (time + 1) ⟨begun, queued⟩ with
      ⟨reached, after, ⟨live, _⟩, done | idle⟩
    · exact ((fair.settles followed reached ⟨live, done⟩).mono fun _ _ => And.right).from_earlier after
    · exact ⟨reached, after, idle⟩
  rcases ended.first with ⟨later, after, idle, absent⟩
  have live : forall between, time < between -> between ≤ later ->
      (run.state between).phase ≠ .idle := by
    intro between from_time before
    exact kept_until (fun moment => (run.state moment).phase ≠ .idle)
      (fun moment => (run.state (moment + 1)).phase = .idle) (fun _ _ going => going)
      from_time begun fun moment from_start below => absent moment from_start (below.trans_le before)
  refine ⟨later, after, live, ?_⟩
  rcases followed later with ⟨last, handshake⟩
  rcases handshake.invariant.ends (run.taken later) (live later after (Nat.le_refl later)) idle with
    finished | cancelled
  · rcases followed time with ⟨found, atEntry⟩
    have sameSwap : forall other,
        Label.enter other ∉ run.window (time + 1) (later - (time + 1)) := by
      intro other member
      rcases Endless.mem_window member with ⟨between, from_start, before, same⟩
      have inside : between < later := by omega
      rcases followed between with ⟨_, meanwhile⟩
      exact meanwhile.invariant.notEnter (run.taken between)
        (live between from_start (Nat.le_of_lt inside)) other same
    have continued := run.run_window (time + 1) (later - (time + 1))
    rw [Nat.add_sub_cancel' after] at continued
    have finish := run.taken later
    rw [finished] at finish
    rcases atEntry.invariant.returns_displaced enter continued sameSwap finish with
      ⟨handed, shown, displayed, held⟩
    exact Or.inr ⟨finished, found, shown, atEntry.invariant.present, displayed, held, handed⟩
  · exact Or.inl cancelled

/-- From any idle state the interrupts alone make an endless run, without debug
assertions and for segments that `write_raw` accepts. -/
theorem Invariant.interrupted_forever (lawful : api.Lawful)
    (release : profile.debugAssertions = false) (invariant : Invariant layout system state)
    (lengths : forall i, i < layout.count -> 0 < layout.len i / state.wordSize.bytes ∧
      layout.len i / state.wordSize.bytes ≤ maxElements) (idle : system.phase = .idle) :
    Exists fun run : Endless (System.step profile api) => run.state 0 = system ∧
      (forall time, run.label time = .isr) ∧ forall time, (run.state time).phase = .idle := by
  have initially : system.phase = .idle ∧ Exists fun inner =>
      Invariant layout system inner ∧ inner.wordSize = state.wordSize := ⟨idle, state, invariant, rfl⟩
  have goes_on := Endless.exists_of_schedule (System.step profile api) (fun _ => .isr)
    (fun _ reached => reached.phase = .idle ∧ Exists fun inner =>
      Invariant layout reached inner ∧ inner.wordSize = state.wordSize)
    initially <| by
      rintro _ reached ⟨still, inner, kept, width⟩
      have countable := width ▸ lengths
      rcases kept.safe.proceeds lawful release countable with ⟨core, completed⟩
      have taken : System.step profile api reached .isr = some { reached with core } := by
        simp only [System.step, completed]
      rcases kept.step taken with ⟨next, preserved⟩
      rcases onDmaComplete_counts kept.present kept.streaming completed with ⟨found, stored, port, _⟩
      cases Option.some.inj (stored.symm.trans preserved.present)
      have sameWidth : next.wordSize = inner.wordSize := congrArg (fun port => port.2.2) port
      exact ⟨_, taken, still, next, preserved, sameWidth.trans width⟩
  rcases goes_on with ⟨run, first, same, inside⟩
  exact ⟨run, first, fun time => congrFun same time, fun time => (inside time).1⟩

/-- An exchange in which the task sleeps once. -/
def exampleExchange : List Label :=
  [.swap 0x20002000, .enter 7, .load, .lock, .isr, .isr, .isr, .poll 8, .load, .finish]

/-- Its endless continuation is fair. -/
theorem exampleExchange_fair :
    Exists fun run : Endless (System.step Profile.release assertingApi) =>
      run.state 0 = System.started startedCore [0x20002000] ∧ run.label 1 = .enter 7 ∧ Fair run := by
  have runs : (execute (System.step Profile.release assertingApi)
      (System.started startedCore [0x20002000]) exampleExchange).map System.phase = some .idle := by
    decide +kernel
  rcases Option.map_eq_some_iff.mp runs with ⟨system, executed, idle⟩
  have separate : ([0x20000000, 0x20002000] : List Addr).Nodup := by decide
  rcases Invariant.initial (show initialisedCore.state = some _ from rfl) rfl
    (show initialisedCore.startFirstTransfer Profile.release assertingApi
      (Layout.twoSegments.instanceAt 0x20000000) 0x20000000 = .ok startedCore from rfl)
    separate with ⟨_, initially, _⟩
  rcases initially.run (run_of_execute executed) with ⟨state, invariant⟩
  have lengths : forall i, i < Layout.twoSegments.count ->
      0 < Layout.twoSegments.len i / state.wordSize.bytes ∧
        Layout.twoSegments.len i / state.wordSize.bytes ≤ maxElements := by
    intro i _
    change 0 < 64 / state.wordSize.bytes ∧ 64 / state.wordSize.bytes ≤ maxElements
    cases state.wordSize <;> decide
  rcases invariant.interrupted_forever assertingApi_lawful
      (show Profile.release.debugAssertions = false from rfl) lengths idle with
    ⟨rest, meets, isr, quiet⟩
  rcases Endless.exists_of_execute executed rest meets with ⟨run, first, same, after⟩
  have task : forall time, time < 10 -> Eventually (fun later => run.label later ≠ .isr) time := by
    intro time before
    have last : run.label 9 = .finish := same 9 .finish rfl
    exact ⟨9, Nat.le_of_lt_succ before, fun isr => nomatch last.symm.trans isr⟩
  have settled : forall time, 10 ≤ time -> (run.state time).phase = .idle := by
    intro time past
    have reached : run.state (time - 10 + 10) = rest.state (time - 10) := (after (time - 10)).1
    rw [Nat.sub_add_cancel past] at reached
    rw [reached]
    exact quiet _
  refine ⟨run, first, same 1 _ rfl, ?_, ?_, ?_⟩
  · intro time
    exact ⟨time + 10, Nat.le_add_right _ _, (after time).2.trans (isr time)⟩
  · intro time polling
    by_cases before : time < 10
    · exact task time before
    · rw [settled time (Nat.le_of_not_lt before)] at polling
      exact absurd polling id
  · intro time waker mark asleep _
    by_cases before : time < 10
    · exact task time before
    · rw [settled time (Nat.le_of_not_lt before)] at asleep
      cases asleep

theorem swap_ends_of_exchange :
    Exists fun run : Endless (System.step Profile.release assertingApi) =>
      run.state 0 = System.started startedCore [0x20002000] ∧
      Exists fun later => 1 < later ∧ (run.label later = .cancel ∨ run.label later = .finish) := by
  rcases exampleExchange_fair with ⟨run, first, entered, fair⟩
  rcases swap_ends Profile.release assertingApi Layout.twoSegments
    (show initialisedCore.state = some _ from rfl) rfl
    (show initialisedCore.startFirstTransfer Profile.release assertingApi
      (Layout.twoSegments.instanceAt 0x20000000) 0x20000000 = .ok startedCore from rfl)
    (by decide) run first fair entered with ⟨later, after, _, ended⟩
  exact ⟨run, first, later, after, ended.imp_right And.left⟩

end Dma
end Driver
end Hub75
