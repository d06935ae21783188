import Mathlib.Data.Nat.Find
import Mathlib.Order.Basic
import Hub75.Machine.Run
import Hub75.Machine.Handshake

namespace Hub75
namespace Machine

/-!
# Endless runs and what must happen in them

A safety property speaks about finite runs.  That something is done at last can only be
said of a run that goes on, and only if no party is passed over for ever.  Here an
endless run is a state and a label for every time, and a property of a time may look at
both.  `LeadsTo` is proved by a rank: whatever happens, the rank does not grow, some
steps lower it, and such a step is always still to come.

The last section is about the completion flag and its waker.  An executor has to go on
with a poll that it has begun, and to poll a task again after its waker was called; it
owes nothing to a task that sleeps and has not been woken.
-/

/-- It happens at this time or at a later one. -/
def Eventually (happens : Nat -> Prop) (time : Nat) : Prop :=
  Exists fun later => time ≤ later ∧ happens later

/-- Whenever the one holds, the other holds then or later. -/
def LeadsTo (now goal : Nat -> Prop) : Prop := forall time, now time -> Eventually goal time

section Times

variable {now middle goal : Nat -> Prop} {time earlier : Nat}

theorem Eventually.mono (eventually : Eventually now time)
    (weaker : forall later, time ≤ later -> now later -> goal later) : Eventually goal time := by
  rcases eventually with ⟨later, after, happens⟩
  exact ⟨later, after, weaker later after happens⟩

theorem Eventually.from_earlier (eventually : Eventually goal time) (before : earlier ≤ time) :
    Eventually goal earlier := by
  rcases eventually with ⟨later, after, happens⟩
  exact ⟨later, before.trans after, happens⟩

/-- There is a first time. -/
theorem Eventually.first (eventually : Eventually goal time) :
    Exists fun later => time ≤ later ∧ goal later ∧
      forall between, time ≤ between -> between < later -> ¬ goal between := by
  classical
  have least := Nat.find_spec eventually
  refine ⟨Nat.find eventually, least.1, least.2, ?_⟩
  intro between after before reached
  exact Nat.find_min eventually before ⟨after, reached⟩

/-- What is kept by every step lasts until the goal is reached. -/
theorem kept_until (now goal : Nat -> Prop)
    (kept : forall time, now time -> ¬ goal time -> now (time + 1)) {later : Nat}
    (after : time ≤ later) (holds : now time)
    (absent : forall between, time ≤ between -> between < later -> ¬ goal between) : now later := by
  induction later, after using Nat.le_induction with
  | base => exact holds
  | succ later after inductionHypothesis =>
      have here : now later := inductionHypothesis fun between from_time before =>
        absent between from_time (before.trans (Nat.lt_succ_self later))
      exact kept later here (absent later after (Nat.lt_succ_self later))

/-- The rule of ranks.  The goal is reached while the property still holds. -/
theorem leadsTo_of_rank (helps : Nat -> Prop) (rank : Nat -> Nat)
    (kept : forall time, now time -> ¬ goal time -> now (time + 1) ∧ rank (time + 1) ≤ rank time)
    (helped : forall time, now time -> ¬ goal time -> helps time -> rank (time + 1) < rank time)
    (fair : forall time, now time -> Eventually (fun later => helps later ∨ goal later) time) :
    LeadsTo now (fun later => now later ∧ goal later) := by
  intro time holds
  -- The induction is on the rank at the time from which we look.
  induction bound : rank time using Nat.strong_induction_on generalizing time with
  | _ limit inductionHypothesis =>
      rcases (fair time holds).first with ⟨later, after, helps_or, absent⟩
      have lasted : now later ∧ rank later ≤ rank time := by
        refine kept_until (fun between => now between ∧ rank between ≤ rank time)
          (fun between => helps between ∨ goal between) ?_ after ⟨holds, Nat.le_refl _⟩ absent
        intro between inside notYet
        rcases kept between inside.1 (fun there => notYet (Or.inr there)) with ⟨still, lower⟩
        exact ⟨still, lower.trans inside.2⟩
      by_cases reached : goal later
      · exact ⟨later, after, lasted.1, reached⟩
      · have useful : helps later := helps_or.resolve_right reached
        have lower : rank (later + 1) < limit := by
          rw [← bound]
          exact (helped later lasted.1 reached useful).trans_le lasted.2
        have next := inductionHypothesis _ lower (later + 1) (kept later lasted.1 reached).1 rfl
        exact next.from_earlier (after.trans (Nat.le_succ later))

end Times

/-! ## Endless runs -/

/-- A run that never ends. -/
structure Endless {State Label : Type} (step : Step State Label) where
  state : Nat -> State
  label : Nat -> Label
  taken : forall time, step (state time) (label time) = some (state (time + 1))

namespace Endless

variable {State Label : Type} {step : Step State Label}

/-- The labels of `count` steps from a time on, newest first. -/
def window (run : Endless step) (time : Nat) : Nat -> List Label
  | 0 => []
  | count + 1 => run.label (time + count) :: run.window time count

/-- Everything that happened before a time. -/
def history (run : Endless step) (time : Nat) : List Label := run.window 0 time

theorem run_window (run : Endless step) (time count : Nat) :
    Run step (run.state time) (run.window time count) (run.state (time + count)) := by
  induction count with
  | zero => exact .refl
  | succ count inductionHypothesis => exact inductionHypothesis.snoc (run.taken (time + count))

theorem run_history (run : Endless step) (time : Nat) :
    Run step (run.state 0) (run.history time) (run.state time) := by
  have whole := run.run_window 0 time
  rwa [Nat.zero_add] at whole

theorem history_succ (run : Endless step) (time : Nat) :
    run.history (time + 1) = run.label time :: run.history time := by
  unfold history
  rw [window, Nat.zero_add]

theorem mem_window {run : Endless step} {time count : Nat} {label : Label}
    (member : label ∈ run.window time count) :
    Exists fun between => time ≤ between ∧ between < time + count ∧ run.label between = label := by
  induction count with
  | zero => exact nomatch member
  | succ count inductionHypothesis =>
      rcases List.mem_cons.mp member with same | earlier
      · exact ⟨time + count, Nat.le_add_right _ _, Nat.lt_succ_self _, same.symm⟩
      · rcases inductionHypothesis earlier with ⟨between, after, before, same⟩
        exact ⟨between, after, before.trans (Nat.lt_succ_self _), same⟩

/-- A schedule that can always go on has an endless run. -/
theorem exists_of_schedule (step : Step State Label) (schedule : Nat -> Label)
    (inside : Nat -> State -> Prop) {start : State}
    (initially : inside 0 start)
    (enabled : forall time state, inside time state ->
      Exists fun next => step state (schedule time) = some next ∧ inside (time + 1) next) :
    Exists fun run : Endless step => run.state 0 = start ∧ run.label = schedule ∧
      forall time, inside time (run.state time) := by
  classical
  let states : (time : Nat) -> { state : State // inside time state } := fun time =>
    Nat.rec ⟨start, initially⟩ (fun time reached =>
      ⟨(enabled time reached.1 reached.2).choose,
        (enabled time reached.1 reached.2).choose_spec.2⟩) time
  refine ⟨⟨fun time => (states time).1, schedule, ?_⟩, rfl, rfl, fun time => (states time).2⟩
  intro time
  exact (enabled time (states time).1 (states time).2).choose_spec.1

/-- Taking one step first. -/
def cons {start : State} {label : Label} (run : Endless step)
    (taken : step start label = some (run.state 0)) : Endless step where
  state
    | 0 => start
    | time + 1 => run.state time
  label
    | 0 => label
    | time + 1 => run.label time
  taken
    | 0 => taken
    | time + 1 => run.taken time

/-- A finite execution that an endless run takes over. -/
theorem exists_of_execute {start finish : State} {labels : List Label}
    (executed : execute step start labels = some finish) (rest : Endless step)
    (meets : rest.state 0 = finish) :
    Exists fun run : Endless step => run.state 0 = start ∧
      (forall time label, labels[time]? = some label -> run.label time = label) ∧
      forall time, run.state (time + labels.length) = rest.state time ∧
        run.label (time + labels.length) = rest.label time := by
  induction labels generalizing start with
  | nil =>
      cases executed
      refine ⟨rest, meets, ?_, fun _ => ⟨rfl, rfl⟩⟩
      intro time label found
      rw [List.getElem?_nil] at found
      cases found
  | cons label labels inductionHypothesis =>
      rcases Option.bind_eq_some_iff.mp executed with ⟨middle, taken, continued⟩
      rcases inductionHypothesis continued with ⟨run, first, same, after⟩
      refine ⟨run.cons (first.symm ▸ taken), rfl, ?_, after⟩
      intro time other found
      cases time with
      | zero => exact Option.some.inj found
      | succ time => exact same time other found

end Endless

/-! ## A task that waits for a flag -/

section Awaiting

variable {Waker : Type}

/-- A poll has begun and has not ended, or the task has been told. -/
def Phase.Polling : Phase Waker -> Prop
  | .started _ => True
  | .missed _ => True
  | .ready => True
  | _ => False

/-- The number of steps from the raised flag to the end of the request. -/
def Phase.distance : Phase Waker -> Nat
  | .idle => 0
  | .ready => 1
  | .started _ => 2
  | .missed _ => 2
  | .asleep _ _ => 3

/-- The wake-ups issued since there were `mark` of them. -/
def Cell.since (cell : Cell Waker) (mark : Nat) : List Waker :=
  cell.wakes.take (cell.wakes.length - mark)

/-- One step of the task under the raised flag. -/
inductive Phase.Settles : Phase Waker -> Phase Waker -> Prop
  | load (waker : Waker) : Settles (.started waker) .ready
  | lock (waker : Waker) : Settles (.missed waker) .ready
  | poll (waker other : Waker) (mark : Nat) : Settles (.asleep waker mark) (.started other)
  | finish : Settles .ready .idle
  | cancel (waker : Waker) (mark : Nat) : Settles (.asleep waker mark) .idle

theorem Phase.Settles.closer {before after : Phase Waker} (settles : before.Settles after) :
    after.distance < before.distance := by
  cases settles with
  | load | lock | poll | finish => exact Nat.lt_succ_self _
  | cancel => exact Nat.succ_pos _

/-- What the executor owes to the task; `moves` tells when the task takes a step. -/
structure Attended (cell : Nat -> Cell Waker) (phase : Nat -> Phase Waker) (moves : Nat -> Prop) :
    Prop where
  polling : forall time, (phase time).Polling -> Eventually moves time
  woken : forall time waker mark, phase time = .asleep waker mark ->
    waker ∈ (cell time).since mark -> Eventually moves time

variable {cell : Nat -> Cell Waker} {phase : Nat -> Phase Waker} {moves : Nat -> Prop}

/-- A task with a sound handshake is not left alone under the raised flag. -/
theorem Attended.attends (attended : Attended cell phase moves) {time : Nat}
    (sound : Sound true (cell time) (phase time)) (live : phase time ≠ .idle) :
    Eventually moves time := by
  cases reached : phase time with
  | idle => exact absurd reached live
  | started waker =>
      apply attended.polling
      rw [reached]
      trivial
  | missed waker =>
      apply attended.polling
      rw [reached]
      trivial
  | ready =>
      apply attended.polling
      rw [reached]
      trivial
  | asleep waker mark =>
      apply attended.woken time waker mark reached
      rcases sound.woken waker mark reached rfl with ⟨earlier, wakes, length⟩
      unfold Cell.since
      rw [wakes, List.length_cons, length, Nat.add_sub_cancel_left, List.take_one]
      exact List.mem_singleton_self waker

/-- Once the flag is up, the request ends. -/
theorem Attended.ends (attended : Attended cell phase moves)
    (sound : forall time, (cell time).done = true -> Sound true (cell time) (phase time))
    (kept : forall time, phase time ≠ .idle -> (cell time).done = true -> ¬ moves time ->
      phase (time + 1) = phase time ∧ (cell (time + 1)).done = true)
    (moved : forall time, phase time ≠ .idle -> (cell time).done = true -> moves time ->
      (phase time).Settles (phase (time + 1)) ∧ (cell (time + 1)).done = true) :
    LeadsTo (fun time => phase time ≠ .idle ∧ (cell time).done = true)
      (fun time => (phase time ≠ .idle ∧ (cell time).done = true) ∧ phase (time + 1) = .idle) := by
  refine leadsTo_of_rank moves (fun time => (phase time).distance) ?_ ?_ ?_
  · rintro time ⟨live, done⟩ going
    by_cases step : moves time
    · rcases moved time live done step with ⟨settles, still⟩
      exact ⟨⟨going, still⟩, settles.closer.le⟩
    · rcases kept time live done step with ⟨same, still⟩
      exact ⟨⟨going, still⟩, (congrArg Phase.distance same).le⟩
  · rintro time ⟨live, done⟩ _ step
    exact (moved time live done step).1.closer
  · rintro time ⟨live, done⟩
    exact (attended.attends (sound time done) live).mono fun _ _ step => Or.inl step

end Awaiting
end Machine
end Hub75
