import Mathlib.Data.List.Basic

namespace Hub75
namespace Machine

/-!
# Runs of partial labelled steps

A concurrent component is given by one partial function: `step state label`
is the next state when the party named by `label` can move, and `none` when it
cannot.  Every choice of the environment is carried by the label, so a run is
determined by its start and its labels, and quantifying over runs quantifies
over all interleavings.

Traces are stored newest label first.  A history function can then be written
by recursion on the trace: its head is the step just taken, and its tail is
the history on which that step acted.
-/

/-- A partial step; the label names the party that moves. -/
abbrev Step (State Label : Type) := State -> Label -> Option State

variable {State Label : Type} {step : Step State Label}

/-- A finite run, with the labels it took in reverse order. -/
inductive Run (step : Step State Label) (start : State) : List Label -> State -> Prop
  | refl : Run step start [] start
  | snoc {trace : List Label} {before after : State} {label : Label} :
      Run step start trace before -> step before label = some after ->
      Run step start (label :: trace) after

namespace Run

/-- The one induction over runs: a property of the history and of the state
that holds at the start and survives every step holds after every run. -/
theorem invariant {start : State} (property : List Label -> State -> Prop)
    (initially : property [] start)
    (preserved : forall trace before label after, property trace before ->
      step before label = some after -> property (label :: trace) after)
    {trace : List Label} {finish : State} (run : Run step start trace finish) :
    property trace finish := by
  induction run with
  | refl => exact initially
  | snoc _ taken inductionHypothesis => exact preserved _ _ _ _ inductionHypothesis taken

/-- A run continued by another run. -/
theorem append {start middle finish : State} {first second : List Label}
    (before : Run step start first middle) (after : Run step middle second finish) :
    Run step start (second ++ first) finish := by
  induction after with
  | refl => exact before
  | snoc _ taken inductionHypothesis => exact inductionHypothesis.snoc taken

/-- Taking one step first. -/
theorem cons {start middle finish : State} {label : Label} {trace : List Label}
    (taken : step start label = some middle) (rest : Run step middle trace finish) :
    Run step start (trace ++ [label]) finish :=
  (Run.refl.snoc taken).append rest

/-- The part of a run that made the older part of its history. -/
theorem earlier {start finish : State} {later history : List Label}
    (run : Run step start (later ++ history) finish) :
    Exists fun past => Run step start history past := by
  induction later generalizing finish with
  | nil => exact ⟨finish, run⟩
  | cons label later inductionHypothesis =>
      cases run with
      | snoc past _ => exact inductionHypothesis past

end Run

/-- A state that some run ends in. -/
def Reachable (step : Step State Label) (start state : State) : Prop :=
  Exists fun trace => Run step start trace state

theorem Reachable.snoc {start before after : State} {label : Label}
    (reached : Reachable step start before) (taken : step before label = some after) :
    Reachable step start after := by
  rcases reached with ⟨trace, run⟩
  exact ⟨label :: trace, run.snoc taken⟩

/-- Follow the labels in the order in which they happen. -/
def execute (step : Step State Label) : State -> List Label -> Option State
  | state, [] => some state
  | state, label :: rest => (step state label).bind fun next => execute step next rest

/-- A successful execution is a run over the same labels. -/
theorem run_of_execute {start finish : State} {labels : List Label}
    (executed : execute step start labels = some finish) :
    Run step start labels.reverse finish := by
  induction labels generalizing start with
  | nil =>
      cases executed
      exact .refl
  | cons label rest inductionHypothesis =>
      rcases Option.bind_eq_some_iff.mp executed with ⟨middle, taken, continued⟩
      rw [List.reverse_cons]
      exact Run.cons taken (inductionHypothesis continued)

end Machine
end Hub75
