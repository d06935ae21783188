import Hub75.Machine.Rotation

namespace Hub75
namespace Machine

/-!
# Machines that follow a rotation

A deterministic machine is observed once in every state it passes through.  It
tracks a weighted rotation when a relation between its states and the cursor is
kept by every step, and the observation shows the entry under the cursor.  The
observations of such a machine are then the visits of the rotation, however the
machine encodes its position.

Steps and observations are partial: a machine that gets stuck, or that shows
nothing, has no sequence of observations at all.
-/

variable {State Entry : Type}

/-- The state after the given number of steps. -/
def stateAfter (step : State -> Option State) (start : State) : Nat -> Option State
  | 0 => some start
  | n + 1 => (stateAfter step start n).bind step

/-- What the first `k` states show. -/
def observe (step : State -> Option State) (view : State -> Option Entry) (start : State) :
    Nat -> Option (List Entry)
  | 0 => some []
  | k + 1 => (observe step view start k).bind fun seen =>
      ((stateAfter step start k).bind view).map fun entry => seen ++ [entry]

/-- A machine is kept in step with the cursor by a relation. -/
structure Tracks (step : State -> Option State) (view : State -> Option Entry)
    (weight : Nat -> Nat) (count : Nat) (entry : Nat -> Entry)
    (related : State -> Cursor -> Prop) : Prop where
  sees : forall {state cursor}, related state cursor -> view state = some (entry cursor.index)
  moves : forall {state cursor}, related state cursor ->
    Exists fun next => step state = some next ∧ related next (cursor.advance weight count).1

namespace Tracks

variable {step : State -> Option State} {view : State -> Option Entry} {weight : Nat -> Nat}
  {count : Nat} {entry : Nat -> Entry} {related : State -> Cursor -> Prop} {start : State}

theorem stateAfter_eq (tracks : Tracks step view weight count entry related)
    (initially : related start Cursor.origin) (k : Nat) :
    Exists fun state => stateAfter step start k = some state ∧
      related state (Cursor.after weight count k) := by
  induction k with
  | zero => exact ⟨start, rfl, initially⟩
  | succ k inductionHypothesis =>
      rcases inductionHypothesis with ⟨state, reached, relates⟩
      rcases tracks.moves relates with ⟨next, taken, followed⟩
      refine ⟨next, ?_, followed⟩
      rw [stateAfter, reached]
      exact taken

/-- The observations are the visits of the cursor. -/
theorem observe_visits (tracks : Tracks step view weight count entry related)
    (initially : related start Cursor.origin) (k : Nat) :
    observe step view start k = some ((Cursor.visits weight count k).map entry) := by
  induction k with
  | zero => rfl
  | succ k inductionHypothesis =>
      rcases tracks.stateAfter_eq initially k with ⟨state, reached, relates⟩
      have visits_succ : Cursor.visits weight count (k + 1) =
          Cursor.visits weight count k ++ [(Cursor.after weight count k).index] := by
        simp only [Cursor.visits, List.range_succ, List.map_append, List.map_cons, List.map_nil]
      rw [observe, inductionHypothesis, reached, visits_succ, List.map_append]
      change ((view state).map fun shown => _) = _
      rw [tracks.sees relates]
      rfl

/-- With positive weights they repeat one round for ever. -/
theorem observe_repeated (tracks : Tracks step view weight count entry related)
    (initially : related start Cursor.origin) (nonempty : 0 < count)
    (positive : forall i, i < count -> 0 < weight i) (k : Nat) :
    observe step view start k = some (repeated ((weighted weight count).map entry) k) := by
  rw [tracks.observe_visits initially, Cursor.visits_eq_repeated nonempty positive, repeated_map]

end Tracks
end Machine
end Hub75
