import Hub75.Machine.Run

namespace Hub75
namespace Machine

/-!
# Simulation of one component by another

A concrete component is simulated by an abstract one when every concrete step is
answered by some steps of the abstract component, possibly none, and the states
stay related.  The relation may mention both histories.  What is true of all runs of
the abstract component can then be read off a concrete state.
-/

variable {Concrete Abstract Label Event : Type} {step : Step Concrete Label}
  {answer : Step Abstract Event} {start : Abstract}
  {relates : List Label -> List Event -> Concrete -> Abstract -> Prop}

/-- Some run of the abstract component has come to a related state. -/
def Simulated (answer : Step Abstract Event) (start : Abstract)
    (relates : List Label -> List Event -> Concrete -> Abstract -> Prop) (trace : List Label)
    (concrete : Concrete) : Prop :=
  Exists fun events => Exists fun abstract => Run answer start events abstract ∧
    relates trace events concrete abstract

/-- Every concrete run is explained by an abstract one. -/
theorem Simulated.run {first concrete : Concrete} {trace : List Label}
    (initially : relates [] [] first start)
    (answers : forall trace events before abstract label after,
      relates trace events before abstract -> step before label = some after ->
        Exists fun more => Exists fun next => Run answer abstract more next ∧
          relates (label :: trace) (more ++ events) after next)
    (run : Run step first trace concrete) : Simulated answer start relates trace concrete := by
  refine run.invariant (Simulated answer start relates) ⟨[], start, .refl, initially⟩ ?_
  intro trace before label after simulated taken
  rcases simulated with ⟨events, abstract, explained, related⟩
  rcases answers trace events before abstract label after related taken with
    ⟨more, next, continued, still⟩
  exact ⟨more ++ events, next, explained.append continued, still⟩

end Machine
end Hub75
