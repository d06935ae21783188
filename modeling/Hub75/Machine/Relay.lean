import Mathlib.Data.List.Basic

namespace Hub75
namespace Machine

/-!
# An output relayed block by block

A scan goes round a fixed order of segments, from any place of it on.  With each visit
it emits one block of words, those of a segment of a picture, and the picture is
chosen when the visit begins.  `Relays` is the meaning of an output of such a scan:
whole blocks, in the order of the scan and each of one of the given pictures, and
then the beginning of one more block.

The visits are in their order; the output is newest first.
-/

variable {Picture Word : Type}

structure Relays (order : List Nat) (start : Nat) (block : Nat -> Picture -> List Word)
    (given : List Picture) (output : List Word) (visits : List (Nat × Picture)) (segment : Nat)
    (picture : Picture) (emitted : Nat) : Prop where
  scan : forall k entry, (visits ++ [(segment, picture)])[k]? = some entry ->
    order[(start + k) % order.length]? = some entry.1
  known : forall entry, entry ∈ visits ++ [(segment, picture)] -> entry.2 ∈ given
  output_eq : output.reverse =
    visits.flatMap (fun entry => block entry.1 entry.2) ++ (block segment picture).take emitted

namespace Relays

variable {order : List Nat} {start segment emitted : Nat} {block : Nat -> Picture -> List Word}
  {given : List Picture} {output : List Word} {visits : List (Nat × Picture)} {picture : Picture}

theorem initial (first : order[start % order.length]? = some segment) (known : picture ∈ given) :
    Relays order start block given [] [] segment picture 0 where
  scan k entry found := by
    cases k with
    | zero =>
        cases found
        exact first
    | succ k => cases found
  known entry member := by
    cases List.mem_singleton.mp member
    exact known
  output_eq := rfl

/-- One more word of the present block. -/
theorem emit (relays : Relays order start block given output visits segment picture emitted)
    {word : Word} (found : (block segment picture)[emitted]? = some word) :
    Relays order start block given (word :: output) visits segment picture (emitted + 1) where
  scan := relays.scan
  known := relays.known
  output_eq := by
    rw [List.reverse_cons, relays.output_eq, List.append_assoc, List.take_add_one, found]
    rfl

/-- The block is complete, and the next visit begins. -/
theorem turn (relays : Relays order start block given output visits segment picture emitted)
    (whole : (block segment picture).length ≤ emitted) {next : Nat} {shown : Picture}
    (follows : order[(start + (visits.length + 1)) % order.length]? = some next)
    (known : shown ∈ given) :
    Relays order start block given output (visits ++ [(segment, picture)]) next shown 0 where
  scan k entry found := by
    by_cases earlier : k < (visits ++ [(segment, picture)]).length
    · rw [List.getElem?_append_left earlier] at found
      exact relays.scan k entry found
    · have last : k = visits.length + 1 := by
        have inside := (List.getElem?_eq_some_iff.mp found).1
        simp only [List.length_append, List.length_cons, List.length_nil] at earlier inside
        omega
      have length : visits.length + 1 = (visits ++ [(segment, picture)]).length := by
        rw [List.length_append]
        rfl
      subst last
      rw [length, List.getElem?_append_right (Nat.le_refl _), Nat.sub_self] at found
      cases found
      exact follows
  known entry member := by
    rcases List.mem_append.mp member with earlier | last
    · exact relays.known entry earlier
    · cases List.mem_singleton.mp last
      exact known
  output_eq := by
    rw [relays.output_eq, List.take_of_length_le whole, List.flatMap_append, List.take_zero,
      List.append_nil, List.flatMap_cons, List.flatMap_nil, List.append_nil]

/-- More pictures do not matter. -/
theorem mono (relays : Relays order start block given output visits segment picture emitted)
    {more : List Picture} (extended : given ⊆ more) :
    Relays order start block more output visits segment picture emitted :=
  { relays with known := fun entry member => extended (relays.known entry member) }

end Relays
end Machine
end Hub75
