import Hub75.Machine.FallibleLoop
import Mathlib.Order.Bounds.Basic

namespace Hub75
namespace Machine

/-!
# Recognising sequences element by element

A set of sequences of one length can be recognised by a loop that checks one
element after the other and stops at the first check that fails.  The index
reported then means something only if each check is as strict as the set demands:
having accepted the elements before, it accepts the next element exactly when some
member of the set still begins like this.  Such a loop accepts the members of the set, and
otherwise it stops at the least index up to which no member agrees.
-/

/-! ## Loops that only check -/

section

variable {ε α : Type}

/-- Check every element with its index. -/
def checkFrom (check : Nat -> α -> Except ε Unit) : Nat -> List α -> Except ε Unit
  | _, [] => .ok ()
  | index, element :: rest => do
      check index element
      checkFrom check (index + 1) rest

variable {check : Nat -> α -> Except ε Unit}

/-- Every element before a place passes its check. -/
def PassesBefore (check : Nat -> α -> Except ε Unit) (index : Nat) (elements : List α)
    (place : Nat) : Prop :=
  forall i element, i < place -> elements[i]? = some element -> check (index + i) element = .ok ()

theorem passesBefore_cons {index : Nat} {element : α} {rest : List α} {place : Nat}
    (first : check index element = .ok ()) :
    PassesBefore check index (element :: rest) (place + 1) ↔
      PassesBefore check (index + 1) rest place := by
  have shifted (i : Nat) : index + 1 + i = index + (i + 1) := by omega
  constructor
  · intro passes i other before found
    rw [shifted]
    exact passes (i + 1) other (Nat.succ_lt_succ before) found
  · intro passes i other before found
    cases i with
    | zero =>
        cases found
        exact first
    | succ i =>
        rw [← shifted]
        exact passes i other (Nat.lt_of_succ_lt_succ before) found

/-- The loop succeeds when all checks do. -/
theorem checkFrom_eq_ok_iff {index : Nat} {elements : List α} :
    checkFrom check index elements = .ok () ↔
      PassesBefore check index elements elements.length := by
  induction elements generalizing index with
  | nil => exact ⟨fun _ i _ impossible => absurd impossible (Nat.not_lt_zero i), fun _ => rfl⟩
  | cons element rest inductionHypothesis =>
      constructor
      · intro checked
        rcases bind_eq_ok.mp checked with ⟨_, first, continued⟩
        exact (passesBefore_cons first).mpr (inductionHypothesis.mp continued)
      · intro passes
        have first : check index element = .ok () := passes 0 element (Nat.succ_pos _) rfl
        exact bind_eq_ok.mpr
          ⟨(), first, inductionHypothesis.mpr ((passesBefore_cons first).mp passes)⟩

/-- A failing loop stops at an element that fails, and all the elements before it pass. -/
theorem checkFrom_eq_error {index : Nat} {elements : List α} {e : ε}
    (failed : checkFrom check index elements = .error e) :
    Exists fun place => Exists fun element => elements[place]? = some element ∧
      check (index + place) element = .error e ∧ PassesBefore check index elements place := by
  induction elements generalizing index with
  | nil => cases failed
  | cons element rest inductionHypothesis =>
      cases first : check index element with
      | error other =>
          have same : checkFrom check index (element :: rest) = .error other := by
            rw [checkFrom, first]
            rfl
          rw [failed] at same
          cases same
          exact ⟨0, element, rfl, first, fun i _ impossible => absurd impossible (Nat.not_lt_zero i)⟩
      | ok done =>
          rw [checkFrom, first] at failed
          rcases inductionHypothesis failed with ⟨place, rejected, found, refused, passes⟩
          refine ⟨place + 1, rejected, found, ?_, (passesBefore_cons first).mpr passes⟩
          have shifted : index + (place + 1) = index + 1 + place := by omega
          rw [shifted]
          exact refused

end

/-! ## Prefixes of the members of a set -/

variable {ε α : Type} {n : Nat}

/-- Some member of the set agrees with a sequence on the first `k` elements. -/
def Admits (valid : Set (Vector α n)) (sequence : Vector α n) (k : Nat) : Prop :=
  Exists fun member => member ∈ valid ∧ forall i, i < k -> member[i]? = sequence[i]?

variable {valid : Set (Vector α n)} {sequence : Vector α n}

theorem Admits.of_le {k l : Nat} (admits : Admits valid sequence l) (shorter : k ≤ l) :
    Admits valid sequence k := by
  rcases admits with ⟨member, inside, agrees⟩
  exact ⟨member, inside, fun i before => agrees i (Nat.lt_of_lt_of_le before shorter)⟩

theorem admits_all_iff : Admits valid sequence n ↔ sequence ∈ valid := by
  constructor
  · rintro ⟨member, inside, agrees⟩
    have same : member = sequence := by
      apply table_ext
      intro i
      by_cases before : i < n
      · exact agrees i before
      · rw [Vector.getElem?_eq_none (by omega), Vector.getElem?_eq_none (by omega)]
    exact same ▸ inside
  · exact fun inside => ⟨sequence, inside, fun _ _ => rfl⟩

/-- The place where a sequence leaves the set for good. -/
theorem Admits.isLeast {k : Nat} (admits : Admits valid sequence k)
    (refuted : ¬ Admits valid sequence (k + 1)) :
    IsLeast { index | ¬ Admits valid sequence (index + 1) } k := by
  constructor
  · exact refuted
  · intro other otherRefuted
    apply Nat.le_of_not_lt
    intro earlier
    exact otherRefuted (admits.of_le earlier)

/-- After the elements before it, each check is exactly as strict as the set. -/
structure Recognises (valid : Set (Vector α n)) (check : Nat -> α -> Except ε Unit)
    (sequence : Vector α n) : Prop where
  start : Admits valid sequence 0
  step : forall {i element}, sequence[i]? = some element -> Admits valid sequence i ->
    (check i element = .ok () ↔ Admits valid sequence (i + 1))

variable {check : Nat -> α -> Except ε Unit}

theorem Recognises.admits_of_passes (recognises : Recognises valid check sequence) {k : Nat}
    (within : k ≤ n) (passes : PassesBefore check 0 sequence.toList k) :
    Admits valid sequence k := by
  induction k with
  | zero => exact recognises.start
  | succ k inductionHypothesis =>
      have admits := inductionHypothesis (Nat.le_of_succ_le within) fun i element before found =>
        passes i element (Nat.lt_succ_of_lt before) found
      have found : sequence[k]? = some sequence[k] := Vector.getElem?_eq_getElem within
      apply (recognises.step found admits).mp
      have passed := passes k sequence[k] (Nat.lt_succ_self k)
      rw [Nat.zero_add, Vector.getElem?_toList] at passed
      exact passed found

/-- The loop accepts the members of the set. -/
theorem Recognises.ok_iff (recognises : Recognises valid check sequence) :
    checkFrom check 0 sequence.toList = .ok () ↔ sequence ∈ valid := by
  rw [checkFrom_eq_ok_iff, Vector.length_toList, ← admits_all_iff]
  constructor
  · exact recognises.admits_of_passes (Nat.le_refl n)
  · intro admits i element before found
    rw [Vector.getElem?_toList] at found
    rw [Nat.zero_add]
    exact (recognises.step found (admits.of_le (Nat.le_of_lt before))).mpr (admits.of_le before)

/-- When the loop fails, it stops where no member agrees any more. -/
theorem Recognises.refuses (recognises : Recognises valid check sequence) {e : ε}
    (failed : checkFrom check 0 sequence.toList = .error e) :
    Exists fun index => Exists fun element => sequence[index]? = some element ∧
      check index element = .error e ∧ Admits valid sequence index ∧
      ¬ Admits valid sequence (index + 1) := by
  rcases checkFrom_eq_error failed with ⟨index, element, found, refused, passes⟩
  rw [Vector.getElem?_toList] at found
  rw [Nat.zero_add] at refused
  have inside := (Vector.getElem?_eq_some_iff.mp found).1
  have admits := recognises.admits_of_passes (Nat.le_of_lt inside) passes
  refine ⟨index, element, found, refused, admits, fun impossible => ?_⟩
  rw [(recognises.step found admits).mpr impossible] at refused
  cases refused

end Machine
end Hub75
