import Mathlib.Algebra.BigOperators.Group.Finset.Basic
import Mathlib.Algebra.Order.BigOperators.Group.Finset
import Mathlib.Algebra.BigOperators.Intervals
import Mathlib.Data.List.Flatten

namespace Hub75
namespace Machine

open Finset

/-!
# Weighted rotations

A weighted rotation visits the indices `0, .., count - 1` in order, each one
`weight i` times in a row, and then starts again.  Two descriptions of it are
compared here.  The first writes one round out as a list and repeats that list
for ever.  The second is a cursor of two counters that is moved one visit at a
time, as an interrupt handler or a repeat counter in hardware would do it.

The cursor tests its counter only after a visit, so an index of weight zero is
still visited once.  Agreement of the two descriptions therefore needs positive
weights; `advance_max_one` says what the cursor makes of the others.
-/

/-! ## Endless repetition -/

/-- The first `k` entries of the endless repetition of `round`.  An empty round
has no entries to repeat. -/
def repeated {α : Type} (round : List α) (k : Nat) : List α :=
  (List.range k).filterMap fun j => round[j % round.length]?

theorem repeated_succ {α : Type} (round : List α) (k : Nat) :
    repeated round (k + 1) = repeated round k ++ (round[k % round.length]?).toList := by
  unfold repeated
  rw [List.range_succ, List.filterMap_append]
  cases found : round[k % round.length]? <;> simp [found]

theorem repeated_map {α β : Type} (f : α -> β) (round : List α) (k : Nat) :
    repeated (round.map f) k = (repeated round k).map f := by
  induction k with
  | zero => rfl
  | succ k inductionHypothesis =>
      rw [repeated_succ, repeated_succ, inductionHypothesis, List.map_append, List.length_map,
        List.getElem?_map]
      cases round[k % round.length]? <;> rfl

/-- A sequence that reads `round` at its index modulo the length of `round`
lists the endless repetition. -/
theorem map_range_eq_repeated {α : Type} {round : List α} {entry : Nat -> α}
    (reads : forall j, round[j % round.length]? = some (entry j)) (k : Nat) :
    (List.range k).map entry = repeated round k := by
  induction k with
  | zero => rfl
  | succ k inductionHypothesis =>
      rw [List.range_succ, List.map_append, inductionHypothesis, repeated_succ, reads k]
      rfl

/-! ## One round -/

/-- One round of the rotation, written out. -/
def weighted (weight : Nat -> Nat) (count : Nat) : List Nat :=
  (List.range count).flatMap fun i => List.replicate (weight i) i

theorem weighted_succ (weight : Nat -> Nat) (count : Nat) :
    weighted weight (count + 1) = weighted weight count ++ List.replicate (weight count) count := by
  simp only [weighted, List.range_succ, List.flatMap_append, List.flatMap_cons, List.flatMap_nil,
    List.append_nil]

@[simp] theorem length_weighted (weight : Nat -> Nat) (count : Nat) :
    (weighted weight count).length = ∑ i ∈ range count, weight i := by
  induction count with
  | zero => rfl
  | succ count inductionHypothesis =>
      rw [weighted_succ, List.length_append, List.length_replicate, inductionHypothesis,
        sum_range_succ]

/-- An index occurs in the round exactly when it is visited and has weight. -/
theorem mem_weighted {weight : Nat -> Nat} {count i : Nat} :
    i ∈ weighted weight count ↔ i < count ∧ weight i ≠ 0 := by
  unfold weighted
  constructor
  · intro member
    rcases List.mem_flatMap.mp member with ⟨j, inRange, copies⟩
    rcases List.mem_replicate.mp copies with ⟨positive, same⟩
    subst same
    exact ⟨List.mem_range.mp inRange, positive⟩
  · intro conditions
    refine List.mem_flatMap.mpr ⟨i, List.mem_range.mpr conditions.1, ?_⟩
    exact List.mem_replicate.mpr ⟨conditions.2, rfl⟩

/-- With weight one everywhere, a round is the list of the indices. -/
theorem weighted_one (count : Nat) : weighted (fun _ => 1) count = List.range count := by
  induction count with
  | zero => rfl
  | succ count inductionHypothesis =>
      rw [weighted_succ, inductionHypothesis, List.range_succ]
      rfl

/-- The entry `rep` places after the first visit of `index` is `index`. -/
theorem weighted_getElem? {weight : Nat -> Nat} {count index rep : Nat} (inside : index < count)
    (small : rep < weight index) :
    (weighted weight count)[(∑ i ∈ range index, weight i) + rep]? = some index := by
  induction count with
  | zero => exact absurd inside (Nat.not_lt_zero _)
  | succ count inductionHypothesis =>
      rw [weighted_succ]
      by_cases last : index = count
      · subst last
        rw [List.getElem?_append_right (by simp), length_weighted, Nat.add_sub_cancel_left,
          List.getElem?_replicate, if_pos small]
      · have earlier : index < count := Nat.lt_of_le_of_ne (Nat.le_of_lt_succ inside) last
        have below : (∑ i ∈ range index, weight i) + rep < (weighted weight count).length := by
          rw [length_weighted]
          calc (∑ i ∈ range index, weight i) + rep
              < ∑ i ∈ range (index + 1), weight i := by
                rw [sum_range_succ]
                exact Nat.add_lt_add_left small _
            _ ≤ ∑ i ∈ range count, weight i :=
                sum_le_sum_of_subset (range_subset_range.mpr earlier)
        rw [List.getElem?_append_left below]
        exact inductionHypothesis earlier

/-! ## The cursor -/

/-- The index being visited and the number of completed visits to it. -/
structure Cursor where
  index : Nat
  rep : Nat
deriving DecidableEq, Repr

namespace Cursor

/-- The first visit of a round. -/
def origin : Cursor := ⟨0, 0⟩

/-- Complete one visit.  The flag reports the end of a round. -/
def advance (weight : Nat -> Nat) (count : Nat) (cursor : Cursor) : Cursor × Bool :=
  if weight cursor.index ≤ cursor.rep + 1 then
    if count ≤ cursor.index + 1 then (origin, true) else (⟨cursor.index + 1, 0⟩, false)
  else (⟨cursor.index, cursor.rep + 1⟩, false)

/-- The number of visits in this round before the present one. -/
def position (weight : Nat -> Nat) (cursor : Cursor) : Nat :=
  (∑ i ∈ range cursor.index, weight i) + cursor.rep

/-- The cursor stands on an actual visit. -/
structure Valid (weight : Nat -> Nat) (count : Nat) (cursor : Cursor) : Prop where
  index_lt : cursor.index < count
  rep_lt : cursor.rep < weight cursor.index

variable {weight : Nat -> Nat} {count : Nat} {cursor : Cursor}

theorem valid_origin (nonempty : 0 < count) (positive : forall i, i < count -> 0 < weight i) :
    Valid weight count origin :=
  ⟨nonempty, positive 0 nonempty⟩

/-- Whatever the weights are, the cursor stays among the indices. -/
theorem advance_index_lt (inside : cursor.index < count) :
    (cursor.advance weight count).1.index < count := by
  unfold advance
  split
  · split
    · exact Nat.lt_of_le_of_lt (Nat.zero_le _) inside
    · next more => exact Nat.lt_of_not_le more
  · exact inside

/-- Moving the cursor keeps it on a visit. -/
theorem Valid.advance (valid : Valid weight count cursor)
    (positive : forall i, i < count -> 0 < weight i) :
    Valid weight count (cursor.advance weight count).1 := by
  have nonempty : 0 < count := Nat.lt_of_le_of_lt (Nat.zero_le _) valid.index_lt
  unfold Cursor.advance
  split
  · split
    · exact valid_origin nonempty positive
    · next more => exact ⟨Nat.lt_of_not_le more, positive _ (Nat.lt_of_not_le more)⟩
  · next more => exact ⟨valid.index_lt, Nat.lt_of_not_le more⟩

theorem Valid.position_lt (valid : Valid weight count cursor) :
    cursor.position weight < ∑ i ∈ range count, weight i := by
  calc cursor.position weight
      < ∑ i ∈ range (cursor.index + 1), weight i := by
        rw [sum_range_succ]
        exact Nat.add_lt_add_left valid.rep_lt _
    _ ≤ ∑ i ∈ range count, weight i :=
        sum_le_sum_of_subset (range_subset_range.mpr valid.index_lt)

/-- The round entry at the cursor's position is the index under the cursor. -/
theorem Valid.weighted_position (valid : Valid weight count cursor) :
    (weighted weight count)[cursor.position weight]? = some cursor.index :=
  weighted_getElem? valid.index_lt valid.rep_lt

/-- Everything one move can do: it finishes the round and returns to the
first visit, or it goes on to the next position of the same round. -/
theorem Valid.advance_cases (valid : Valid weight count cursor)
    (positive : forall i, i < count -> 0 < weight i) :
    (cursor.advance weight count = (origin, true) ∧
        cursor.position weight + 1 = ∑ i ∈ range count, weight i) ∨
      ((cursor.advance weight count).2 = false ∧
        (cursor.advance weight count).1.position weight = cursor.position weight + 1 ∧
        cursor.position weight + 1 < ∑ i ∈ range count, weight i) := by
  have next_lt := (valid.advance positive).position_lt
  have inside := valid.index_lt
  have small := valid.rep_lt
  revert next_lt
  unfold Cursor.advance
  split
  · next finished =>
      have next_position : cursor.position weight + 1 =
          ∑ i ∈ range (cursor.index + 1), weight i := by
        rw [sum_range_succ, position]
        omega
      split
      · next lastIndex =>
          have same : cursor.index + 1 = count := by omega
          exact fun _ => Or.inl ⟨rfl, by rw [next_position, same]⟩
      · intro next_lt
        have fresh : (Cursor.mk (cursor.index + 1) 0).position weight =
            cursor.position weight + 1 := next_position.symm
        exact Or.inr ⟨rfl, fresh, fresh ▸ next_lt⟩
  · exact fun next_lt => Or.inr ⟨rfl, rfl, next_lt⟩

/-- Moving the cursor advances its position by one modulo the round. -/
theorem Valid.advance_position (valid : Valid weight count cursor)
    (positive : forall i, i < count -> 0 < weight i) :
    (cursor.advance weight count).1.position weight =
      (cursor.position weight + 1) % (∑ i ∈ range count, weight i) := by
  rcases valid.advance_cases positive with ⟨moved, wrapped⟩ | ⟨_, moved, below⟩
  · rw [moved, wrapped, Nat.mod_self]
    rfl
  · rw [moved, Nat.mod_eq_of_lt below]

/-- The flag tells whether the new round starts now. -/
theorem Valid.advance_wraps_iff_position (valid : Valid weight count cursor)
    (positive : forall i, i < count -> 0 < weight i) :
    (cursor.advance weight count).2 = true ↔
      (cursor.advance weight count).1.position weight = 0 := by
  rcases valid.advance_cases positive with ⟨moved, _⟩ | ⟨flag, moved, _⟩
  · rw [moved]
    exact iff_of_true rfl rfl
  · rw [moved]
    exact iff_of_false (Bool.eq_false_iff.mp flag) (Nat.succ_ne_zero _)

/-- A raised flag puts the cursor back on the first visit. -/
theorem Valid.advance_eq_origin (valid : Valid weight count cursor)
    (positive : forall i, i < count -> 0 < weight i)
    (wraps : (cursor.advance weight count).2 = true) :
    (cursor.advance weight count).1 = origin := by
  rcases valid.advance_cases positive with ⟨moved, _⟩ | ⟨flag, _⟩
  · rw [moved]
  · exact absurd (flag.symm.trans wraps) Bool.false_ne_true

/-- The test after the visit cannot tell weight zero from weight one. -/
theorem advance_max_one (weight : Nat -> Nat) (count : Nat) (cursor : Cursor) :
    cursor.advance (fun i => max (weight i) 1) count = cursor.advance weight count := by
  have sameTest : max (weight cursor.index) 1 ≤ cursor.rep + 1 ↔
      weight cursor.index ≤ cursor.rep + 1 := by omega
  simp only [advance, sameTest]

/-! ## A cursor started at the origin -/

/-- The cursor after `k` completed visits. -/
def after (weight : Nat -> Nat) (count : Nat) : Nat -> Cursor
  | 0 => origin
  | k + 1 => ((after weight count k).advance weight count).1

/-- The indices of the first `k` visits. -/
def visits (weight : Nat -> Nat) (count k : Nat) : List Nat :=
  (List.range k).map fun j => (after weight count j).index

theorem valid_after (nonempty : 0 < count) (positive : forall i, i < count -> 0 < weight i)
    (k : Nat) : Valid weight count (after weight count k) := by
  induction k with
  | zero => exact valid_origin nonempty positive
  | succ k inductionHypothesis => exact inductionHypothesis.advance positive

theorem position_after (nonempty : 0 < count) (positive : forall i, i < count -> 0 < weight i)
    (k : Nat) :
    (after weight count k).position weight = k % (∑ i ∈ range count, weight i) := by
  induction k with
  | zero =>
      rw [Nat.zero_mod]
      rfl
  | succ k inductionHypothesis =>
      have moved := (valid_after nonempty positive k).advance_position positive
      rw [inductionHypothesis, Nat.mod_add_mod] at moved
      exact moved

/-- With positive weights the cursor lists the endless repetition of one
round, over any number of visits. -/
theorem visits_eq_repeated (nonempty : 0 < count)
    (positive : forall i, i < count -> 0 < weight i) (k : Nat) :
    visits weight count k = repeated (weighted weight count) k := by
  refine map_range_eq_repeated (fun j => ?_) k
  have stands := (valid_after nonempty positive j).weighted_position
  rw [position_after nonempty positive j] at stands
  rw [length_weighted]
  exact stands

/-- Every index of the round is visited again after the first visit. -/
theorem exists_after_index (positive : forall i, i < count -> 0 < weight i) {i : Nat}
    (inside : i < count) : Exists fun k => (after weight count (k + 1)).index = i := by
  have nonempty : 0 < count := Nat.lt_of_le_of_lt (Nat.zero_le _) inside
  have listed : i ∈ weighted weight count :=
    mem_weighted.mpr ⟨inside, Nat.pos_iff_ne_zero.mp (positive i inside)⟩
  rcases List.mem_iff_getElem?.mp listed with ⟨p, found⟩
  have below : p < ∑ i ∈ range count, weight i := by
    rw [← length_weighted]
    exact (List.getElem?_eq_some_iff.mp found).1
  have round : p + ((∑ i ∈ range count, weight i) - 1) + 1 = p + ∑ i ∈ range count, weight i := by
    omega
  refine ⟨p + ((∑ i ∈ range count, weight i) - 1), ?_⟩
  have stands := (valid_after nonempty positive
    (p + ((∑ i ∈ range count, weight i) - 1) + 1)).weighted_position
  rw [position_after nonempty positive, round, Nat.add_mod_right, Nat.mod_eq_of_lt below,
    found] at stands
  rw [round]
  exact (Option.some.inj stands).symm

end Cursor

/-! ## Stretches of a circle -/

section

variable {α : Type} {entry : Nat -> α} {count : Nat}

/-- The entries met on `length` consecutive places of a circle, from `start` on. -/
def stretch (entry : Nat -> α) (count start length : Nat) : List α :=
  (List.range length).map fun j => entry ((start + j) % count)

@[simp] theorem length_stretch (entry : Nat -> α) (count start length : Nat) :
    (stretch entry count start length).length = length := by
  unfold stretch
  rw [List.length_map, List.length_range]

theorem stretch_succ (entry : Nat -> α) (count start length : Nat) :
    stretch entry count start (length + 1) =
      stretch entry count start length ++ [entry ((start + length) % count)] := by
  unfold stretch
  rw [List.range_succ, List.map_append]
  rfl

theorem stretch_add (entry : Nat -> α) (count start first second : Nat) :
    stretch entry count start (first + second) =
      stretch entry count start first ++ stretch entry count (start + first) second := by
  unfold stretch
  rw [List.range_add, List.map_append, List.map_map]
  apply congrArg
  apply List.map_congr_left
  intro j _
  rw [Function.comp_apply, Nat.add_assoc]

/-- A stretch from one passage of the origin to another consists of whole turns. -/
theorem stretch_turns (entry : Nat -> α) (count first turns : Nat) :
    stretch entry count (first * count) (turns * count) =
      (List.replicate turns ((List.range count).map entry)).flatten := by
  induction turns with
  | zero =>
      rw [Nat.zero_mul]
      rfl
  | succ turns inductionHypothesis =>
      have last : stretch entry count (first * count + turns * count) count =
          (List.range count).map entry := by
        apply List.map_congr_left
        intro j inside
        rw [← Nat.add_mul, Nat.add_comm, Nat.add_mul_mod_self_right,
          Nat.mod_eq_of_lt (List.mem_range.mp inside)]
      rw [Nat.succ_mul, stretch_add, inductionHypothesis, last, List.replicate_succ',
        List.flatten_append, List.flatten_singleton]

/-- A stretch contains a whole turn between any two passages of the origin that follow one
another, and goes on after the last one. -/
theorem exists_turns (entry : Nat -> α) (positive : 0 < count) {start length first last : Nat}
    (begins : first = start / count) (ends : last = (start + length) / count)
    (passes : first < last) :
    Exists fun before => Exists fun after => after ≠ [] ∧
      stretch entry count (start + 1) length =
        before ++ (List.replicate (last - first - 1) ((List.range count).map entry)).flatten ++
          after := by
  -- The stretch splits at the first and at the last passage.
  have enter : start + 1 ≤ (first + 1) * count := Nat.lt_mul_of_div_lt (by omega) positive
  have leave : last * count ≤ start + length := ends ▸ Nat.div_mul_le_self (start + length) count
  have between : (first + 1) * count + (last - first - 1) * count = last * count := by
    have turns : first + 1 + (last - first - 1) = last := by omega
    rw [← Nat.add_mul, turns]
  rcases Nat.exists_eq_add_of_le enter with ⟨lead, first_passage⟩
  rcases Nat.exists_eq_add_of_le leave with ⟨rest, last_passage⟩
  have split : length = lead + (last - first - 1) * count + (rest + 1) := by omega
  have reached : start + 1 + (lead + (last - first - 1) * count) = last * count := by omega
  refine ⟨stretch entry count (start + 1) lead, stretch entry count (last * count) (rest + 1), ?_, ?_⟩
  · rw [stretch_succ]
    exact List.append_ne_nil_of_right_ne_nil _ (List.cons_ne_nil _ _)
  · rw [split, stretch_add, reached, stretch_add, ← first_passage, stretch_turns]

end

end Machine
end Hub75
