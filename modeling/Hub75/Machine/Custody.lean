import Mathlib.Data.List.Nodup
import Mathlib.Logic.Relation

namespace Hub75
namespace Machine

/-!
# Custody of exchanged buffers

Double buffering hands exclusive references back and forth between a caller
and a display engine.  This module keeps only the question of who holds which
buffer.  A buffer is shown, queued to be shown next, due back to the caller of
the exchange in progress, held by an exchange that has not queued it yet, or in
the caller's hand.  A buffer in none of these places is lost: an abandoned
exchange gives its buffer to nobody.

The moves below only relocate or lose buffers.  `Moves.exclusive` is the one
consequence used elsewhere: buffers that start in different places, without
repetition, stay so.  No move inspects what a buffer contains or how the
engine reads it.
-/

/-- The places a buffer can be in. -/
structure Custody (Buffer : Type) where
  shown : Buffer
  queued : Option Buffer
  due : Option Buffer
  held : Option Buffer
  hand : List Buffer

namespace Custody

variable {Buffer : Type}

/-- Every buffer that is in some place, with its multiplicity. -/
def tokens (custody : Custody Buffer) : List Buffer :=
  custody.shown ::
    (custody.queued.toList ++ (custody.due.toList ++ (custody.held.toList ++ custody.hand)))

/-- No buffer is in two places, and none is twice in the hand. -/
def Exclusive (custody : Custody Buffer) : Prop :=
  custody.tokens.Nodup

section Moves

variable [DecidableEq Buffer]

/-- One relocation.  `abandon` and `forget` give up an exchange before and
after it queued its buffer; what is queued stays queued, because the engine is
not told. -/
inductive Move : Custody Buffer -> Custody Buffer -> Prop
  | call {custody : Custody Buffer} {buffer : Buffer} :
      custody.held = none -> buffer ∈ custody.hand ->
      Move custody { custody with held := some buffer, hand := custody.hand.erase buffer }
  | queue {custody : Custody Buffer} {buffer : Buffer} :
      custody.held = some buffer ->
      Move custody { custody with held := none, due := none, queued := some buffer }
  | flip {custody : Custody Buffer} {buffer : Buffer} :
      custody.queued = some buffer ->
      Move custody { custody with shown := buffer, queued := none, due := some custody.shown }
  | collect {custody : Custody Buffer} {buffer : Buffer} :
      custody.due = some buffer ->
      Move custody { custody with due := none, hand := buffer :: custody.hand }
  | abandon {custody : Custody Buffer} :
      Move custody { custody with held := none }
  | forget {custody : Custody Buffer} :
      Move custody { custody with due := none }

/-- Several relocations, possibly none. -/
abbrev Moves : Custody Buffer -> Custody Buffer -> Prop :=
  Relation.ReflTransGen Move

/-- A move creates no copy of any buffer. -/
theorem Move.count_le {before after : Custody Buffer} (move : Move before after)
    (buffer : Buffer) : after.tokens.count buffer ≤ before.tokens.count buffer := by
  cases move with
  | call free owned =>
      have taken := (List.perm_cons_erase owned).count_eq buffer
      simp only [tokens, free, Option.toList, List.count_cons, List.count_append, List.count_nil]
        at taken ⊢
      omega
  | queue held =>
      simp only [tokens, held, Option.toList, List.count_cons, List.count_append, List.count_nil]
      omega
  | flip queued =>
      simp only [tokens, queued, Option.toList, List.count_cons, List.count_append, List.count_nil]
      omega
  | collect due =>
      simp only [tokens, due, Option.toList, List.count_cons, List.count_append, List.count_nil]
      omega
  | abandon =>
      simp only [tokens, Option.toList, List.count_cons, List.count_append, List.count_nil]
      omega
  | forget =>
      simp only [tokens, Option.toList, List.count_cons, List.count_append, List.count_nil]
      omega

theorem Move.exclusive {before after : Custody Buffer} (move : Move before after)
    (exclusive : before.Exclusive) : after.Exclusive := by
  apply List.nodup_iff_count_le_one.mpr
  intro buffer
  exact Nat.le_trans (move.count_le buffer) (List.nodup_iff_count_le_one.mp exclusive buffer)

/-- Exclusive custody survives every sequence of moves. -/
theorem Moves.exclusive {before after : Custody Buffer} (moves : Moves before after)
    (exclusive : before.Exclusive) : after.Exclusive := by
  induction moves with
  | refl => exact exclusive
  | tail _ move inductionHypothesis => exact move.exclusive inductionHypothesis

/-- A move brings in no new buffer. -/
theorem Move.tokens_subset {before after : Custody Buffer} (move : Move before after) :
    after.tokens ⊆ before.tokens := by
  intro buffer member
  exact List.count_pos_iff.mp
    (Nat.lt_of_lt_of_le (List.count_pos_iff.mpr member) (move.count_le buffer))

theorem Moves.tokens_subset {before after : Custody Buffer} (moves : Moves before after) :
    after.tokens ⊆ before.tokens := by
  induction moves with
  | refl => exact List.Subset.refl _
  | tail _ move inductionHypothesis => exact List.Subset.trans move.tokens_subset inductionHypothesis

end Moves

/-- The number of buffers that are in some place. -/
theorem length_tokens (custody : Custody Buffer) :
    custody.tokens.length = custody.queued.toList.length + custody.due.toList.length +
      custody.held.toList.length + custody.hand.length + 1 := by
  simp only [tokens, List.length_cons, List.length_append]
  omega

section Places

variable {custody : Custody Buffer} {buffer : Buffer}

theorem shown_mem_tokens : custody.shown ∈ custody.tokens := List.mem_cons_self

theorem queued_mem_tokens (queued : custody.queued = some buffer) : buffer ∈ custody.tokens := by
  refine List.mem_cons_of_mem _ (List.mem_append_left _ ?_)
  rw [queued]
  exact List.mem_singleton_self buffer

theorem held_mem_tokens (held : custody.held = some buffer) : buffer ∈ custody.tokens := by
  refine List.mem_cons_of_mem _ (List.mem_append_right _ (List.mem_append_right _
    (List.mem_append_left _ ?_)))
  rw [held]
  exact List.mem_singleton_self buffer

theorem hand_subset_tokens : custody.hand ⊆ custody.tokens :=
  fun _ member => List.mem_cons_of_mem _ (List.mem_append_right _ (List.mem_append_right _
    (List.mem_append_right _ member)))

end Places

namespace Exclusive

variable {custody : Custody Buffer}

theorem hand_nodup (exclusive : custody.Exclusive) : custody.hand.Nodup :=
  (List.nodup_append.mp (List.nodup_append.mp (List.nodup_append.mp
    (List.nodup_cons.mp exclusive).2).2.1).2.1).2.1

/-- The shown buffer is not in the caller's hand. -/
theorem shown_notMem_hand (exclusive : custody.Exclusive) : custody.shown ∉ custody.hand :=
  fun owned => (List.nodup_cons.mp exclusive).1
    (List.mem_append_right _ (List.mem_append_right _ (List.mem_append_right _ owned)))

/-- The queued buffer is neither shown nor still in the hand. -/
theorem queued_fresh (exclusive : custody.Exclusive) {buffer : Buffer}
    (queued : custody.queued = some buffer) :
    buffer ≠ custody.shown ∧ buffer ∉ custody.hand := by
  have queuedMember : buffer ∈ custody.queued.toList := by
    rw [queued]
    exact List.mem_singleton_self buffer
  constructor
  · intro same
    apply (List.nodup_cons.mp exclusive).1
    rw [← same]
    exact List.mem_append_left _ queuedMember
  · intro owned
    have separate := (List.nodup_append.mp (List.nodup_cons.mp exclusive).2).2.2
    exact separate buffer queuedMember buffer
      (List.mem_append_right _ (List.mem_append_right _ owned)) rfl

/-- The held buffer is not in the hand any more. -/
theorem held_notMem_hand (exclusive : custody.Exclusive) {buffer : Buffer}
    (held : custody.held = some buffer) : buffer ∉ custody.hand := by
  have heldMember : buffer ∈ custody.held.toList := by
    rw [held]
    exact List.mem_singleton_self buffer
  have separate := (List.nodup_append.mp (List.nodup_append.mp (List.nodup_append.mp
    (List.nodup_cons.mp exclusive).2).2.1).2.1).2.2
  exact fun owned => separate buffer heldMember buffer owned rfl

/-- The buffer that is due is neither shown nor already in the hand. -/
theorem due_fresh (exclusive : custody.Exclusive) {buffer : Buffer}
    (due : custody.due = some buffer) : buffer ≠ custody.shown ∧ buffer ∉ custody.hand := by
  have dueMember : buffer ∈ custody.due.toList := by
    rw [due]
    exact List.mem_singleton_self buffer
  constructor
  · intro same
    apply (List.nodup_cons.mp exclusive).1
    rw [← same]
    exact List.mem_append_right _ (List.mem_append_left _ dueMember)
  · intro owned
    have separate := (List.nodup_append.mp (List.nodup_append.mp
      (List.nodup_cons.mp exclusive).2).2.1).2.2
    exact separate buffer dueMember buffer (List.mem_append_right _ owned) rfl

end Exclusive
end Custody
end Machine
end Hub75
