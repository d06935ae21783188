import Mathlib.Data.List.Pairwise
import Hub75.Machine.ByteMemory

namespace Hub75
namespace Machine
namespace ByteMemory

/-!
# Regions of a byte memory

A region is given by its base and its size, and an address belongs to it by its
distance from the base, so a region may wrap around the end of the memory.  The
contents of a region are again a byte memory, addressed from the base on, with
zeros beyond the region, so a word inside the region is a word of the contents.

The frame rule is `contents_store`: a write into a region leaves the contents of
every region apart from it as they were.
-/

variable {w v : Nat} {size : Nat} {base other offset : BitVec w}

/-- The address lies in the region. -/
def InRegion (size : Nat) (base address : BitVec w) : Prop := (address - base).toNat < size

instance (size : Nat) (base address : BitVec w) : Decidable (InRegion size base address) :=
  inferInstanceAs (Decidable (_ < _))

/-- Two regions of one size have no address in common. -/
def Apart (size : Nat) (base other : BitVec w) : Prop :=
  forall address, InRegion size base address -> ¬ InRegion size other address

theorem Apart.symm (apart : Apart size base other) : Apart size other base :=
  fun address second first => apart address first second

instance : Std.Symm (Apart size : BitVec w -> BitVec w -> Prop) := ⟨fun _ _ => Apart.symm⟩

/-- Regions do not overlap when each base is at least `size` behind the other one. -/
theorem apart_of_distance (behind : size ≤ (other - base).toNat)
    (before : size ≤ (base - other).toNat) : Apart size base other := by
  intro address first second
  unfold InRegion at first second
  have split : address - base = (address - other) + (other - base) :=
    (sub_add_sub_cancel address other base).symm
  have opposite : base - other = -(other - base) := (neg_sub other base).symm
  rw [split, BitVec.toNat_add] at first
  rw [opposite, BitVec.toNat_neg] at before
  have bound := (other - base).isLt
  have small := (address - other).isLt
  by_cases wraps : (address - other).toNat + (other - base).toNat < 2 ^ w
  · rw [Nat.mod_eq_of_lt wraps] at first
    omega
  · have before_le : (2 ^ w - (other - base).toNat) % 2 ^ w ≤ 2 ^ w - (other - base).toNat :=
      Nat.mod_le _ _
    omega

/-- The bytes of a region, addressed from its base on. -/
def contents (memory : ByteMemory w) (size : Nat) (base : BitVec w) : ByteMemory w :=
  fun offset => if offset.toNat < size then memory (base + offset) else 0

/-- A word inside the region is a word of its contents. -/
theorem load_contents (memory : ByteMemory w) {n : Nat} (inside : offset.toNat + n ≤ size) :
    (memory.contents size base).load n offset = memory.load n (base + offset) := by
  induction n generalizing offset with
  | zero => rfl
  | succ n inductionHypothesis =>
      have here : (memory.contents size base) offset = memory (base + offset) := if_pos (by omega)
      have next : (offset + 1#w).toNat ≤ offset.toNat + 1 := by
        rw [BitVec.toNat_add]
        have one : (1#w).toNat ≤ 1 := by
          rw [BitVec.toNat_ofNat]
          exact Nat.mod_le _ _
        exact (Nat.mod_le _ _).trans (Nat.add_le_add_left one _)
      rw [load, load, inductionHypothesis (by omega), here, BitVec.add_assoc]

/-- Writing into a region keeps the contents of a region apart from it. -/
theorem contents_store (memory : ByteMemory w) (apart : Apart size base other) {n : Nat}
    (word : BitVec v) (inside : offset.toNat + n ≤ size) :
    (memory.store n (base + offset) word).contents size other = memory.contents size other := by
  funext place
  unfold contents
  split
  · next placed =>
      unfold store
      rw [if_neg]
      intro written
      have distance : other + place - base = (other + place - (base + offset)) + offset := by
        rw [← BitVec.sub_sub, BitVec.sub_add_cancel]
      have inBase : InRegion size base (other + place) := by
        unfold InRegion
        rw [distance, BitVec.toNat_add]
        have reduced := Nat.mod_le
          ((other + place - (base + offset)).toNat + offset.toNat) (2 ^ w)
        omega
      refine apart _ inBase ?_
      unfold InRegion
      rw [BitVec.add_comm, BitVec.add_sub_cancel]
      exact placed
  · rfl

/-- Among regions apart from each other, writing into an owned one keeps the contents of
those that are not owned. -/
theorem contents_store_owned (memory : ByteMemory w) {regions owned : List (BitVec w)}
    (apart : regions.Pairwise (Apart size)) (subset : owned ⊆ regions) (own : base ∈ owned)
    {n : Nat} (word : BitVec v) (inside : offset.toNat + n ≤ size) (member : other ∈ regions)
    (unowned : other ∉ owned) :
    (memory.store n (base + offset) word).contents size other = memory.contents size other := by
  have different : base ≠ other := by
    intro same
    subst same
    exact unowned own
  exact memory.contents_store (apart.forall (subset own) member different) word inside

end ByteMemory
end Machine
end Hub75
