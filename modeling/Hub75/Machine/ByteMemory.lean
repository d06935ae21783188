import Mathlib.Data.BitVec

namespace Hub75
namespace Machine

/-!
# Little-endian words in byte memory

A memory maps addresses of any width to bytes.  Words are read and written in
little-endian order, and addresses wrap around.  A register is such a word, and a
narrower write may hit only some of its bytes, so both operations are described bit by bit:
`bit_store` says which bits of the bytes from an address on a write replaces, and by which bits of
the written word.
-/

/-- The contents of every address. -/
abbrev ByteMemory (w : Nat) := BitVec w -> BitVec 8

namespace ByteMemory

variable {w v : Nat}

/-- The word in `n` bytes from an address on. -/
def load (memory : ByteMemory w) : (n : Nat) -> BitVec w -> BitVec (8 * n)
  | 0, _ => 0
  | n + 1, address => (memory.load n (address + 1#w) ++ memory address).cast (by omega)

/-- Write the low `n` bytes of a word. -/
def store (memory : ByteMemory w) (n : Nat) (address : BitVec w) (word : BitVec v) : ByteMemory w :=
  fun other =>
    let place := (other - address).toNat
    if place < n then word.extractLsb' (8 * place) 8 else memory other

/-- Bit `j` of the bytes from an address on. -/
def bit (memory : ByteMemory w) (address : BitVec w) (j : Nat) : Bool :=
  (memory (address + BitVec.ofNat w (j / 8))).getLsbD (j % 8)

theorem getLsbD_load (memory : ByteMemory w) {n : Nat} (address : BitVec w) {j : Nat}
    (inside : j < 8 * n) : (memory.load n address).getLsbD j = memory.bit address j := by
  induction n generalizing address j with
  | zero => exact absurd inside (Nat.not_lt_zero j)
  | succ n inductionHypothesis =>
      rw [load, BitVec.getLsbD_cast, BitVec.getLsbD_append]
      by_cases first : j < 8
      · have quotient : j / 8 = 0 := Nat.div_eq_of_lt first
        have remainder : j % 8 = j := Nat.mod_eq_of_lt first
        simp only [first, if_true, bit, quotient, remainder, BitVec.add_zero]
      · have quotient : j / 8 = 1 + (j - 8) / 8 := by omega
        have remainder : j % 8 = (j - 8) % 8 := by omega
        simp only [first, if_false]
        rw [inductionHypothesis (address + 1#w) (by omega), bit, bit, quotient, remainder,
          BitVec.ofNat_add, BitVec.add_assoc]

/-- How far an address lies behind another one. -/
theorem toNat_sub_offset (address : BitVec w) {place offset : Nat} (placed : place < 2 ^ w)
    (started : offset < 2 ^ w) :
    (address + BitVec.ofNat w place - (address + BitVec.ofNat w offset)).toNat =
      if offset ≤ place then place - offset else 2 ^ w + place - offset := by
  rw [add_sub_add_left_eq_sub, BitVec.toNat_sub, BitVec.toNat_ofNat, BitVec.toNat_ofNat,
    Nat.mod_eq_of_lt placed, Nat.mod_eq_of_lt started]
  split
  · next behind =>
      have wrapped : 2 ^ w - offset + place = place - offset + 2 ^ w := by omega
      rw [wrapped, Nat.add_mod_right, Nat.mod_eq_of_lt (by omega)]
  · next before =>
      have exact_sum : 2 ^ w - offset + place = 2 ^ w + place - offset := by omega
      rw [exact_sum, Nat.mod_eq_of_lt (by omega)]

/-- A write replaces the bits of its own bytes, and no others. -/
theorem bit_store (memory : ByteMemory w) (address : BitVec w) (word : BitVec v)
    {n offset j : Nat} (room : offset + n ≤ 2 ^ w) (nonempty : 0 < n) (inside : j / 8 < 2 ^ w) :
    (memory.store n (address + BitVec.ofNat w offset) word).bit address j =
      if 8 * offset ≤ j ∧ j < 8 * (offset + n) then word.getLsbD (j - 8 * offset)
      else memory.bit address j := by
  rw [bit, store, toNat_sub_offset address inside (by omega)]
  by_cases behind : offset ≤ j / 8
  · by_cases within : j / 8 - offset < n
    · have place : 8 * (j / 8 - offset) + j % 8 = j - 8 * offset := by omega
      have low : j % 8 < 8 := Nat.mod_lt j (by decide)
      rw [if_pos behind, if_pos within, if_pos (by omega), BitVec.getLsbD_extractLsb', place]
      simp only [low, decide_true, Bool.true_and]
    · rw [if_pos behind, if_neg within, if_neg (by omega), bit]
  · rw [if_neg behind, if_neg (by omega), if_neg (by omega), bit]

/-- What was written is what is read. -/
theorem load_store (memory : ByteMemory w) {n : Nat} (address : BitVec w) (word : BitVec (8 * n))
    (room : n ≤ 2 ^ w) : (memory.store n address word).load n address = word := by
  apply BitVec.eq_of_getLsbD_eq
  intro j inside
  rw [getLsbD_load _ address inside]
  have stored : (memory.store n (address + BitVec.ofNat w 0) word).bit address j =
      if 8 * 0 ≤ j ∧ j < 8 * (0 + n) then word.getLsbD (j - 8 * 0) else memory.bit address j :=
    bit_store memory address word (by omega) (by omega) (by omega)
  rw [if_pos (by omega)] at stored
  simpa using stored

end ByteMemory
end Machine
end Hub75
