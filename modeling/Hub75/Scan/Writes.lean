import Hub75.Driver.Panel

namespace Hub75
namespace Driver

open Machine

/-!
# A picture on the wire

A picture is streamed segment by segment, each as often as its backend passes it, and
every word of a segment is one write to the output data register.  A word that the
channel reads from a buffer is a word of the picture the buffer contains, as long as
the segment lies inside the buffer.
-/

/-- The writes that stream one segment of a picture. -/
def Layout.segmentWrites (layout : Layout) (wordSize : WordSize) (target : Addr)
    (picture : ByteMemory 32) (i : Nat) : List Write :=
  (List.range (layout.len i / wordSize.bytes)).map
    (Write.ofMemory picture wordSize target (layout.offset i))

/-- The writes of one frame of the plain backend: every segment as often as its cursor
passes it. -/
def Layout.frameWrites (layout : Layout) (wordSize : WordSize) (target : Addr)
    (picture : ByteMemory 32) : List Write :=
  (weighted layout.passes layout.count).flatMap (layout.segmentWrites wordSize target picture)

/-- The segments lie inside the framebuffer, whose size is given. -/
def Layout.Within (layout : Layout) (size : Nat) : Prop :=
  forall i, i < layout.count -> (layout.offset i).toNat + layout.len i ≤ size

/-- A word inside a buffer is a word of its contents. -/
theorem Write.ofMemory_contents (memory : ByteMemory 32) {size place : Nat} {base offset : Addr}
    (wordSize : WordSize) (target : Addr)
    (inside : offset.toNat + (place + 1) * wordSize.bytes ≤ size) :
    Write.ofMemory (memory.contents size base) wordSize target offset place =
      Write.ofMemory memory wordSize target (base + offset) place := by
  have small : (offset + BitVec.ofNat 32 (place * wordSize.bytes)).toNat ≤
      offset.toNat + place * wordSize.bytes := by
    rw [BitVec.toNat_add, BitVec.toNat_ofNat]
    exact (Nat.mod_le _ _).trans (Nat.add_le_add_left (Nat.mod_le _ _) _)
  have room : (offset + BitVec.ofNat 32 (place * wordSize.bytes)).toNat + wordSize.bytes ≤ size := by
    rw [Nat.succ_mul] at inside
    omega
  unfold Write.ofMemory
  rw [ByteMemory.load_contents memory room, BitVec.add_assoc]

variable {layout : Layout} {wordSize : WordSize} {target : Addr} {size : Nat}

theorem Layout.length_segmentWrites (picture : ByteMemory 32) (i : Nat) :
    (layout.segmentWrites wordSize target picture i).length = layout.len i / wordSize.bytes := by
  unfold segmentWrites
  rw [List.length_map, List.length_range]

/-- Word `place` of a segment, where the buffer at `base` contains the picture. -/
theorem Layout.segmentWrites_getElem? (within : layout.Within size) {i place : Nat}
    (active : i < layout.count) (inside : place < layout.len i / wordSize.bytes)
    (memory : ByteMemory 32) (base : Addr) :
    (layout.segmentWrites wordSize target (memory.contents size base) i)[place]? =
      some (Write.ofMemory memory wordSize target (base + layout.offset i) place) := by
  have room : (place + 1) * wordSize.bytes ≤ layout.len i :=
    (Nat.mul_le_mul_right _ inside).trans (Nat.div_mul_le_self _ _)
  have within_buffer := within i active
  unfold segmentWrites
  rw [List.getElem?_map, List.getElem?_range inside, Option.map_some,
    Write.ofMemory_contents memory wordSize target (by omega)]

/-! ## Two buffers for the examples -/

theorem Layout.twoSegments_within : Layout.twoSegments.Within 128 := by
  intro i _
  change (if i = 0 then (0 : Addr) else 64).toNat + 64 ≤ 128
  split <;> decide

theorem exampleBuffers_apart :
    [0x20000000, (0x20002000 : Addr)].Pairwise (ByteMemory.Apart 128) := by
  refine List.pairwise_pair.mpr (ByteMemory.apart_of_distance ?_ ?_) <;> decide

end Driver
end Hub75
