import Hub75.Driver.Descriptor
import Hub75.Machine.Observation

namespace Hub75
namespace Driver
namespace Gpdma

/-!
# The channel on a descriptor table

`GpdmaSwap` takes it for granted that the channel walks the active items in a
circle.  Here the walk is taken apart: the channel holds the registers of one
item, transfers one block after the other, moves its source address as the
registers say, and finally forms the address of the next item from its link.
What it finds there depends on the addresses of the items in memory, so a link
can lead to any item or to none.

This is the documented behaviour of the hardware; the table is constant while it
is observed.
-/

variable {I : Type} [Descriptor I] {capacity : Nat}

/-- The slot of the item that starts at `address`, in a table at `base`. -/
def slotAt (base : Addr) (size capacity : Nat) (address : Addr) : Option Nat :=
  (List.range capacity).find? fun i => decide (itemAddress base size i = address)

/-- The slot that the link of an item leads to. -/
def followLink (reading : Reading I) (base : Addr) (size capacity : Nat) (d : I) : Option Nat :=
  slotAt base size capacity (linkAddress base (reading.linkOffset d))

/-- The slot after `i` as the links have it. -/
def linkedSlot (reading : Reading I) (base : Addr) (size : Nat) (items : Vector I capacity)
    (i : Nat) : Option Nat :=
  items[i]?.bind (followLink reading base size capacity)

/-- The registers of the item in flight, the completed block repeats, and the
present source address. -/
structure Channel (I : Type) where
  registers : I
  repeats : Nat
  source : Addr

namespace Channel

/-- An item as it is loaded. -/
def load (d : I) : Channel I := ⟨d, 0, Descriptor.sar d⟩

/-- The source block being transferred: address and byte length. -/
def block (reading : Reading I) (channel : Channel I) : Addr × Nat :=
  (channel.source, reading.blockBytes channel.registers)

/-- The end of a block. -/
def step (reading : Reading I) (base : Addr) (size : Nat) (items : Vector I capacity)
    (channel : Channel I) : Option (Channel I) :=
  if channel.repeats < reading.blockRepeatCount channel.registers then
    some { channel with
      repeats := channel.repeats + 1
      source := channel.source + BitVec.ofNat 32 (reading.blockBytes channel.registers) +
        BitVec.ofInt 32 (reading.blockSrcAddrOffset channel.registers) }
  else
    (followLink reading base size capacity channel.registers).bind fun i => items[i]?.map load

end Channel

/-- The first `k` blocks of a channel started on the first item of the table. -/
def channelBlocks (reading : Reading I) (base : Addr) (size : Nat) (items : Vector I capacity)
    (k : Nat) : Option (List (Addr × Nat)) :=
  items[0]?.bind fun d =>
    Machine.observe (Channel.step reading base size items) (some ∘ Channel.block reading)
      (Channel.load d) k

end Gpdma
end Driver
end Hub75
