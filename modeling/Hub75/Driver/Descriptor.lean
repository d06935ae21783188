import Hub75.Driver.Platform

namespace Hub75
namespace Driver

/-!
# Descriptors of the GPDMA linked list

The two descriptor types belong to embassy-stm32.  Their fields are the register
words that the channel loads, and both share the part called `Item`, whose
source address is the only word this driver ever changes.  `Descriptor` is
access to that shared part.

How `new_write` encodes a transfer into register words, and how the channel
decodes them, is not in this repository.  `ItemApi` stands for the encoding
functions and `Reading` for the decoding; `Lawful` collects the documented
behaviour that relates them.  It is assumed only where it is named.
-/

/-- The register words common to all descriptors. -/
structure Item where
  tr1 : BitVec 32
  tr2 : BitVec 32
  br1 : BitVec 32
  sar : Addr
  dar : Addr
deriving DecidableEq, Repr

structure LinearItem where
  item : Item
  llr : BitVec 32
deriving DecidableEq, Repr

structure TwoDItem where
  item : Item
  tr3 : BitVec 32
  br2 : BitVec 32
  llr : BitVec 32
deriving DecidableEq, Repr

def zeroedItem : Item := ⟨0, 0, 0, 0, 0⟩

def zeroedLinearItem : LinearItem := ⟨zeroedItem, 0⟩

def zeroedTwoDItem : TwoDItem := ⟨zeroedItem, 0, 0, 0⟩

/-- Access to the shared part of a descriptor. -/
class Descriptor (I : Type) where
  item : I -> Item
  withItem : I -> Item -> I
  item_withItem : forall d shared, item (withItem d shared) = shared
  withItem_item : forall d, withItem d (item d) = d
  withItem_withItem : forall d first second,
    withItem (withItem d first) second = withItem d second

instance : Descriptor LinearItem where
  item := LinearItem.item
  withItem d shared := { d with item := shared }
  item_withItem _ _ := rfl
  withItem_item _ := rfl
  withItem_withItem _ _ _ := rfl

instance : Descriptor TwoDItem where
  item := TwoDItem.item
  withItem d shared := { d with item := shared }
  item_withItem _ _ := rfl
  withItem_item _ := rfl
  withItem_withItem _ _ _ := rfl

namespace Descriptor

variable {I : Type} [Descriptor I]

def sar (d : I) : Addr := (item d).sar

/-- The descriptor with its source address replaced. -/
def setSar (d : I) (address : Addr) : I := withItem d { item d with sar := address }

@[simp] theorem sar_setSar (d : I) (address : Addr) : sar (setSar d address) = address := by
  unfold sar setSar
  rw [item_withItem]

@[simp] theorem setSar_setSar (d : I) (first second : Addr) :
    setSar (setSar d first) second = setSar d second := by
  unfold setSar
  rw [item_withItem, withItem_withItem]

@[simp] theorem setSar_sar (d : I) : setSar d (sar d) = d := withItem_item d

/-- `item.item.sar = item.item.sar.wrapping_add(delta as u32)`. -/
def shiftSar (delta : Addr) (d : I) : I := setSar d (sar d + delta)

end Descriptor

/-! ## Encoding and decoding -/

/-- `TransferCompleteMode` of embassy-stm32. -/
inductive TransferCompleteMode
  | eachBlock
  | each2DBlock
  | eachLinkedListItem
  | lastLinkedListItem
deriving DecidableEq, Repr

/-- The configuration of a linear item; the fields that keep their default are
left to `newWrite`. -/
structure LinearItemConfig where
  transferCompleteMode : TransferCompleteMode
deriving DecidableEq, Repr

/-- The configuration of a 2D item, in the same manner. -/
structure TwoDConfig where
  linear : LinearItemConfig
  blockRepeatCount : Nat
  blockSrcAddrOffset : Int
deriving DecidableEq, Repr

/-- The functions of embassy-stm32 that write descriptors.  The arguments of
`newWrite` are the request, the source buffer with its number of elements and
their width, the peripheral address, and the configuration. -/
structure ItemApi (Config I : Type) where
  newWrite : Nat -> Addr -> Nat -> WordSize -> Addr -> Config -> Except Panic I
  linkTo : I -> BitVec 16 -> I

/-- What the channel reads in the register words of a descriptor. -/
structure Reading (I : Type) where
  blockBytes : I -> Nat
  blockRepeatCount : I -> Nat
  blockSrcAddrOffset : I -> Int
  transferCompleteMode : I -> TransferCompleteMode
  linkOffset : I -> BitVec 16

/-- What a configuration asks of the channel. -/
structure BlockPlan where
  transferCompleteMode : TransferCompleteMode
  blockRepeatCount : Nat
  blockSrcAddrOffset : Int

/-- A linear item transfers one block. -/
def LinearItemConfig.plan (config : LinearItemConfig) : BlockPlan :=
  ⟨config.transferCompleteMode, 0, 0⟩

def TwoDConfig.plan (config : TwoDConfig) : BlockPlan :=
  ⟨config.linear.transferCompleteMode, config.blockRepeatCount, config.blockSrcAddrOffset⟩

/-- The largest block and the largest address offset the registers can hold. -/
def maxBlockBytes : Nat := 65535

/-- A plan the registers can hold. -/
def BlockPlan.Fits (plan : BlockPlan) : Prop :=
  plan.blockRepeatCount < 2048 ∧ plan.blockSrcAddrOffset.natAbs ≤ maxBlockBytes

instance (plan : BlockPlan) : Decidable plan.Fits := inferInstanceAs (Decidable (_ ∧ _))

/-- The documented behaviour of the encoding functions.  A nonempty block that
fits the registers is encoded, what is encoded is read back, and the source
address occupies its own register word.  Linking replaces the link and nothing
else, and the two lowest bits of a link are not stored. -/
structure Lawful {Config I : Type} [Descriptor I] (api : ItemApi Config I) (reading : Reading I)
    (plan : Config -> BlockPlan) : Prop where
  newWrite_ok : forall request source elements width target config,
    0 < elements -> elements * width.bytes ≤ maxBlockBytes -> (plan config).Fits ->
    Exists fun d => api.newWrite request source elements width target config = .ok d
  newWrite_sar : forall request source elements width target config d,
    api.newWrite request source elements width target config = .ok d -> Descriptor.sar d = source
  newWrite_other : forall request source other elements width target config d,
    api.newWrite request source elements width target config = .ok d ->
    api.newWrite request other elements width target config = .ok (Descriptor.setSar d other)
  newWrite_reads : forall request source elements width target config d,
    api.newWrite request source elements width target config = .ok d ->
    reading.blockBytes d = elements * width.bytes ∧
      reading.blockRepeatCount d = (plan config).blockRepeatCount ∧
      reading.blockSrcAddrOffset d = (plan config).blockSrcAddrOffset ∧
      reading.transferCompleteMode d = (plan config).transferCompleteMode
  linkTo_sar : forall d offset, Descriptor.sar (api.linkTo d offset) = Descriptor.sar d
  linkTo_setSar : forall d offset address,
    api.linkTo (Descriptor.setSar d address) offset =
      Descriptor.setSar (api.linkTo d offset) address
  linkTo_reads : forall d offset,
    reading.blockBytes (api.linkTo d offset) = reading.blockBytes d ∧
      reading.blockRepeatCount (api.linkTo d offset) = reading.blockRepeatCount d ∧
      reading.blockSrcAddrOffset (api.linkTo d offset) = reading.blockSrcAddrOffset d ∧
      reading.transferCompleteMode (api.linkTo d offset) = reading.transferCompleteMode d ∧
      reading.linkOffset (api.linkTo d offset) = offset &&& 0xFFFC

/-! ## Addresses of descriptors -/

/-- The address of item `i` in a table at `base` of items of `size` bytes. -/
def itemAddress (base : Addr) (size i : Nat) : Addr := base + BitVec.ofNat 32 (size * i)

/-- `item_offset`: the address truncated to 16 bits. -/
def itemOffset (address : Addr) : BitVec 16 := address.setWidth 16

/-- The address the channel forms from a link: the upper half of the linked-list
base register, and the offset of the link. -/
def linkAddress (base : Addr) (offset : BitVec 16) : Addr :=
  base.extractLsb' 16 16 ++ offset

end Driver
end Hub75
