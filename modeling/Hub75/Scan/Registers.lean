import Hub75.Driver.Descriptor

namespace Hub75
namespace Driver

/-!
# A concrete register encoding

The encoding functions are a parameter of the model.  This module gives one pair
of encodings, on the register layout of the GPDMA, and proves the assumed laws
for it.  The laws are therefore satisfiable, and executable instances of the
later theorems exist.  No theorem about the driver depends on the layout chosen
here.
-/

namespace Registers

/-- The two-bit fields of the transfer registers. -/
def widthLog2 : WordSize -> Nat
  | .oneByte => 0
  | .twoBytes => 1
  | .fourBytes => 2

def tcem : TransferCompleteMode -> Nat
  | .eachBlock => 0
  | .each2DBlock => 1
  | .eachLinkedListItem => 2
  | .lastLinkedListItem => 3

def tcemOf : Nat -> TransferCompleteMode
  | 0 => .eachBlock
  | 1 => .each2DBlock
  | 2 => .eachLinkedListItem
  | _ => .lastLinkedListItem

theorem tcemOf_tcem (mode : TransferCompleteMode) : tcemOf (tcem mode) = mode := by
  cases mode <;> rfl

theorem tcem_lt (mode : TransferCompleteMode) : tcem mode < 4 := by
  cases mode <;> decide

/-- The shared words of an item: the source is incremented by the channel, the
destination requests the transfers, and the block length is in bytes. -/
def item (request : Nat) (source : Addr) (bytes : Nat) (width : WordSize) (target : Addr)
    (plan : BlockPlan) : Item where
  tr1 := BitVec.ofNat 32 (widthLog2 width + 0x8 + widthLog2 width * 0x10000)
  tr2 := BitVec.ofNat 32 (request % 0x100 + 0x400 + tcem plan.transferCompleteMode * 0x40000000)
  br1 := BitVec.ofNat 32 (bytes + plan.blockRepeatCount * 0x10000 +
    if plan.blockSrcAddrOffset < 0 then 0x40000000 else 0)
  sar := source
  dar := target

def transferCompleteMode (words : Item) : TransferCompleteMode :=
  tcemOf (words.tr2.toNat / 0x40000000)

def blockBytes (words : Item) : Nat := words.br1.toNat % 0x10000

def blockRepeatCount (words : Item) : Nat := words.br1.toNat / 0x10000 % 0x800

/-- The magnitude is in a register of its own, the sign in the first one. -/
def blockSrcAddrOffset (words : Item) (br2 : BitVec 32) : Int :=
  if words.br1.toNat / 0x40000000 % 2 = 1 then -(br2.toNat % 0x10000 : Nat)
  else (br2.toNat % 0x10000 : Nat)

section

variable {request bytes : Nat} {source target : Addr} {width : WordSize} {plan : BlockPlan}

theorem transferCompleteMode_item :
    transferCompleteMode (item request source bytes width target plan) =
      plan.transferCompleteMode := by
  have small := tcem_lt plan.transferCompleteMode
  have field : (item request source bytes width target plan).tr2.toNat / 0x40000000 =
      tcem plan.transferCompleteMode := by
    simp only [item, BitVec.toNat_ofNat]
    omega
  rw [transferCompleteMode, field, tcemOf_tcem]

theorem blockBytes_item (short : bytes ≤ maxBlockBytes) (fits : plan.Fits) :
    blockBytes (item request source bytes width target plan) = bytes := by
  have repeats := fits.1
  unfold maxBlockBytes at short
  simp only [blockBytes, item, BitVec.toNat_ofNat]
  split <;> omega

theorem blockRepeatCount_item (short : bytes ≤ maxBlockBytes) (fits : plan.Fits) :
    blockRepeatCount (item request source bytes width target plan) = plan.blockRepeatCount := by
  have repeats := fits.1
  unfold maxBlockBytes at short
  simp only [blockRepeatCount, item, BitVec.toNat_ofNat]
  split <;> omega

theorem blockSrcAddrOffset_item (short : bytes ≤ maxBlockBytes) (fits : plan.Fits) :
    blockSrcAddrOffset (item request source bytes width target plan)
      (BitVec.ofNat 32 plan.blockSrcAddrOffset.natAbs) = plan.blockSrcAddrOffset := by
  have repeats := fits.1
  have magnitude := fits.2
  unfold maxBlockBytes at short magnitude
  simp only [blockSrcAddrOffset, item, BitVec.toNat_ofNat]
  by_cases negative : plan.blockSrcAddrOffset < 0
  · simp only [if_pos negative]
    split <;> omega
  · simp only [if_neg negative]
    split <;> omega

end

/-- The flags of a link register do not reach into its offset. -/
theorem linkOffset_append (flags offset : BitVec 16) :
    (flags ++ offset : BitVec 32).setWidth 16 = offset :=
  BitVec.setWidth_append_eq_right

/-! ## Linear items -/

/-- A linear item has no repeat count and no offset. -/
def linearApi : ItemApi LinearItemConfig LinearItem where
  newWrite request source elements width target config :=
    if elements * width.bytes ≤ maxBlockBytes then
      .ok ⟨item request source (elements * width.bytes) width target config.plan, 0⟩
    else .error .foreign
  linkTo d offset := { d with llr := 0xF801#16 ++ (offset &&& 0xFFFC) }

def linearReading : Reading LinearItem where
  blockBytes d := blockBytes d.item
  blockRepeatCount d := blockRepeatCount d.item
  blockSrcAddrOffset _ := 0
  transferCompleteMode d := transferCompleteMode d.item
  linkOffset d := d.llr.setWidth 16

/-! ## 2D items -/

def twoDApi : ItemApi TwoDConfig TwoDItem where
  newWrite request source elements width target config :=
    if elements * width.bytes ≤ maxBlockBytes ∧ config.plan.Fits then
      .ok ⟨item request source (elements * width.bytes) width target config.plan, 0,
        BitVec.ofNat 32 config.plan.blockSrcAddrOffset.natAbs, 0⟩
    else .error .foreign
  linkTo d offset := { d with llr := 0xFE01#16 ++ (offset &&& 0xFFFC) }

def twoDReading : Reading TwoDItem where
  blockBytes d := blockBytes d.item
  blockRepeatCount d := blockRepeatCount d.item
  blockSrcAddrOffset d := blockSrcAddrOffset d.item d.br2
  transferCompleteMode d := transferCompleteMode d.item
  linkOffset d := d.llr.setWidth 16

theorem linear_lawful : Lawful linearApi linearReading LinearItemConfig.plan where
  newWrite_ok request source elements width target config _ short _ :=
    ⟨_, if_pos short⟩
  newWrite_sar _ _ _ _ _ _ _ written := by
    simp only [linearApi] at written
    split at written
    · cases written
      rfl
    · cases written
  newWrite_other _ _ _ _ _ _ _ _ written := by
    simp only [linearApi] at written ⊢
    split at written
    · next short =>
        cases written
        exact if_pos short
    · cases written
  newWrite_reads request source elements width target config d written := by
    simp only [linearApi] at written
    split at written
    · next short =>
        cases written
        have fits : config.plan.Fits := ⟨Nat.zero_lt_succ _, Nat.zero_le _⟩
        exact ⟨blockBytes_item short fits, blockRepeatCount_item short fits, rfl,
          transferCompleteMode_item⟩
    · cases written
  linkTo_sar _ _ := rfl
  linkTo_setSar _ _ _ := rfl
  linkTo_reads _ _ := ⟨rfl, rfl, rfl, rfl, linkOffset_append _ _⟩

theorem twoD_lawful : Lawful twoDApi twoDReading TwoDConfig.plan where
  newWrite_ok request source elements width target config _ short fits :=
    ⟨_, if_pos ⟨short, fits⟩⟩
  newWrite_sar _ _ _ _ _ _ _ written := by
    simp only [twoDApi] at written
    split at written
    · cases written
      rfl
    · cases written
  newWrite_other _ _ _ _ _ _ _ _ written := by
    simp only [twoDApi] at written ⊢
    split at written
    · next admissible =>
        cases written
        exact if_pos admissible
    · cases written
  newWrite_reads request source elements width target config d written := by
    simp only [twoDApi] at written
    split at written
    · next admissible =>
        cases written
        exact ⟨blockBytes_item admissible.1 admissible.2,
          blockRepeatCount_item admissible.1 admissible.2,
          blockSrcAddrOffset_item admissible.1 admissible.2, transferCompleteMode_item⟩
    · cases written
  linkTo_sar _ _ := rfl
  linkTo_setSar _ _ _ := rfl
  linkTo_reads _ _ := ⟨rfl, rfl, rfl, rfl, linkOffset_append _ _⟩

end Registers
end Driver
end Hub75
