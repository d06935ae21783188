import Hub75.Machine.FallibleLoop

namespace Hub75
namespace Driver

open Machine

/-!
# The target platform

All supported targets are 32-bit: addresses, `usize` and `isize` have 32 bits.
Addresses and the byte deltas between them are kept as 32-bit words, because
their wrap-around matters.  Lengths and counters are natural numbers; where the
source adds, subtracts or multiplies `usize` values whose size nothing bounds,
the operation is one of the checked operations below.

Two build settings change what an operation does.  Overflow checks turn a
wrapping operator into a panic, and debug assertions enable `debug_assert!`.
Every modelled function takes the profile as an argument, so a statement says
for which builds it holds.
-/

/-- A 32-bit address, or an `isize` byte delta in two's complement. -/
abbrev Addr := BitVec 32

instance decidableMemAddr (address : Addr) (addresses : List Addr) :
    Decidable (address ∈ addresses) :=
  inferInstance

/-- The build settings that change the behaviour of the code. -/
structure Profile where
  overflowChecks : Bool
  debugAssertions : Bool
deriving DecidableEq, Repr

/-- `[profile.release]` of the manifest. -/
def Profile.release : Profile := ⟨false, false⟩

/-- Every panic the modelled code can raise, with the values its text names.  The last
four come from the language and from code outside this repository. -/
inductive Panic
  | segmentCountOutOfRange (count : Nat)
  | nullSegmentPointer (index : Nat)
  | advanceBeforeInitialization
  | sourceNotAligned
  | lengthNotMultipleOfTwo
  | dmaWordSize
  | gpdmaWordSize
  | tooManyDescriptors
  | chainSpansBoundary
  | chain2dSpansBoundary
  | repsOutOfRange (index reps : Nat)
  | repsConversion
  | segmentTooLong
  | hub75NotInitialised
  | conversionFailed
  | indexOutOfBounds (index : Nat)
  | arithmeticOverflow
  | foreign
deriving DecidableEq, Repr

/-- `Hub75Error`, the error type of the public interface. -/
inductive Hub75Error
  | pinNotOnSamePort (index : Nat)
  | pinsNotConsecutive (index expected actual : Nat)
  | dma
  | timer
  | notInitialised
deriving DecidableEq, Repr

/-- A call ends early by panicking or by returning an error. -/
inductive Fault
  | panic (panic : Panic)
  | error (error : Hub75Error)
deriving DecidableEq, Repr

/-! ## Assertions -/

def assertThat (condition : Prop) [Decidable condition] (panic : Panic) : Except Panic Unit :=
  if condition then .ok () else .error panic

/-- `debug_assert!`, which a build without debug assertions skips. -/
def debugAssert (profile : Profile) (condition : Prop) [Decidable condition] (panic : Panic) :
    Except Panic Unit :=
  if profile.debugAssertions = true ∧ ¬ condition then .error panic else .ok ()

@[simp] theorem assertThat_eq_ok_iff {condition : Prop} [Decidable condition] {panic : Panic}
    {result : Unit} : assertThat condition panic = .ok result ↔ condition := by
  unfold assertThat
  by_cases holds : condition
  · rw [if_pos holds]
    exact iff_of_true rfl holds
  · rw [if_neg holds]
    exact iff_of_false (fun impossible => nomatch impossible) holds

@[simp] theorem debugAssert_eq_ok_iff {profile : Profile} {condition : Prop}
    [Decidable condition] {panic : Panic} {result : Unit} :
    debugAssert profile condition panic = .ok result ↔
      (profile.debugAssertions = true -> condition) := by
  unfold debugAssert
  by_cases fails : profile.debugAssertions = true ∧ ¬ condition
  · rw [if_pos fails]
    exact iff_of_false (fun impossible => nomatch impossible) (fun holds => fails.2 (holds fails.1))
  · rw [if_neg fails]
    apply iff_of_true rfl
    intro enabled
    by_contra broken
    exact fails ⟨enabled, broken⟩

theorem assertThat_eq_error_iff {condition : Prop} [Decidable condition] {panic fault : Panic} :
    assertThat condition panic = .error fault ↔ ¬ condition ∧ fault = panic := by
  unfold assertThat
  by_cases holds : condition
  · rw [if_pos holds]
    exact iff_of_false (fun impossible => nomatch impossible) fun fails => fails.1 holds
  · rw [if_neg holds, Except.error.injEq]
    exact ⟨fun same => ⟨holds, same.symm⟩, fun fails => fails.2.symm⟩

theorem debugAssert_eq_error_iff {profile : Profile} {condition : Prop} [Decidable condition]
    {panic fault : Panic} :
    debugAssert profile condition panic = .error fault ↔
      profile.debugAssertions = true ∧ ¬ condition ∧ fault = panic := by
  unfold debugAssert
  by_cases fails : profile.debugAssertions = true ∧ ¬ condition
  · rw [if_pos fails, Except.error.injEq]
    exact ⟨fun same => ⟨fails.1, fails.2, same.symm⟩, fun refused => refused.2.2.symm⟩
  · rw [if_neg fails]
    exact iff_of_false (fun impossible => nomatch impossible)
      fun refused => fails ⟨refused.1, refused.2.1⟩

/-! ## `usize` and `isize` operators -/

/-- What an operator does with a mathematical result that needs not fit. -/
def usizeOf (profile : Profile) (value : Int) : Except Panic Nat :=
  if 0 ≤ value ∧ value < 0x100000000 then .ok value.toNat
  else if profile.overflowChecks then .error .arithmeticOverflow
  else .ok (value % 0x100000000).toNat

def usizeAdd (profile : Profile) (a b : Nat) : Except Panic Nat := usizeOf profile (a + b)

def usizeMul (profile : Profile) (a b : Nat) : Except Panic Nat := usizeOf profile (a * b)

def usizeSub (profile : Profile) (a b : Nat) : Except Panic Nat := usizeOf profile (a - b)

theorem usizeOf_eq {profile : Profile} {value : Int} {result : Nat} (same : value = result)
    (fits : result < 0x100000000) : usizeOf profile value = .ok result := by
  unfold usizeOf
  rw [if_pos (by omega), same, Int.toNat_natCast]

theorem usizeAdd_eq {profile : Profile} {a b : Nat} (fits : a + b < 0x100000000) :
    usizeAdd profile a b = .ok (a + b) :=
  usizeOf_eq (by omega) fits

/-- A checked operator panics instead of wrapping. -/
theorem usizeAdd_overflows {profile : Profile} {a b : Nat} (checks : profile.overflowChecks = true)
    (large : 0x100000000 ≤ a + b) : usizeAdd profile a b = .error .arithmeticOverflow := by
  unfold usizeAdd usizeOf
  rw [if_neg (by omega), if_pos checks]

theorem usizeMul_eq {profile : Profile} {a b : Nat} (fits : a * b < 0x100000000) :
    usizeMul profile a b = .ok (a * b) :=
  usizeOf_eq (by rw [Int.natCast_mul]) fits

theorem usizeSub_eq {profile : Profile} {a b : Nat} (ordered : b ≤ a) (fits : a < 0x100000000) :
    usizeSub profile a b = .ok (a - b) :=
  usizeOf_eq (by omega) (by omega)

/-- `new as isize - old as isize`: the two addresses are reinterpreted as signed
words and subtracted with the overflow behaviour of the build. -/
def isizeSub (profile : Profile) (new old : Addr) : Except Panic Addr :=
  if -0x80000000 ≤ new.toInt - old.toInt ∧ new.toInt - old.toInt < 0x80000000 then .ok (new - old)
  else if profile.overflowChecks then .error .arithmeticOverflow
  else .ok (new - old)

/-- A delta that was computed at all is the difference modulo `0x100000000`. -/
theorem isizeSub_eq_ok {profile : Profile} {new old delta : Addr}
    (computed : isizeSub profile new old = .ok delta) : delta = new - old := by
  unfold isizeSub at computed
  split at computed
  · exact (Except.ok.inj computed).symm
  · split at computed
    · cases computed
    · exact (Except.ok.inj computed).symm

/-- Adding the difference of two addresses moves what lies behind the first one behind
the second. -/
theorem add_retarget (old new offset : Addr) : old + offset + (new - old) = new + offset := by
  rw [BitVec.add_comm old, BitVec.add_assoc, BitVec.add_comm old, BitVec.sub_add_cancel,
    BitVec.add_comm]

/-- The opposite difference takes an address back. -/
theorem add_retarget_back (ptr old new : Addr) : ptr + (new - old) + (old - new) = ptr := by
  have behind : old + (ptr - old) = ptr := by
    rw [BitVec.add_comm, BitVec.sub_add_cancel]
  have moved := add_retarget old new (ptr - old)
  rw [behind] at moved
  rw [moved, add_retarget, behind]

/-- Only a buffer and itself have the difference zero. -/
theorem sub_eq_zero_iff {old new : Addr} : new - old = 0 ↔ new = old := by
  rw [BitVec.sub_eq_iff_eq_add]
  exact iff_of_eq (congrArg (new = ·) (BitVec.zero_add old))

/-- `ptr.wrapping_byte_offset(delta)`. -/
def wrappingByteOffset (ptr delta : Addr) : Addr := ptr + delta

/-! ## DMA words -/

/-- `WordSize` of embassy-stm32. -/
inductive WordSize
  | oneByte
  | twoBytes
  | fourBytes
deriving DecidableEq, Repr

def WordSize.bytes : WordSize -> Nat
  | oneByte => 1
  | twoBytes => 2
  | fourBytes => 4

/-- The two word sizes a pin group can have (`Hub75Pins` is sealed). -/
def WordSize.Supported (wordSize : WordSize) : Prop :=
  wordSize = .oneByte ∨ wordSize = .twoBytes

instance (wordSize : WordSize) : Decidable wordSize.Supported :=
  inferInstanceAs (Decidable (_ ∨ _))

/-- What the debug assertions of all backends ask of a source buffer. -/
def SourceChecks (profile : Profile) (wordSize : WordSize) (ptr : Addr) (len : Nat) : Prop :=
  profile.debugAssertions = true -> wordSize = .twoBytes -> ptr.toNat % 2 = 0 ∧ len % 2 = 0

theorem sourceChecks_release (wordSize : WordSize) (ptr : Addr) (len : Nat) :
    SourceChecks Profile.release wordSize ptr len :=
  fun enabled => absurd enabled Bool.false_ne_true

/-- The choice by word size that the kick and both builders make.  A byte port counts
bytes, a halfword port counts halves after two assertions, and there are no others. -/
def withElements {α : Type} (profile : Profile) (refusal : Panic) (ptr : Addr) (len : Nat)
    (wordSize : WordSize) (write : Nat -> Except Panic α) : Except Panic α :=
  match wordSize with
  | .oneByte => write len
  | .twoBytes => do
      debugAssert profile (ptr.toNat % 2 = 0) .sourceNotAligned
      debugAssert profile (len % 2 = 0) .lengthNotMultipleOfTwo
      write (len / 2)
  | .fourBytes => .error refusal

theorem withElements_eq_ok_iff {α : Type} {profile : Profile} {refusal : Panic} {ptr : Addr}
    {len : Nat} {wordSize : WordSize} {write : Nat -> Except Panic α} {result : α} :
    withElements profile refusal ptr len wordSize write = .ok result ↔
      wordSize.Supported ∧ SourceChecks profile wordSize ptr len ∧
        write (len / wordSize.bytes) = .ok result := by
  cases wordSize with
  | oneByte =>
      rw [WordSize.bytes, Nat.div_one]
      have unchecked : SourceChecks profile .oneByte ptr len :=
        fun _ impossible => WordSize.noConfusion impossible
      exact ⟨fun written => ⟨Or.inl rfl, unchecked, written⟩, fun holds => holds.2.2⟩
  | twoBytes =>
      simp only [withElements, bind_eq_ok, debugAssert_eq_ok_iff, exists_and_left, exists_const]
      constructor
      · rintro ⟨aligned, even, written⟩
        exact ⟨Or.inr rfl, fun enabled _ => ⟨aligned enabled, even enabled⟩, written⟩
      · rintro ⟨_, checks, written⟩
        exact ⟨fun enabled => (checks enabled rfl).1, fun enabled => (checks enabled rfl).2,
          written⟩
  | fourBytes =>
      constructor
      · intro impossible
        cases impossible
      · rintro ⟨impossible | impossible, _⟩ <;> cases impossible

end Driver
end Hub75
