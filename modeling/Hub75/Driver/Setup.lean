import Hub75.Driver.Platform
import Hub75.Machine.FallibleLoop

namespace Hub75
namespace Driver
namespace Setup

open Machine

/-!
# Timer setup

All backends configure the timer, the clock pin and the data pins in the same
way.  The timer produces the pixel clock as a PWM signal, and one DMA word is
requested per period.

The timer driver belongs to embassy-stm32.  Of its registers the model keeps what
`hardware` sets, with the values in effect after the update event that it generates
in the end.  The auto-reload value that `set_frequency` computes is a
parameter, and so is the pin configuration of the data port.  `Timer.level` is
the documented output of an up-counting PWM channel.
-/

/-- The width of a timer's registers. -/
inductive TimerWord
  | bits16
  | bits32
deriving DecidableEq, Repr

/-- The largest register value. -/
def TimerWord.max : TimerWord -> Nat
  | bits16 => 0xFFFF
  | bits32 => 0xFFFFFFFF

/-- `Speed` of embassy-stm32. -/
inductive Speed
  | low
  | medium
  | high
  | veryHigh
deriving DecidableEq, Repr

/-- `Config`, with the frequency in hertz. -/
structure Config where
  frequency : Nat
  gpioSpeed : Speed
deriving DecidableEq, Repr

/-- `Config::new`. -/
def Config.new : Config := ⟨10000000, .medium⟩

/-- `CountingMode` of embassy-stm32. -/
inductive CountingMode
  | edgeAlignedUp
  | edgeAlignedDown
  | centerAlignedDownInterrupts
  | centerAlignedUpInterrupts
  | centerAlignedBothInterrupts
deriving DecidableEq, Repr

/-- `OutputCompareMode` of embassy-stm32. -/
inductive OutputCompareMode
  | frozen
  | activeOnMatch
  | inactiveOnMatch
  | toggle
  | forceInactive
  | forceActive
  | pwmMode1
  | pwmMode2
deriving DecidableEq, Repr

/-- The timer registers, as far as channel 1 and the update event are concerned. -/
structure Timer where
  word : TimerWord
  countingMode : CountingMode
  autoReload : Nat
  outputsEnabled : Bool
  outputCompareMode : OutputCompareMode
  outputComparePreload : Bool
  autoreloadPreload : Bool
  compareValue : Nat
  channelEnabled : Bool
  updateDmaEnabled : Bool
deriving DecidableEq, Repr

/-- `Hardware`, without the clock pin. -/
structure Hardware where
  odrAddr : Addr
  timer : Timer
deriving DecidableEq, Repr

/-- `u64` multiplication with the overflow behaviour of the build. -/
def u64Mul (profile : Profile) (a b : Nat) : Except Panic Nat :=
  if a * b < 0x10000000000000000 then .ok (a * b)
  else if profile.overflowChecks then .error .arithmeticOverflow
  else .ok (a * b % 0x10000000000000000)

/-- `value.try_into().unwrap()`, into a register word. -/
def wordTryFrom (word : TimerWord) (value : Nat) : Except Panic Nat :=
  if value ≤ word.max then .ok value else .error .conversionFailed

/-- `(u64::from(max) * 3 / 5).try_into().unwrap()`. -/
def compareFor (profile : Profile) (word : TimerWord) (max : Nat) : Except Panic Nat := do
  let product ← u64Mul profile max 3
  wordTryFrom word (product / 5)

/-- `hardware`.  The parameters are the pin configuration, the auto-reload value that
`set_frequency` derives from a frequency, and the timer as `Timer::new` returns it. -/
def hardware (profile : Profile) (configureAndGetOdr : Speed -> Addr) (setFrequency : Nat -> Nat)
    (timer : Timer) (config : Config) : Except Panic Hardware := do
  let odrAddr := configureAndGetOdr config.gpioSpeed
  let timer := { timer with
    countingMode := .edgeAlignedUp
    autoReload := setFrequency config.frequency
    outputsEnabled := true
    outputCompareMode := .pwmMode2
    outputComparePreload := true
    autoreloadPreload := true }
  let max := timer.autoReload
  let compareValue ← compareFor profile timer.word max
  let timer := { timer with compareValue, channelEnabled := true, updateDmaEnabled := true }
  return { odrAddr, timer }

/-! ## The clock pin -/

namespace Timer

/-- Whether the output is active at a counter value, for the PWM modes of an up-counting
channel. -/
def level (timer : Timer) (count : Nat) : Option Bool :=
  if timer.outputsEnabled = true ∧ timer.channelEnabled = true ∧
      timer.countingMode = .edgeAlignedUp then
    match timer.outputCompareMode with
    | .pwmMode1 => some (decide (count < timer.compareValue))
    | .pwmMode2 => some (!decide (count < timer.compareValue))
    | _ => none
  else none

/-- The counter runs from zero to the auto-reload value. -/
def nextCount (timer : Timer) (count : Nat) : Nat :=
  if count = timer.autoReload then 0 else count + 1

/-- The output changes between a counter value and the next one. -/
def Edge (timer : Timer) (before after : Bool) (count : Nat) : Prop :=
  count ≤ timer.autoReload ∧ timer.level count = some before ∧
    timer.level (timer.nextCount count) = some after

instance (timer : Timer) (before after : Bool) (count : Nat) :
    Decidable (timer.Edge before after count) :=
  inferInstanceAs (Decidable (_ ∧ _))

/-- Each period has one edge of each kind. -/
def Toggles (timer : Timer) : Prop :=
  (ExistsUnique fun count => timer.Edge false true count) ∧
    ExistsUnique fun count => timer.Edge true false count

end Timer
end Setup
end Driver
end Hub75
