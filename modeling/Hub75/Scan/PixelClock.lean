import Hub75.Driver.Setup
import Mathlib.Logic.ExistsUnique

namespace Hub75
namespace Driver
namespace Setup

open Machine

/-!
# The pixel clock

The compare value is three fifths of the auto-reload value, rounded down.  It is
computed in 64 bits, so nothing overflows, and it never exceeds the auto-reload
value, so it fits the register again.  Rounding down is the one thing that can go
wrong: an auto-reload value of one gives the compare value zero, and the output is
active all the time.
-/

/-- Up to 32 bits the computation is exact, and its result fits. -/
theorem compareFor_eq (profile : Profile) {word : TimerWord} {max : Nat} (fits : max ≤ word.max) :
    compareFor profile word max = .ok (max * 3 / 5) := by
  have bound : word.max ≤ 0xFFFFFFFF := by
    cases word <;> decide
  have product : u64Mul profile max 3 = .ok (max * 3) := if_pos (by omega)
  have conversion : wordTryFrom word (max * 3 / 5) = .ok (max * 3 / 5) := if_pos (by omega)
  unfold compareFor
  rw [bind_of_eq_ok product]
  exact conversion

/-- A running channel as `hardware` configures it. -/
structure Timer.Running (timer : Timer) : Prop where
  countingMode : timer.countingMode = .edgeAlignedUp
  outputsEnabled : timer.outputsEnabled = true
  outputCompareMode : timer.outputCompareMode = .pwmMode2
  channelEnabled : timer.channelEnabled = true

/-- What `hardware` returns. -/
theorem hardware_eq (profile : Profile) (configureAndGetOdr : Speed -> Addr)
    (setFrequency : Nat -> Nat) (timer : Timer) (config : Config)
    (fits : setFrequency config.frequency ≤ timer.word.max) :
    Exists fun hw => hardware profile configureAndGetOdr setFrequency timer config = .ok hw ∧
      hw.timer.Running ∧ hw.timer.autoReload = setFrequency config.frequency ∧
      hw.timer.compareValue = setFrequency config.frequency * 3 / 5 :=
  ⟨_, bind_eq_ok.mpr ⟨_, compareFor_eq profile fits, rfl⟩, ⟨rfl, rfl, rfl, rfl⟩, rfl, rfl⟩

variable {timer : Timer} {count : Nat}

theorem Timer.Running.level_eq (running : timer.Running) (count : Nat) :
    timer.level count = some (!decide (count < timer.compareValue)) := by
  unfold Timer.level
  rw [if_pos ⟨running.outputsEnabled, running.channelEnabled, running.countingMode⟩,
    running.outputCompareMode]

theorem Timer.Running.inactive_iff (running : timer.Running) :
    timer.level count = some false ↔ count < timer.compareValue := by
  rw [running.level_eq, Option.some.injEq, Bool.not_eq_false', decide_eq_true_eq]

theorem Timer.Running.active_iff (running : timer.Running) :
    timer.level count = some true ↔ timer.compareValue ≤ count := by
  rw [running.level_eq, Option.some.injEq, Bool.not_eq_true', decide_eq_false_iff_not, Nat.not_lt]

/-- The output rises when the counter reaches the compare value, and falls when it starts again. -/
theorem Timer.Running.toggles_iff (running : timer.Running)
    (short : timer.compareValue ≤ timer.autoReload) :
    timer.Toggles ↔ 1 ≤ timer.compareValue := by
  constructor
  · rintro ⟨⟨count, ⟨_, inactive, _⟩, _⟩, _⟩
    have below := running.inactive_iff.mp inactive
    omega
  · intro positive
    constructor
    · refine ⟨timer.compareValue - 1, ⟨by omega, ?_, ?_⟩, ?_⟩
      · apply running.inactive_iff.mpr
        omega
      · apply running.active_iff.mpr
        rw [nextCount, if_neg (by omega)]
        omega
      · rintro other ⟨_, inactive, active⟩
        have below := running.inactive_iff.mp inactive
        have reached := running.active_iff.mp active
        unfold nextCount at reached
        split at reached <;> omega
    · refine ⟨timer.autoReload, ⟨Nat.le_refl _, ?_, ?_⟩, ?_⟩
      · exact running.active_iff.mpr short
      · apply running.inactive_iff.mpr
        rw [nextCount, if_pos rfl]
        exact positive
      · rintro other ⟨_, active, inactive⟩
        have above := running.active_iff.mp active
        have restarted := running.inactive_iff.mp inactive
        unfold nextCount at restarted
        split at restarted
        · next last => exact last
        · omega

/-- The clock that `hardware` configures has both phases in every period. -/
def ClockToggles (profile : Profile) (configureAndGetOdr : Speed -> Addr)
    (setFrequency : Nat -> Nat) (timer : Timer) (config : Config) : Prop :=
  Exists fun hw => hardware profile configureAndGetOdr setFrequency timer config = .ok hw ∧
    hw.timer.compareValue = setFrequency config.frequency * 3 / 5 ∧
    1 ≤ hw.timer.compareValue ∧ hw.timer.compareValue ≤ setFrequency config.frequency ∧
    hw.timer.Toggles

/-- The pixel clock toggles exactly when the auto-reload value is at least two.  In any
case `hardware` computes the compare value without overflow, and it fits the register. -/
theorem clock_toggles_iff (profile : Profile) (configureAndGetOdr : Speed -> Addr)
    (setFrequency : Nat -> Nat) (timer : Timer) (config : Config)
    (positive : 1 ≤ setFrequency config.frequency)
    (fits : setFrequency config.frequency ≤ timer.word.max) :
    (Exists fun hw => hardware profile configureAndGetOdr setFrequency timer config = .ok hw ∧
        hw.timer.compareValue = setFrequency config.frequency * 3 / 5) ∧
      (ClockToggles profile configureAndGetOdr setFrequency timer config ↔
        2 ≤ setFrequency config.frequency) := by
  rcases hardware_eq profile configureAndGetOdr setFrequency timer config fits with
    ⟨hw, configured, running, reload, compare⟩
  refine ⟨⟨hw, configured, compare⟩, ?_⟩
  constructor
  · rintro ⟨other, _, exact_value, lower, _⟩
    omega
  · intro enough
    have short : hw.timer.compareValue ≤ hw.timer.autoReload := by omega
    have lower : 1 ≤ hw.timer.compareValue := by omega
    exact ⟨hw, configured, compare, lower, reload ▸ short, (running.toggles_iff short).mpr lower⟩

/-- A timer whose registers are all cleared. -/
def Timer.cleared (word : TimerWord) : Timer :=
  ⟨word, .edgeAlignedUp, 0, false, .frozen, false, false, 0, false, false⟩

/-- A 32-bit timer with the largest auto-reload value. -/
theorem clock_toggles_of_full_reload :
    ClockToggles ⟨true, true⟩ (fun _ => 0x40020814) (fun _ => 0xFFFFFFFF) (.cleared .bits32)
      .new :=
  (clock_toggles_iff ⟨true, true⟩ (fun _ => 0x40020814) (fun _ => 0xFFFFFFFF) (.cleared .bits32) .new
    (by decide) (by decide)).2.mpr (by decide)

/-- With an auto-reload value of one the compare value is zero, and the output never
becomes inactive. -/
theorem clock_stuck :
    (Exists fun hw => hardware Profile.release (fun _ => 0x40020814) (fun _ => 1)
        (.cleared .bits16) .new = .ok hw ∧ hw.timer.compareValue = 0 ∧
      forall count, hw.timer.level count = some true) ∧
    ¬ ClockToggles Profile.release (fun _ => 0x40020814) (fun _ => 1) (.cleared .bits16) .new := by
  constructor
  · exact ⟨_, rfl, rfl, fun _ => rfl⟩
  · rintro ⟨hw, _, compare, lower, _⟩
    rw [compare] at lower
    exact absurd lower (by decide)

end Setup
end Driver
end Hub75
