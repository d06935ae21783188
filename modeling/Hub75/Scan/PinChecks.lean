import Hub75.Driver.Pins

namespace Hub75
namespace Driver
namespace Setup

open Machine

/-!
# Which pins are accepted

A wiring uses consecutive pins of one port, and it starts at one of a few base pins: eight pins
start at pin 0 or 8, sixteen pins at pin 0.  The constructors do not compare a list
with the wirings as wholes.  They fix the port and the base by the first pin, and then check
one pin after the other.  This is no stricter and no weaker than necessary at any pin: after
the pins before it, a pin passes exactly when some wiring still begins like this.  So the pin
that an error names is the first one that rules out every wiring.
-/

variable {width : Nat} {bases : List Nat} {pins : Vector AnyPin width}

/-- All pins share one port, and the numbers count up from one of the bases. -/
def Wired (bases : List Nat) (pins : Vector AnyPin width) : Prop :=
  Exists fun port => Exists fun base => base ∈ bases ∧
    forall i, i < width -> pins[i]? = some ⟨port, base + i⟩

def wirings (bases : List Nat) (width : Nat) : Set (Vector AnyPin width) :=
  { pins | Wired bases pins }

/-- A prefix that follows a port and a base can be completed. -/
theorem admits_iff {k : Nat} (within : k ≤ width) :
    Admits (wirings bases width) pins k ↔
      Exists fun port => Exists fun base => base ∈ bases ∧
        forall i, i < k -> pins[i]? = some ⟨port, base + i⟩ := by
  constructor
  · rintro ⟨member, ⟨port, base, listed, follows⟩, agrees⟩
    refine ⟨port, base, listed, fun i before => ?_⟩
    rw [← agrees i before]
    exact follows i (Nat.lt_of_lt_of_le before within)
  · rintro ⟨port, base, listed, follows⟩
    have completed (i : Nat) (inside : i < width) :
        (Vector.ofFn fun i : Fin width => (⟨port, base + i⟩ : AnyPin))[i]? =
          some ⟨port, base + i⟩ := by
      rw [Vector.getElem?_eq_getElem inside, Vector.getElem_ofFn]
    refine ⟨_, ⟨port, base, listed, completed⟩, fun i before => ?_⟩
    rw [completed i (Nat.lt_of_lt_of_le before within), follows i before]

/-- The first pin decides the port and the base. -/
theorem admits_succ_iff {first : AnyPin} (head : pins[0]? = some first) {k : Nat}
    (within : k + 1 ≤ width) :
    Admits (wirings bases width) pins (k + 1) ↔ first.pin ∈ bases ∧
      forall i, i < k + 1 -> pins[i]? = some ⟨first.port, first.pin + i⟩ := by
  rw [admits_iff within]
  constructor
  · rintro ⟨port, base, listed, follows⟩
    have start := follows 0 (Nat.succ_pos k)
    rw [head] at start
    cases start
    exact ⟨listed, follows⟩
  · rintro ⟨listed, follows⟩
    exact ⟨first.port, first.pin, listed, follows⟩

/-- The first pin of a wiring is a base. -/
theorem Wired.base_mem {first : AnyPin} (wired : Wired bases pins) (head : pins[0]? = some first) :
    first.pin ∈ bases := by
  rcases wired with ⟨port, base, listed, follows⟩
  have start := follows 0 (Vector.getElem?_eq_some_iff.mp head).1
  rw [head] at start
  cases start
  exact listed

theorem admits_zero {base : Nat} (listed : base ∈ bases) :
    Admits (wirings bases width) pins 0 :=
  (admits_iff (Nat.zero_le width)).mpr
    ⟨0, base, listed, fun i before => absurd before (Nat.not_lt_zero i)⟩

/-! ## One check -/

section

variable {port index expected : Nat} {expectedAt : Nat -> Except Panic Nat} {pin : AnyPin}

theorem checkPin_eq (small : index < 0x100) (computed : expectedAt index = .ok expected) :
    checkPin port expectedAt index pin =
      if pin.port ≠ port then .error (.error (.pinNotOnSamePort index))
      else if pin.pin ≠ expected then .error (.error (.pinsNotConsecutive index expected pin.pin))
      else .ok () := by
  unfold checkPin
  simp only [Nat.mod_eq_of_lt small, computed]
  rfl

theorem checkPin_eq_ok_iff (small : index < 0x100) (computed : expectedAt index = .ok expected) :
    checkPin port expectedAt index pin = .ok () ↔ pin = ⟨port, expected⟩ := by
  rw [checkPin_eq small computed]
  by_cases samePort : pin.port = port
  · rw [if_neg (not_not.mpr samePort)]
    by_cases sameNumber : pin.pin = expected
    · rw [if_neg (not_not.mpr sameNumber)]
      subst samePort
      subst sameNumber
      exact ⟨fun _ => rfl, fun _ => rfl⟩
    · rw [if_pos sameNumber]
      constructor
      · intro impossible
        cases impossible
      · intro same
        exact absurd (congrArg AnyPin.pin same) sameNumber
  · rw [if_pos samePort]
    constructor
    · intro impossible
      cases impossible
    · intro same
      exact absurd (congrArg AnyPin.port same) samePort

/-- The port is compared first, and the error says which comparison failed. -/
theorem checkPin_eq_error {fault : Fault} (small : index < 0x100)
    (computed : expectedAt index = .ok expected)
    (failed : checkPin port expectedAt index pin = .error fault) :
    (pin.port ≠ port ∧ fault = .error (.pinNotOnSamePort index)) ∨
      pin.port = port ∧ pin.pin ≠ expected ∧
        fault = .error (.pinsNotConsecutive index expected pin.pin) := by
  rw [checkPin_eq small computed] at failed
  split at failed
  · next otherPort => exact Or.inl ⟨otherPort, (Except.error.inj failed).symm⟩
  · next samePort =>
      split at failed
      · next otherNumber =>
          exact Or.inr ⟨not_not.mp samePort, otherNumber, (Except.error.inj failed).symm⟩
      · cases failed

end

/-! ## All checks -/

/-- An error reports the first pin that rules out every wiring.  It is about the port exactly
when this pin is on another port than the first one. -/
def Refuses (bases : List Nat) (pins : Vector AnyPin width) (error : Hub75Error) : Prop :=
  Exists fun index => Exists fun first => Exists fun rejected =>
    pins[0]? = some first ∧ pins[index]? = some rejected ∧
    IsLeast { k | ¬ Admits (wirings bases width) pins (k + 1) } index ∧
    ((rejected.port ≠ first.port ∧ error = .pinNotOnSamePort index) ∨
      rejected.port = first.port ∧ Exists fun expected =>
        expected = (if index = 0 then 0 else first.pin + index) ∧ rejected.pin ≠ expected ∧
        error = .pinsNotConsecutive index expected rejected.pin)

/-- The verdict of a constructor on a list of pins.  Whatever is not accepted is refused with
an error, so no build panics. -/
structure Judges {Group : Type} (bases : List Nat) (pins : Vector AnyPin width)
    (verdict : Except Fault Group) : Prop where
  accepts_iff : (Exists fun group => verdict = .ok group) ↔ Wired bases pins
  refuses : forall fault, verdict = .error fault ->
    Exists fun error => fault = .error error ∧ Refuses bases pins error

/-- Accepted pins are only wrapped. -/
theorem Judges.wrap {Group : Type} {checked : Except Fault Unit} (judges : Judges bases pins checked)
    (group : Group) : Judges bases pins (checked >>= fun _ => .ok group) := by
  cases checked with
  | error fault =>
      constructor
      · rw [← judges.accepts_iff]
        constructor <;> rintro ⟨_, impossible⟩ <;> cases impossible
      · intro other same
        cases same
        exact judges.refuses fault rfl
  | ok done =>
      constructor
      · rw [← judges.accepts_iff]
        exact ⟨fun _ => ⟨done, rfl⟩, fun _ => ⟨group, rfl⟩⟩
      · intro fault impossible
        cases impossible

variable {first : AnyPin} {expectedAt : Nat -> Except Panic Nat}

/-- With an admissible first pin, the loop recognises the wirings. -/
theorem recognises (head : pins[0]? = some first) (listed : first.pin ∈ bases)
    (small : width ≤ 0x100)
    (computed : forall i, i < width -> expectedAt i = .ok (first.pin + i)) :
    Recognises (wirings bases width) (checkPin first.port expectedAt) pins where
  start := admits_zero listed
  step := by
    intro i pin found admits
    have inside : i < width := (Vector.getElem?_eq_some_iff.mp found).1
    rw [checkPin_eq_ok_iff (Nat.lt_of_lt_of_le inside small) (computed i inside),
      admits_succ_iff head inside]
    constructor
    · intro same
      refine ⟨listed, fun j before => ?_⟩
      by_cases last : j = i
      · rw [last, found, same]
      · have shorter := admits.of_le (show j + 1 ≤ i by omega)
        rw [admits_succ_iff head (by omega)] at shorter
        exact shorter.2 j (Nat.lt_succ_self j)
    · intro follows
      have here := follows.2 i (Nat.lt_succ_self i)
      rw [found] at here
      exact Option.some.inj here

/-- The loop judges the pins that follow an admissible first pin. -/
theorem loop_judges (head : pins[0]? = some first) (listed : first.pin ∈ bases)
    (small : width ≤ 0x100)
    (computed : forall i, i < width -> expectedAt i = .ok (first.pin + i)) :
    Judges bases pins (checkFrom (checkPin first.port expectedAt) 0 pins.toList) := by
  have recognised := recognises head listed small computed
  constructor
  · constructor
    · rintro ⟨_, checked⟩
      exact recognised.ok_iff.mp checked
    · intro wired
      exact ⟨(), recognised.ok_iff.mpr wired⟩
  · intro fault failed
    rcases recognised.refuses failed with ⟨index, pin, found, refused, admits, refuted⟩
    have inside : index < width := (Vector.getElem?_eq_some_iff.mp found).1
    rcases checkPin_eq_error (Nat.lt_of_lt_of_le inside small) (computed index inside) refused with
      ⟨otherPort, same⟩ | ⟨samePort, otherNumber, same⟩
    · exact ⟨_, same, index, first, pin, head, found, admits.isLeast refuted,
        Or.inl ⟨otherPort, rfl⟩⟩
    · have later : index ≠ 0 := by
        intro start
        subst start
        rw [head] at found
        cases found
        exact otherNumber rfl
      exact ⟨_, same, index, first, pin, head, found, admits.isLeast refuted,
        Or.inr ⟨samePort, _, (if_neg later).symm, otherNumber, rfl⟩⟩

/-- A first pin that is no base rules out every wiring at once. -/
theorem misplaced_judges (head : pins[0]? = some first) (misplaced : first.pin ∉ bases)
    (zero : 0 ∈ bases) :
    Judges bases pins (.error (.error (.pinsNotConsecutive 0 0 first.pin)) : Except Fault Unit) := by
  have nonempty : 0 + 1 ≤ width := (Vector.getElem?_eq_some_iff.mp head).1
  have refuted : ¬ Admits (wirings bases width) pins (0 + 1) := by
    rw [admits_succ_iff head nonempty]
    exact fun admitted => misplaced admitted.1
  constructor
  · constructor
    · rintro ⟨_, impossible⟩
      cases impossible
    · intro wired
      exact absurd (wired.base_mem head) misplaced
  · intro fault failed
    cases failed
    have other : first.pin ≠ 0 := fun same => misplaced (same ▸ zero)
    exact ⟨_, rfl, 0, first, first, head, head, (admits_zero zero).isLeast refuted,
      Or.inr ⟨rfl, 0, rfl, other, rfl⟩⟩

/-- The checks accept the wirings, and otherwise report the first pin that rules them out. -/
theorem checkPins_judges (head : pins[0]? = some first) {misplaced : Prop} [Decidable misplaced]
    (placed : ¬ misplaced ↔ first.pin ∈ bases) (zero : 0 ∈ bases) (small : width ≤ 0x100)
    (computed : first.pin ∈ bases -> forall i, i < width -> expectedAt i = .ok (first.pin + i)) :
    Judges bases pins (checkPins first misplaced expectedAt pins) := by
  unfold checkPins
  split
  · next refused => exact misplaced_judges head (fun listed => placed.mpr listed refused) zero
  · next admitted =>
      have listed := placed.mp admitted
      exact loop_judges head listed small (computed listed)

/-! ## The two constructors -/

theorem u8Add_eq (profile : Profile) {a b : Nat} (small : a + b < 0x100) :
    u8Add profile a b = .ok (a + b) :=
  if_pos small

theorem mem_halves {base : Nat} : base ∈ [0, 8] ↔ base = 0 ∨ base = 8 := by
  simp only [List.mem_cons, List.not_mem_nil, or_false]

/-- Eight pins start at pin 0 or 8. -/
theorem Hub75Pins8.new_judges (profile : Profile)
    (red1 grn1 blu1 red2 grn2 blu2 latch blank : AnyPin) :
    Judges [0, 8] #v[red1, grn1, blu1, red2, grn2, blu2, latch, blank]
      (Hub75Pins8.new profile red1 grn1 blu1 red2 grn2 blu2 latch blank) := by
  have judged : Judges [0, 8] #v[red1, grn1, blu1, red2, grn2, blu2, latch, blank]
      (checkPins red1 (red1.pin ≠ 0 ∧ red1.pin ≠ 8) (fun i => u8Add profile red1.pin i)
        #v[red1, grn1, blu1, red2, grn2, blu2, latch, blank]) := by
    apply checkPins_judges rfl
    · rw [mem_halves]
      omega
    · exact List.mem_cons_self
    · decide
    · intro listed i inside
      rw [mem_halves] at listed
      exact u8Add_eq profile (by omega)
  exact judged.wrap _

/-- Sixteen pins start at pin 0, so the index is the number expected. -/
theorem Hub75Pins16.new_judges (pins : Vector AnyPin 16) :
    Judges [0] pins (Hub75Pins16.new pins) := by
  have judged : Judges [0] pins
      (checkPins pins[0] (pins[0].pin ≠ 0) (fun i => .ok i) pins) := by
    apply checkPins_judges (Vector.getElem?_eq_getElem (by decide))
    · rw [not_not, List.mem_singleton]
    · exact List.mem_cons_self
    · decide
    · intro listed i _
      rw [List.mem_singleton] at listed
      rw [listed, Nat.zero_add]
  exact judged.wrap _

end Setup
end Driver
end Hub75
