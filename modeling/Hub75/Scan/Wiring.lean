import Hub75.Scan.PinChecks

namespace Hub75
namespace Driver
namespace Setup

open Machine

/-!
# What the data pins show

An accepted group fills whole bytes of the output data register of its port, and the address
that the DMA writes to is the first of these bytes.  So bit `i` of a word is
the level of the `i`-th pin, and all other pins of the port keep theirs.  This holds for every
word, whatever the memory contains, and so for every prefix of a stream of words.

Before the first word the two groups differ: the configuration of eight pins blanks the panel, and
sixteen pins show what their register holds.
-/

variable {odr : Nat -> Addr} {width v : Nat} {wordSize : WordSize} {pins : Vector AnyPin width}
  {gpio : Gpio} {address : Addr}

/-! ## One write -/

/-- Which bits of the register a write replaces. -/
theorem Gpio.getLsbD_odrValue_write (gpio : Gpio) (port : Nat) {offset : Nat} (word : BitVec v)
    (room : offset + wordSize.bytes ≤ 4) (j : Nat) :
    ((gpio.write wordSize (odr port + BitVec.ofNat 32 offset) word).odrValue odr port).getLsbD j =
      if 8 * offset ≤ j ∧ j < 8 * (offset + wordSize.bytes) then word.getLsbD (j - 8 * offset)
      else (gpio.odrValue odr port).getLsbD j := by
  have nonempty : 0 < wordSize.bytes := by
    cases wordSize <;> decide
  unfold odrValue write
  by_cases inside : j < 32
  · rw [ByteMemory.getLsbD_load _ _ inside, ByteMemory.getLsbD_load _ _ inside]
    exact ByteMemory.bit_store _ _ word (by omega) nonempty (by omega)
  · rw [if_neg (by omega), BitVec.getLsbD_of_ge _ _ (by omega), BitVec.getLsbD_of_ge _ _ (by omega)]

/-- A pin is as it was: its mode, and its bit of the register. -/
structure Gpio.Keeps (odr : Nat -> Addr) (before after : Gpio) (pin : AnyPin) : Prop where
  mode : after.mode pin = before.mode pin
  bit : (after.odrValue odr pin.port).getLsbD pin.pin =
    (before.odrValue odr pin.port).getLsbD pin.pin

theorem Gpio.Keeps.level {before after : Gpio} {pin : AnyPin} (keeps : Keeps odr before after pin) :
    after.level odr pin = before.level odr pin := by
  unfold Gpio.level
  rw [keeps.mode, keeps.bit]

/-- A write of any word sets the pins to its bits, and keeps every other pin of their port. -/
structure Drives (odr : Nat -> Addr) (wordSize : WordSize) (pins : Vector AnyPin width) (gpio : Gpio)
    (address : Addr) : Prop where
  sets : forall (word : BitVec width) i pin, pins[i]? = some pin ->
    (gpio.write wordSize address word).level odr pin = some (.ofBool (word.getLsbD i))
  keeps : forall (word : BitVec width) pin other, pin ∈ pins -> other.port = pin.port ->
    other ∉ pins -> Gpio.Keeps odr gpio (gpio.write wordSize address word) other

/-- The pins are outputs. -/
def Outputs (gpio : Gpio) (pins : Vector AnyPin width) : Prop :=
  forall pin, pin ∈ pins -> Exists fun speed => gpio.mode pin = .output speed

/-- The pins are the bytes of a word, in order, from one byte of the register on. -/
structure Fills (wordSize : WordSize) (pins : Vector AnyPin width) (port offset : Nat) : Prop where
  wired : forall i, i < width -> pins[i]? = some ⟨port, 8 * offset + i⟩
  whole : 8 * wordSize.bytes = width
  room : offset + wordSize.bytes ≤ 4

variable {port offset : Nat}

theorem Fills.mem_iff (fills : Fills wordSize pins port offset) {pin : AnyPin} :
    pin ∈ pins ↔ pin.port = port ∧ 8 * offset ≤ pin.pin ∧
      pin.pin < 8 * (offset + wordSize.bytes) := by
  have whole := fills.whole
  rw [Vector.mem_iff_getElem?]
  constructor
  · rintro ⟨i, found⟩
    have inside : i < width := (Vector.getElem?_eq_some_iff.mp found).1
    rw [fills.wired i inside] at found
    cases found
    exact ⟨rfl, Nat.le_add_right _ i, by simp only; omega⟩
  · rintro ⟨samePort, lower, upper⟩
    refine ⟨pin.pin - 8 * offset, ?_⟩
    rw [fills.wired _ (by omega), ← samePort, Nat.add_sub_cancel' lower]

/-- A write keeps the pins that do not belong to the word. -/
theorem Fills.write_keeps (fills : Fills wordSize pins port offset) (gpio : Gpio)
    (word : BitVec v) {other : AnyPin} (samePort : other.port = port) (elsewhere : other ∉ pins) :
    Gpio.Keeps odr gpio (gpio.write wordSize (odr port + BitVec.ofNat 32 offset) word) other := by
  constructor
  · rfl
  · rw [samePort, Gpio.getLsbD_odrValue_write gpio port word fills.room, if_neg]
    exact fun written => elsewhere (fills.mem_iff.mpr ⟨samePort, written⟩)

/-- Outputs that fill the bytes of a word are driven through the first of these bytes. -/
theorem Fills.drives (fills : Fills wordSize pins port offset) (outputs : Outputs gpio pins) :
    Drives odr wordSize pins gpio (odr port + BitVec.ofNat 32 offset) := by
  constructor
  · intro word i pin found
    have member : pin ∈ pins := Vector.mem_iff_getElem?.mpr ⟨i, found⟩
    rcases outputs pin member with ⟨speed, mode⟩
    have sameMode : (gpio.write wordSize (odr port + BitVec.ofNat 32 offset) word).mode pin =
        .output speed := mode
    have written := fills.mem_iff.mp member
    rw [fills.wired i (Vector.getElem?_eq_some_iff.mp found).1] at found
    cases found
    unfold Gpio.level
    simp only [sameMode]
    rw [Gpio.getLsbD_odrValue_write gpio port word fills.room, if_pos written.2,
      Nat.add_sub_cancel_left]
  · intro word pin other member samePort elsewhere
    exact fills.write_keeps gpio word (samePort.trans (fills.mem_iff.mp member).1) elsewhere

/-! ## A stream of words -/

/-- The words of a transfer, written to one address one after the other. -/
def Gpio.stream (gpio : Gpio) (wordSize : WordSize) (address : Addr) (words : List (BitVec v)) :
    Gpio :=
  words.foldl (fun gpio word => gpio.write wordSize address word) gpio

theorem Gpio.stream_mode (gpio : Gpio) (wordSize : WordSize) (address : Addr)
    (words : List (BitVec v)) : (gpio.stream wordSize address words).mode = gpio.mode := by
  induction words generalizing gpio with
  | nil => rfl
  | cons word rest inductionHypothesis => exact inductionHypothesis (gpio.write wordSize address word)

/-- The DMA may write words: the pins are outputs that fill the bytes of a word from the address
on. -/
def Ready (odr : Nat -> Addr) (wordSize : WordSize) (pins : Vector AnyPin width) (gpio : Gpio)
    (address : Addr) : Prop :=
  Outputs gpio pins ∧ Exists fun port => Exists fun offset =>
    Fills wordSize pins port offset ∧ address = odr port + BitVec.ofNat 32 offset

theorem Ready.drives (ready : Ready odr wordSize pins gpio address) :
    Drives odr wordSize pins gpio address := by
  rcases ready with ⟨outputs, port, offset, fills, same⟩
  subst same
  exact fills.drives outputs

theorem Ready.stream (ready : Ready odr wordSize pins gpio address) (words : List (BitVec v)) :
    Ready odr wordSize pins (gpio.stream wordSize address words) address := by
  rcases ready with ⟨outputs, placed⟩
  refine ⟨fun pin member => ?_, placed⟩
  rw [Gpio.stream_mode]
  exact outputs pin member

/-- However many words have been written, no other pin of the port has changed. -/
theorem Ready.stream_keeps (ready : Ready odr wordSize pins gpio address)
    (words : List (BitVec width)) {pin other : AnyPin} (member : pin ∈ pins)
    (samePort : other.port = pin.port) (elsewhere : other ∉ pins) :
    Gpio.Keeps odr gpio (gpio.stream wordSize address words) other := by
  induction words generalizing gpio with
  | nil => exact ⟨rfl, rfl⟩
  | cons word rest inductionHypothesis =>
      have first := ready.drives.keeps word pin other member samePort elsewhere
      have later := inductionHypothesis (ready.stream [word])
      exact ⟨later.mode.trans first.mode, later.bit.trans first.bit⟩

/-- Throughout a transfer the pins show the word written last. -/
theorem Ready.shows_stream (ready : Ready odr wordSize pins gpio address)
    (words : List (BitVec width)) (last : BitVec width) {i : Nat} {pin : AnyPin}
    (found : pins[i]? = some pin) :
    (gpio.stream wordSize address (words ++ [last])).level odr pin =
      some (.ofBool (last.getLsbD i)) := by
  rw [Gpio.stream, List.foldl_append]
  exact (ready.stream words).drives.sets last i pin found

/-! ## Configuring a group -/

/-- A loop that makes every pin it visits an output. -/
theorem mode_foldl {β : Type} (visit : Gpio -> β -> Gpio) (pinOf : β -> AnyPin) (speed : Speed)
    (visits : forall gpio visited,
      (visit gpio visited).mode = Function.update gpio.mode (pinOf visited) (.output speed))
    (visited : List β) (gpio : Gpio) (pin : AnyPin) :
    (visited.foldl visit gpio).mode pin =
      if pin ∈ visited.map pinOf then .output speed else gpio.mode pin := by
  induction visited generalizing gpio with
  | nil => rfl
  | cons first rest inductionHypothesis =>
      rw [List.foldl_cons, inductionHypothesis, visits, List.map_cons]
      by_cases later : pin ∈ rest.map pinOf
      · rw [if_pos later, if_pos (List.mem_cons_of_mem _ later)]
      · rw [if_neg later]
        by_cases here : pin = pinOf first
        · rw [here, Function.update_self, if_pos List.mem_cons_self]
        · rw [Function.update_of_ne here, if_neg]
          exact fun listed => (List.mem_cons.mp listed).elim here later

theorem Hub75Pins8.configure_mode (odr : Nat -> Addr) (group : Hub75Pins8) (speed : Speed)
    (gpio : Gpio) (pin : AnyPin) :
    (group.configureAndGetOdr odr speed gpio).1.mode pin =
      if pin ∈ group.pins then .output speed else gpio.mode pin := by
  have visited := mode_foldl
    (fun gpio visited =>
      (if visited.2 = 7 then gpio.setLevel odr visited.1 .high else gpio).setAsOutput visited.1
        speed)
    Prod.fst speed (fun gpio visited => by split <;> rfl) group.pins.toList.zipIdx gpio pin
  rw [List.zipIdx_map_fst] at visited
  simp only [Vector.mem_toList_iff] at visited
  exact visited

theorem Hub75Pins16.configure_mode (odr : Nat -> Addr) (group : Hub75Pins16) (speed : Speed)
    (gpio : Gpio) (pin : AnyPin) :
    (group.configureAndGetOdr odr speed gpio).1.mode pin =
      if pin ∈ group.pins then .output speed else gpio.mode pin := by
  have visited := mode_foldl (fun gpio visited => gpio.setAsOutput visited speed) id speed
    (fun gpio visited => rfl) group.pins.toList gpio pin
  rw [List.map_id] at visited
  simp only [Vector.mem_toList_iff] at visited
  exact visited

/-- `set_level` changes one bit of the register. -/
theorem Gpio.getLsbD_odrValue_setLevel (odr : Nat -> Addr) (gpio : Gpio) (pin : AnyPin)
    (level : Level) (j : Nat) :
    ((gpio.setLevel odr pin level).odrValue odr pin.port).getLsbD j =
      if j = pin.pin ∧ j < 32 then decide (level = .high)
      else (gpio.odrValue odr pin.port).getLsbD j := by
  unfold setLevel odrValue
  simp only
  rw [ByteMemory.load_store _ _ _ (by decide)]
  by_cases here : j = pin.pin ∧ j < 32
  · rcases here with ⟨same, inside⟩
    subst same
    cases level <;> simp [inside]
  · rw [if_neg here]
    by_cases inside : j < 32
    · have elsewhere : j ≠ pin.pin := fun same => here ⟨same, inside⟩
      cases level <;> simp [inside, elsewhere]
    · rw [BitVec.getLsbD_of_ge _ _ (by omega), BitVec.getLsbD_of_ge _ _ (by omega)]

/-- Of the memory, configuring eight pins changes what blanking the panel changes. -/
theorem Hub75Pins8.configure_memory (odr : Nat -> Addr) (group : Hub75Pins8) (speed : Speed)
    (gpio : Gpio) :
    (group.configureAndGetOdr odr speed gpio).1.memory =
      (gpio.setLevel odr group.pins[7] .high).memory := by
  rcases group with ⟨⟨⟨pins⟩, size⟩, basePin⟩
  match pins, size with
  | [_, _, _, _, _, _, _, _], _ => rfl

/-- The panel starts blank: of the register of the port only the bit of the last pin changes. -/
theorem Hub75Pins8.configure_blanks (odr : Nat -> Addr) (group : Hub75Pins8) {blank : AnyPin}
    (last : group.pins[7] = blank) (inside : blank.pin < 32) (speed : Speed) (gpio : Gpio) :
    (group.configureAndGetOdr odr speed gpio).1.level odr blank = some .high ∧
      forall other : AnyPin, other.port = blank.port -> other.pin ≠ blank.pin ->
        ((group.configureAndGetOdr odr speed gpio).1.odrValue odr other.port).getLsbD other.pin =
          (gpio.odrValue odr other.port).getLsbD other.pin := by
  have register (port : Nat) : (group.configureAndGetOdr odr speed gpio).1.odrValue odr port =
      (gpio.setLevel odr blank .high).odrValue odr port := by
    unfold Gpio.odrValue
    rw [Hub75Pins8.configure_memory, last]
  have member : blank ∈ group.pins := last ▸ Vector.getElem_mem (by decide)
  constructor
  · unfold Gpio.level
    rw [Hub75Pins8.configure_mode, if_pos member]
    simp only
    rw [register, Gpio.getLsbD_odrValue_setLevel, if_pos ⟨rfl, inside⟩]
    rfl
  · intro other samePort elsewhere
    rw [register, samePort, Gpio.getLsbD_odrValue_setLevel, if_neg]
    exact fun here => elsewhere here.1

/-- Configuring sixteen pins changes no memory, so they start with what the register holds. -/
theorem Hub75Pins16.configure_memory (odr : Nat -> Addr) (group : Hub75Pins16) (speed : Speed)
    (gpio : Gpio) : (group.configureAndGetOdr odr speed gpio).1.memory = gpio.memory := by
  have visited (pins : List AnyPin) (gpio : Gpio) :
      (pins.foldl (fun gpio pin => gpio.setAsOutput pin speed) gpio).memory = gpio.memory := by
    induction pins generalizing gpio with
    | nil => rfl
    | cons pin rest inductionHypothesis => exact inductionHypothesis (gpio.setAsOutput pin speed)
  exact visited group.pins.toList gpio

theorem Hub75Pins16.configure_level (odr : Nat -> Addr) (group : Hub75Pins16) {pin : AnyPin}
    (member : pin ∈ group.pins) (speed : Speed) (gpio : Gpio) :
    (group.configureAndGetOdr odr speed gpio).1.level odr pin =
      some (.ofBool ((gpio.odrValue odr pin.port).getLsbD pin.pin)) := by
  unfold Gpio.level Gpio.odrValue
  rw [Hub75Pins16.configure_mode, if_pos member, Hub75Pins16.configure_memory]

/-! ## Accepted groups -/

/-- What a constructor and the configuration of its groups promise about a list of pins: after the
configuration, and after any words that have been written since. -/
structure Validates {Group : Type} (odr : Nat -> Addr) (bases : List Nat) (wordSize : WordSize)
    (pins : Vector AnyPin width) (verdict : Except Fault Group)
    (configureAndGetOdr : Group -> Speed -> Gpio -> Gpio × Addr) : Prop where
  judges : Judges bases pins verdict
  address : forall group first speed gpio, verdict = .ok group -> pins[0]? = some first ->
    (configureAndGetOdr group speed gpio).2 =
      odr first.port + (if first.pin = 8 then 1 else 0)
  drives : forall group speed gpio (words : List (BitVec width)), verdict = .ok group ->
    Drives odr wordSize pins
      ((configureAndGetOdr group speed gpio).1.stream wordSize
        (configureAndGetOdr group speed gpio).2 words)
      (configureAndGetOdr group speed gpio).2

theorem Hub75Pins8.new_eq_ok {profile : Profile}
    {red1 grn1 blu1 red2 grn2 blu2 latch blank : AnyPin} {group : Hub75Pins8}
    (accepted : Hub75Pins8.new profile red1 grn1 blu1 red2 grn2 blu2 latch blank = .ok group) :
    group = ⟨#v[red1, grn1, blu1, red2, grn2, blu2, latch, blank], red1.pin⟩ := by
  rcases bind_eq_ok.mp accepted with ⟨_, _, wrapped⟩
  exact (Except.ok.inj wrapped).symm

theorem Hub75Pins16.new_eq_ok {pins : Vector AnyPin 16} {group : Hub75Pins16}
    (accepted : Hub75Pins16.new pins = .ok group) : group = ⟨pins⟩ := by
  rcases bind_eq_ok.mp accepted with ⟨_, _, wrapped⟩
  exact (Except.ok.inj wrapped).symm

/-- A wiring that starts at a byte of the register fills the bytes of a word. -/
theorem Wired.fills {bases : List Nat} {first : AnyPin} (wired : Wired bases pins)
    (head : pins[0]? = some first) (whole : 8 * wordSize.bytes = width)
    (aligned : forall base, base ∈ bases -> 8 * (base / 8) = base ∧ base + width ≤ 32) :
    Fills wordSize pins first.port (first.pin / 8) := by
  have nonempty : 0 < width := (Vector.getElem?_eq_some_iff.mp head).1
  rcases wired with ⟨port, base, listed, follows⟩
  have start := follows 0 nonempty
  rw [head] at start
  cases start
  rcases aligned base listed with ⟨byte, room⟩
  refine ⟨fun i inside => ?_, whole, ?_⟩
  · simp only [Nat.add_zero, byte]
    exact follows i inside
  · simp only [Nat.add_zero]
    omega

/-- Accepted pins that have been configured as outputs are ready. -/
theorem Wired.ready {bases : List Nat} {first : AnyPin} (wired : Wired bases pins)
    (head : pins[0]? = some first) (whole : 8 * wordSize.bytes = width)
    (bytes : forall base, base ∈ bases -> (base = 0 ∨ base = 8) ∧ base + width ≤ 32)
    (outputs : Outputs gpio pins) :
    Ready odr wordSize pins gpio (odr first.port + (if first.pin = 8 then 1 else 0)) := by
  have byte : (if first.pin = 8 then 1 else 0 : Addr) = BitVec.ofNat 32 (first.pin / 8) := by
    rcases (bytes first.pin (wired.base_mem head)).1 with zero | eight
    · rw [zero]
      rfl
    · rw [eight]
      rfl
  have fills : Fills wordSize pins first.port (first.pin / 8) :=
    wired.fills head whole fun base listed => by
      have aligned := bytes base listed
      omega
  exact ⟨outputs, first.port, first.pin / 8, fills, by rw [byte]⟩

/-- Eight pins use the second byte of the register when they do not start at pin 0. -/
theorem Hub75Pins8.configured (odr : Nat -> Addr) (group : Hub75Pins8) {first : AnyPin}
    (head : group.pins[0]? = some first) (base : group.basePin = first.pin)
    (listed : first.pin ∈ [0, 8]) (speed : Speed) (gpio : Gpio) :
    Outputs (group.configureAndGetOdr odr speed gpio).1 group.pins ∧
      (group.configureAndGetOdr odr speed gpio).2 =
        odr first.port + (if first.pin = 8 then 1 else 0) := by
  constructor
  · intro pin member
    exact ⟨speed, by rw [Hub75Pins8.configure_mode, if_pos member]⟩
  · have same : group.pins[0] = first := (Vector.getElem?_eq_some_iff.mp head).2
    unfold Hub75Pins8.configureAndGetOdr
    simp only [same, base]
    rcases mem_halves.mp listed with zero | eight
    · rw [zero]
      rfl
    · rw [eight]
      rfl

/-- Sixteen pins use both bytes. -/
theorem Hub75Pins16.configured (odr : Nat -> Addr) (group : Hub75Pins16) {first : AnyPin}
    (head : group.pins[0]? = some first) (listed : first.pin ∈ [0]) (speed : Speed) (gpio : Gpio) :
    Outputs (group.configureAndGetOdr odr speed gpio).1 group.pins ∧
      (group.configureAndGetOdr odr speed gpio).2 =
        odr first.port + (if first.pin = 8 then 1 else 0) := by
  constructor
  · intro pin member
    exact ⟨speed, by rw [Hub75Pins16.configure_mode, if_pos member]⟩
  · have same : group.pins[0] = first := (Vector.getElem?_eq_some_iff.mp head).2
    have zero : first.pin = 0 := List.mem_singleton.mp listed
    unfold Hub75Pins16.configureAndGetOdr
    simp only [same]
    rw [zero]
    exact (BitVec.add_zero (odr first.port)).symm

/-- What accepted groups come to when they are configured. -/
theorem Hub75Pins8.new_ready {profile : Profile}
    {red1 grn1 blu1 red2 grn2 blu2 latch blank : AnyPin} {group : Hub75Pins8}
    (accepted : Hub75Pins8.new profile red1 grn1 blu1 red2 grn2 blu2 latch blank = .ok group)
    (odr : Nat -> Addr) (speed : Speed) (gpio : Gpio) :
    (group.configureAndGetOdr odr speed gpio).2 =
        odr red1.port + (if red1.pin = 8 then 1 else 0) ∧
      Ready odr Hub75Pins8.dmaWordSize #v[red1, grn1, blu1, red2, grn2, blu2, latch, blank]
        (group.configureAndGetOdr odr speed gpio).1 (group.configureAndGetOdr odr speed gpio).2 := by
  have wired := (Hub75Pins8.new_judges profile red1 grn1 blu1 red2 grn2 blu2 latch
    blank).accepts_iff.mp ⟨group, accepted⟩
  have listed : red1.pin ∈ [0, 8] := wired.base_mem rfl
  have same := Hub75Pins8.new_eq_ok accepted
  subst same
  rcases Hub75Pins8.configured odr
    ⟨#v[red1, grn1, blu1, red2, grn2, blu2, latch, blank], red1.pin⟩ rfl rfl listed speed gpio with
    ⟨outputs, address⟩
  refine ⟨address, ?_⟩
  rw [address]
  exact wired.ready rfl rfl (by decide) outputs

theorem Hub75Pins16.new_ready {pins : Vector AnyPin 16} {first : AnyPin} {group : Hub75Pins16}
    (accepted : Hub75Pins16.new pins = .ok group) (head : pins[0]? = some first)
    (odr : Nat -> Addr) (speed : Speed) (gpio : Gpio) :
    (group.configureAndGetOdr odr speed gpio).2 =
        odr first.port + (if first.pin = 8 then 1 else 0) ∧
      Ready odr Hub75Pins16.dmaWordSize pins (group.configureAndGetOdr odr speed gpio).1
        (group.configureAndGetOdr odr speed gpio).2 := by
  have wired := (Hub75Pins16.new_judges pins).accepts_iff.mp ⟨group, accepted⟩
  have same := Hub75Pins16.new_eq_ok accepted
  subst same
  rcases Hub75Pins16.configured odr ⟨pins⟩ head (wired.base_mem head) speed gpio with
    ⟨outputs, address⟩
  refine ⟨address, ?_⟩
  rw [address]
  exact wired.ready head rfl (by decide) outputs

/-- The drivers write to the address of the group. -/
theorem hardware_ready {profile : Profile} {configureAndGetOdr : Speed -> Gpio × Addr}
    {setFrequency : Nat -> Nat} {timer : Timer} {config : Config} {hw : Hardware}
    (ready : forall speed, Ready odr wordSize pins (configureAndGetOdr speed).1
      (configureAndGetOdr speed).2)
    (configured : hardware profile (fun speed => (configureAndGetOdr speed).2) setFrequency timer
      config = .ok hw) :
    Ready odr wordSize pins (configureAndGetOdr config.gpioSpeed).1 hw.odrAddr := by
  rcases bind_eq_ok.mp configured with ⟨_, _, returned⟩
  cases returned
  exact ready config.gpioSpeed

/-- A constructor accepts a list of pins exactly when it is a wiring.  An error names
the first pin that rules out all of them, and no build panics.  The words written to the address
of an accepted group drive its pins and no others. -/
theorem pins_validated (profile : Profile) (odr : Nat -> Addr) :
    (forall red1 grn1 blu1 red2 grn2 blu2 latch blank,
      Validates odr [0, 8] Hub75Pins8.dmaWordSize
        #v[red1, grn1, blu1, red2, grn2, blu2, latch, blank]
        (Hub75Pins8.new profile red1 grn1 blu1 red2 grn2 blu2 latch blank)
        (Hub75Pins8.configureAndGetOdr odr)) ∧
    (forall pins, Validates odr [0] Hub75Pins16.dmaWordSize pins (Hub75Pins16.new pins)
      (Hub75Pins16.configureAndGetOdr odr)) := by
  constructor
  · intro red1 grn1 blu1 red2 grn2 blu2 latch blank
    constructor
    · exact Hub75Pins8.new_judges profile red1 grn1 blu1 red2 grn2 blu2 latch blank
    · intro group first speed gpio accepted head
      cases head
      exact (Hub75Pins8.new_ready accepted odr speed gpio).1
    · intro group speed gpio words accepted
      exact ((Hub75Pins8.new_ready accepted odr speed gpio).2.stream words).drives
  · intro pins
    have head : pins[0]? = some pins[0] := Vector.getElem?_eq_getElem (by decide)
    constructor
    · exact Hub75Pins16.new_judges pins
    · intro group first speed gpio accepted found
      exact (Hub75Pins16.new_ready accepted found odr speed gpio).1
    · intro group speed gpio words accepted
      exact ((Hub75Pins16.new_ready accepted head odr speed gpio).2.stream words).drives

/-- What the pins of a configured group show: a level of their own until the first word is
written, and from then on the last word.  The other pins of the port are as they were before. -/
structure Presents (odr : Nat -> Addr) (wordSize : WordSize) (pins : Vector AnyPin width)
    (initial : AnyPin -> Level) (before configured : Gpio) (address : Addr) : Prop where
  initially : forall pin, pin ∈ pins -> configured.level odr pin = some (initial pin)
  shown : forall (words : List (BitVec width)) (last : BitVec width) i pin, pins[i]? = some pin ->
    (configured.stream wordSize address (words ++ [last])).level odr pin =
      some (.ofBool (last.getLsbD i))
  kept : forall (words : List (BitVec width)) pin other, pin ∈ pins -> other.port = pin.port ->
    other ∉ pins -> Gpio.Keeps odr before (configured.stream wordSize address words) other

/-- What a pin shows that becomes an output: the bit that its register holds already. -/
def Gpio.held (odr : Nat -> Addr) (gpio : Gpio) (pin : AnyPin) : Level :=
  .ofBool ((gpio.odrValue odr pin.port).getLsbD pin.pin)

theorem AnyPin.eq_of_parts {first second : AnyPin} (port : first.port = second.port)
    (pin : first.pin = second.pin) : first = second := by
  cases first
  cases second
  cases port
  cases pin
  rfl

theorem Hub75Pins8.presents {profile : Profile}
    {red1 grn1 blu1 red2 grn2 blu2 latch blank : AnyPin} {group : Hub75Pins8}
    (accepted : Hub75Pins8.new profile red1 grn1 blu1 red2 grn2 blu2 latch blank = .ok group)
    (odr : Nat -> Addr) (speed : Speed) (gpio : Gpio) :
    Presents odr Hub75Pins8.dmaWordSize #v[red1, grn1, blu1, red2, grn2, blu2, latch, blank]
      (fun pin => if pin = blank then .high else gpio.held odr pin) gpio
      (group.configureAndGetOdr odr speed gpio).1 (group.configureAndGetOdr odr speed gpio).2 := by
  have ready := (Hub75Pins8.new_ready accepted odr speed gpio).2
  have same := Hub75Pins8.new_eq_ok accepted
  rcases (Hub75Pins8.new_judges profile red1 grn1 blu1 red2 grn2 blu2 latch blank).accepts_iff.mp
    ⟨group, accepted⟩ with ⟨port, base, listed, wired⟩
  have place {i : Nat} {pin : AnyPin}
      (found : #v[red1, grn1, blu1, red2, grn2, blu2, latch, blank][i]? = some pin) :
      pin = ⟨port, base + i⟩ := by
    rw [wired i (Vector.getElem?_eq_some_iff.mp found).1] at found
    exact (Option.some.inj found).symm
  have last : blank = ⟨port, base + 7⟩ := place rfl
  have inside : blank.pin < 32 := by
    rw [last]
    rcases mem_halves.mp listed with zero | eight <;> simp only <;> omega
  have onPort {pin : AnyPin}
      (member : pin ∈ #v[red1, grn1, blu1, red2, grn2, blu2, latch, blank]) :
      pin.port = blank.port := by
    rcases Vector.mem_iff_getElem?.mp member with ⟨i, found⟩
    rw [place found, last]
  subst same
  rcases Hub75Pins8.configure_blanks odr
    ⟨#v[red1, grn1, blu1, red2, grn2, blu2, latch, blank], red1.pin⟩ rfl inside speed gpio with
    ⟨blanked, elsewhere⟩
  constructor
  · intro pin member
    by_cases isBlank : pin = blank
    · rw [if_pos isBlank, isBlank]
      exact blanked
    · have otherPin : pin.pin ≠ blank.pin :=
        fun same => isBlank (AnyPin.eq_of_parts (onPort member) same)
      rw [if_neg isBlank, Gpio.level, Hub75Pins8.configure_mode, if_pos member]
      simp only
      rw [elsewhere pin (onPort member) otherPin]
      rfl
  · intro words word i pin found
    exact ready.shows_stream words word found
  · intro words pin other member samePort outside
    have streamed := ready.stream_keeps words member samePort outside
    have blankPort : other.port = blank.port := samePort.trans (onPort member)
    have notBlank : other ≠ blank := fun isBlank =>
      outside (isBlank ▸ Vector.mem_iff_getElem?.mpr ⟨7, rfl⟩)
    have otherPin : other.pin ≠ blank.pin :=
      fun same => notBlank (AnyPin.eq_of_parts blankPort same)
    constructor
    · rw [streamed.mode, Hub75Pins8.configure_mode, if_neg outside]
    · rw [streamed.bit]
      exact elsewhere other blankPort otherPin

theorem Hub75Pins16.presents {pins : Vector AnyPin 16} {group : Hub75Pins16}
    (accepted : Hub75Pins16.new pins = .ok group) (odr : Nat -> Addr) (speed : Speed)
    (gpio : Gpio) :
    Presents odr Hub75Pins16.dmaWordSize pins (gpio.held odr) gpio
      (group.configureAndGetOdr odr speed gpio).1 (group.configureAndGetOdr odr speed gpio).2 := by
  have head : pins[0]? = some pins[0] := Vector.getElem?_eq_getElem (by decide)
  have ready := (Hub75Pins16.new_ready accepted head odr speed gpio).2
  have same := Hub75Pins16.new_eq_ok accepted
  subst same
  constructor
  · intro pin member
    exact Hub75Pins16.configure_level odr ⟨pins⟩ member speed gpio
  · intro words word i pin found
    exact ready.shows_stream words word found
  · intro words pin other member samePort outside
    have streamed := ready.stream_keeps words member samePort outside
    constructor
    · rw [streamed.mode, Hub75Pins16.configure_mode, if_neg outside]
    · rw [streamed.bit, Gpio.odrValue, Hub75Pins16.configure_memory]
      rfl

/-- The configuration of eight pins blanks the panel, that of sixteen shows what the register
holds.  In both, the pins then show the words as they are written, and the other pins of the port
stay as they were before the configuration. -/
theorem configured_pins_present (profile : Profile) (odr : Nat -> Addr) (speed : Speed)
    (gpio : Gpio) :
    (forall red1 grn1 blu1 red2 grn2 blu2 latch blank group,
      Hub75Pins8.new profile red1 grn1 blu1 red2 grn2 blu2 latch blank = .ok group ->
      Presents odr Hub75Pins8.dmaWordSize #v[red1, grn1, blu1, red2, grn2, blu2, latch, blank]
        (fun pin => if pin = blank then .high else gpio.held odr pin) gpio
        (group.configureAndGetOdr odr speed gpio).1
        (group.configureAndGetOdr odr speed gpio).2) ∧
    forall pins group, Hub75Pins16.new pins = .ok group ->
      Presents odr Hub75Pins16.dmaWordSize pins (gpio.held odr) gpio
        (group.configureAndGetOdr odr speed gpio).1
        (group.configureAndGetOdr odr speed gpio).2 := by
  constructor
  · intro red1 grn1 blu1 red2 grn2 blu2 latch blank group accepted
    exact Hub75Pins8.presents accepted odr speed gpio
  · intro pins group accepted
    exact Hub75Pins16.presents accepted odr speed gpio

/-- The upper half of a port, in order. -/
def upperHalf : Hub75Pins8 :=
  ⟨#v[⟨1, 8⟩, ⟨1, 9⟩, ⟨1, 10⟩, ⟨1, 11⟩, ⟨1, 12⟩, ⟨1, 13⟩, ⟨1, 14⟩, ⟨1, 15⟩], 8⟩

/-- Ports whose pins are inputs, with clear registers. -/
def unconfigured : Gpio := ⟨fun _ => 0, fun _ => .input⟩

theorem configured_pins_present_of_upper_half :
    Hub75Pins8.new Profile.release ⟨1, 8⟩ ⟨1, 9⟩ ⟨1, 10⟩ ⟨1, 11⟩ ⟨1, 12⟩ ⟨1, 13⟩ ⟨1, 14⟩ ⟨1, 15⟩ =
        .ok upperHalf ∧
      Presents (fun port => 0x40020014 + 0x400 * BitVec.ofNat 32 port) .oneByte upperHalf.pins
        (fun pin => if pin = ⟨1, 15⟩ then .high else
          unconfigured.held (fun port => 0x40020014 + 0x400 * BitVec.ofNat 32 port) pin)
        unconfigured
        (upperHalf.configureAndGetOdr (fun port => 0x40020014 + 0x400 * BitVec.ofNat 32 port) .high
          unconfigured).1 0x40020415 :=
  ⟨rfl, (configured_pins_present Profile.release
    (fun port => 0x40020014 + 0x400 * BitVec.ofNat 32 port) .high unconfigured).1
      ⟨1, 8⟩ ⟨1, 9⟩ ⟨1, 10⟩ ⟨1, 11⟩ ⟨1, 12⟩ ⟨1, 13⟩ ⟨1, 14⟩ ⟨1, 15⟩ upperHalf rfl⟩

/-- The upper half of a port, with two pins exchanged. -/
example : Hub75Pins8.new Profile.release ⟨1, 8⟩ ⟨1, 9⟩ ⟨1, 10⟩ ⟨1, 11⟩ ⟨1, 12⟩ ⟨1, 13⟩ ⟨1, 15⟩ ⟨1, 14⟩ =
    .error (.error (.pinsNotConsecutive 6 14 15)) := rfl

end Setup
end Driver
end Hub75
