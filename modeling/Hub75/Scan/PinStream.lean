import Hub75.Scan.Wiring
import Hub75.Scan.Writes

namespace Hub75
namespace Driver
namespace Setup

open Machine

/-!
# What the pins show of an output

`Scan.Wiring` says what one stream of words does to the pins of a group.  A running
driver makes many transfers, and its output is a list of writes, newest first, each with its
own target and width.  As long as they all go where the group was configured, the pins follow
the output write by write.
-/

variable {odr : Nat -> Addr} {width : Nat} {pins : Vector AnyPin width} {wordSize : WordSize}
  {address : Addr} {gpio : Gpio} {output : List Write}

/-- The ports after the writes. -/
def Gpio.driven (gpio : Gpio) : List Write -> Gpio
  | [] => gpio
  | write :: earlier => (gpio.driven earlier).write write.wordSize write.target write.word

/-- Every write has the given width and target. -/
def AimedAt (wordSize : WordSize) (address : Addr) (output : List Write) : Prop :=
  forall write, write ∈ output -> write.wordSize = wordSize ∧ write.target = address

theorem aimedAt_nil : AimedAt wordSize address [] := List.forall_mem_nil _

/-- The pins follow the output: after every write pin `i` has the level of bit `i` of its word,
and no other pin of the port has changed since the beginning. -/
structure Follows (odr : Nat -> Addr) (pins : Vector AnyPin width) (gpio : Gpio)
    (output : List Write) : Prop where
  levels : forall later write earlier, output = later ++ write :: earlier ->
    forall i pin, pins[i]? = some pin ->
      (gpio.driven (write :: earlier)).level odr pin = some (.ofBool (write.word.getLsbD i))
  others : forall pin other, pin ∈ pins -> other.port = pin.port -> other ∉ pins ->
    (gpio.driven output).level odr other = gpio.level odr other

/-- One write keeps the group ready, sets its pins and keeps the others. -/
theorem Ready.step (ready : Ready odr wordSize pins gpio address) {write : Write}
    (sameSize : write.wordSize = wordSize) (sameTarget : write.target = address) :
    Ready odr wordSize pins (gpio.write write.wordSize write.target write.word) address ∧
      (forall i pin, pins[i]? = some pin ->
        (gpio.write write.wordSize write.target write.word).level odr pin =
          some (.ofBool (write.word.getLsbD i))) ∧
      forall pin other, pin ∈ pins -> other.port = pin.port -> other ∉ pins ->
        (gpio.write write.wordSize write.target write.word).level odr other =
          gpio.level odr other := by
  rcases write with ⟨size, target, word⟩
  have whole : 8 * wordSize.bytes = width := by
    rcases ready.2 with ⟨_, _, fills, _⟩
    exact fills.whole
  subst whole
  subst sameSize
  subst sameTarget
  refine ⟨ready.stream [word], fun i pin found => ready.drives.sets word i pin found, ?_⟩
  intro pin other member samePort elsewhere
  exact (ready.drives.keeps word pin other member samePort elsewhere).level

/-- A group stays ready throughout an output that is aimed at it. -/
theorem Ready.driven (ready : Ready odr wordSize pins gpio address)
    (aimed : AimedAt wordSize address output) :
    Ready odr wordSize pins (gpio.driven output) address := by
  induction output with
  | nil => exact ready
  | cons write earlier inductionHypothesis =>
      rcases aimed write List.mem_cons_self with ⟨sameSize, sameTarget⟩
      have before := inductionHypothesis fun other member =>
        aimed other (List.mem_cons_of_mem write member)
      exact (before.step sameSize sameTarget).1

theorem Ready.follows (ready : Ready odr wordSize pins gpio address)
    (aimed : AimedAt wordSize address output) : Follows odr pins gpio output := by
  constructor
  · intro later write earlier split i pin found
    have here : forall other, other ∈ write :: earlier -> other ∈ output := by
      intro other member
      rw [split]
      exact List.mem_append_right later member
    rcases aimed write (here write List.mem_cons_self) with ⟨sameSize, sameTarget⟩
    have before := ready.driven fun other member =>
      aimed other (here other (List.mem_cons_of_mem write member))
    exact (before.step sameSize sameTarget).2.1 i pin found
  · intro pin other member samePort elsewhere
    induction output with
    | nil => rfl
    | cons write earlier inductionHypothesis =>
        rcases aimed write List.mem_cons_self with ⟨sameSize, sameTarget⟩
        have rest : AimedAt wordSize address earlier := fun other member =>
          aimed other (List.mem_cons_of_mem write member)
        exact (((ready.driven rest).step sameSize sameTarget).2.2 pin other member samePort
          elsewhere).trans (inductionHypothesis rest)

/-- The words of a picture all go to the port. -/
theorem aimedAt_segmentWrites (layout : Layout) (wordSize : WordSize) (address : Addr)
    (picture : ByteMemory 32) (i : Nat) :
    AimedAt wordSize address (layout.segmentWrites wordSize address picture i) := by
  intro write member
  rcases List.mem_map.mp member with ⟨_, _, same⟩
  subst same
  exact ⟨rfl, rfl⟩

theorem aimedAt_frameWrites (layout : Layout) (wordSize : WordSize) (address : Addr)
    (picture : ByteMemory 32) :
    AimedAt wordSize address (layout.frameWrites wordSize address picture) := by
  intro write member
  rcases List.mem_flatMap.mp member with ⟨i, _, listed⟩
  exact aimedAt_segmentWrites layout wordSize address picture i write listed

/-! ## The two groups -/

/-- A group of pins that its constructor has accepted, with what the driver gets of it: the width
of its words, and its configuration. -/
inductive Accepted (profile : Profile) (odr : Nat -> Addr) : {width : Nat} -> Vector AnyPin width ->
    WordSize -> (Speed -> Gpio -> Gpio × Addr) -> Prop
  | half {red1 grn1 blu1 red2 grn2 blu2 latch blank : AnyPin} {group : Hub75Pins8}
      (accepted : Hub75Pins8.new profile red1 grn1 blu1 red2 grn2 blu2 latch blank = .ok group) :
      Accepted profile odr #v[red1, grn1, blu1, red2, grn2, blu2, latch, blank]
        Hub75Pins8.dmaWordSize (group.configureAndGetOdr odr)
  | whole {pins : Vector AnyPin 16} {group : Hub75Pins16}
      (accepted : Hub75Pins16.new pins = .ok group) :
      Accepted profile odr pins Hub75Pins16.dmaWordSize (group.configureAndGetOdr odr)

/-- A configured group is ready for its words. -/
theorem Accepted.ready {profile : Profile} {configure : Speed -> Gpio -> Gpio × Addr}
    (accepted : Accepted profile odr pins wordSize configure) (speed : Speed) (gpio : Gpio) :
    Ready odr wordSize pins (configure speed gpio).1 (configure speed gpio).2 := by
  cases accepted with
  | half accepted => exact (Hub75Pins8.new_ready accepted odr speed gpio).2
  | @whole pins group accepted =>
      have head : pins[0]? = some pins[0] := Vector.getElem?_eq_getElem (by decide)
      exact (Hub75Pins16.new_ready accepted head odr speed gpio).2

end Setup
end Driver
end Hub75
