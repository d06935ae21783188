import Hub75.Driver.Setup
import Hub75.Machine.ByteMemory
import Hub75.Machine.Prefixes
import Mathlib.Logic.Function.Basic

namespace Hub75
namespace Driver
namespace Setup

open Machine

/-!
# The data pins

The data pins of a panel are the eight pins of one half of a GPIO port, or all
sixteen.  Both constructors check the pins that the caller lists, one after the other,
and a group of accepted pins is configured as outputs before the first transfer.  From then
on only the DMA touches them: it writes words to an address within the output data
register of the port.

Ports and pins are known by their numbers.  Where a port has its output data register is a
parameter.  The register is little-endian memory, as the source says, and an
output drives its bit of it.
-/

/-- `AnyPin` of embassy-stm32. -/
structure AnyPin where
  port : Nat
  pin : Nat
deriving DecidableEq, Repr

/-- `Level` of embassy-stm32. -/
inductive Level
  | low
  | high
deriving DecidableEq, Repr

def Level.ofBool : Bool -> Level
  | false => low
  | true => high

/-- The mode of a pin, with the speed of an output. -/
inductive PinMode
  | input
  | output (speed : Speed)
  | alternate
  | analog
deriving DecidableEq, Repr

/-- The GPIO ports: the memory that holds their output data registers, and the modes of the pins. -/
structure Gpio where
  memory : ByteMemory 32
  mode : AnyPin -> PinMode

namespace Gpio

/-- The output data register of a port. -/
def odrValue (odr : Nat -> Addr) (gpio : Gpio) (port : Nat) : BitVec 32 :=
  gpio.memory.load 4 (odr port)

/-- The level that a pin drives, if it is an output. -/
def level (odr : Nat -> Addr) (gpio : Gpio) (pin : AnyPin) : Option Level :=
  match gpio.mode pin with
  | .output _ => some (.ofBool ((gpio.odrValue odr pin.port).getLsbD pin.pin))
  | _ => none

/-- `Flex::set_level`.  The set/reset register changes one bit of the output data register. -/
def setLevel (odr : Nat -> Addr) (gpio : Gpio) (pin : AnyPin) (level : Level) : Gpio :=
  let value := gpio.odrValue odr pin.port
  let bit := BitVec.twoPow 32 pin.pin
  { gpio with
    memory := gpio.memory.store 4 (odr pin.port) <| match level with
      | .high => value ||| bit
      | .low => value &&& ~~~bit }

/-- `Flex::set_as_output`, for a pin that `Flex::new` has only wrapped. -/
def setAsOutput (gpio : Gpio) (pin : AnyPin) (speed : Speed) : Gpio :=
  { gpio with mode := Function.update gpio.mode pin (.output speed) }

/-- A DMA write of one word. -/
def write {v : Nat} (gpio : Gpio) (wordSize : WordSize) (address : Addr) (word : BitVec v) : Gpio :=
  { gpio with memory := gpio.memory.store wordSize.bytes address word }

end Gpio

/-! ## Checking the pins -/

/-- `u8` addition with the overflow behaviour of the build. -/
def u8Add (profile : Profile) (a b : Nat) : Except Panic Nat :=
  if a + b < 0x100 then .ok (a + b)
  else if profile.overflowChecks then .error .arithmeticOverflow
  else .ok ((a + b) % 0x100)

/-- The loop body of both constructors, which cast the index to `u8`. -/
def checkPin (port : Nat) (expectedAt : Nat -> Except Panic Nat) (index : Nat) (pin : AnyPin) :
    Except Fault Unit :=
  let i := index % 0x100
  if pin.port ≠ port then .error (.error (.pinNotOnSamePort i))
  else do
    let expected ← (expectedAt i).mapError .panic
    if pin.pin ≠ expected then .error (.error (.pinsNotConsecutive i expected pin.pin)) else .ok ()

/-- The checks of both constructors.  They differ in the numbers that the first pin may
have, and in how they compute the number expected of another one. -/
def checkPins {width : Nat} (first : AnyPin) (misplaced : Prop) [Decidable misplaced]
    (expectedAt : Nat -> Except Panic Nat) (pins : Vector AnyPin width) : Except Fault Unit :=
  if misplaced then .error (.error (.pinsNotConsecutive 0 0 first.pin))
  else checkFrom (checkPin first.port expectedAt) 0 pins.toList

/-! ## Half a port -/

/-- `Hub75Pins8`. -/
structure Hub75Pins8 where
  pins : Vector AnyPin 8
  basePin : Nat
deriving DecidableEq, Repr

namespace Hub75Pins8

/-- `Hub75Pins8::new`. -/
def new (profile : Profile) (red1 grn1 blu1 red2 grn2 blu2 latch blank : AnyPin) :
    Except Fault Hub75Pins8 := do
  let pins : Vector AnyPin 8 := #v[red1, grn1, blu1, red2, grn2, blu2, latch, blank]
  let first := pins[0].pin
  checkPins pins[0] (first ≠ 0 ∧ first ≠ 8) (fun i => u8Add profile first i) pins
  return { pins, basePin := first }

/-- `Hub75Pins::DMA_WORD_SIZE`. -/
def dmaWordSize : WordSize := .oneByte

/-- `configure_and_get_odr`: the last pin blanks the panel and starts high. -/
def configureAndGetOdr (odr : Nat -> Addr) (group : Hub75Pins8) (speed : Speed) (gpio : Gpio) :
    Gpio × Addr :=
  let byteOffset : Addr := if group.basePin ≠ 0 then 1 else 0
  let odrByteAddr := odr group.pins[0].port + byteOffset
  let gpio := group.pins.toList.zipIdx.foldl (fun gpio (pin, i) =>
    let gpio := if i = 7 then gpio.setLevel odr pin .high else gpio
    gpio.setAsOutput pin speed) gpio
  (gpio, odrByteAddr)

end Hub75Pins8

/-! ## A whole port -/

/-- `Hub75Pins16`. -/
structure Hub75Pins16 where
  pins : Vector AnyPin 16
deriving DecidableEq, Repr

namespace Hub75Pins16

/-- `Hub75Pins16::new`. -/
def new (pins : Vector AnyPin 16) : Except Fault Hub75Pins16 := do
  let first := pins[0].pin
  checkPins pins[0] (first ≠ 0) (fun i => .ok i) pins
  return { pins }

/-- `Hub75Pins::DMA_WORD_SIZE`. -/
def dmaWordSize : WordSize := .twoBytes

/-- `configure_and_get_odr`. -/
def configureAndGetOdr (odr : Nat -> Addr) (group : Hub75Pins16) (speed : Speed) (gpio : Gpio) :
    Gpio × Addr :=
  let odrAddr := odr group.pins[0].port
  let gpio := group.pins.toList.foldl (fun gpio pin => gpio.setAsOutput pin speed) gpio
  (gpio, odrAddr)

end Hub75Pins16
end Setup
end Driver
end Hub75
