import Hub75.Driver.Dma
import Hub75.Driver.GpdmaSwap
import Hub75.Driver.Backend
import Hub75.Driver.Setup

namespace Hub75
namespace Driver

open Setup Machine

/-!
# A driver instance in a program

`hub75_define!` makes a module with static variables, an interrupt handler, and the
function `init`.  The handler is bound before `init` runs, so it can be called when the
statics still hold their initial values, and it has to find that out.  The handle
that `init` returns is the only way to the task side of the driver.

Here the program is modelled from reset on.  The interrupt calls the handler and not
the core, and the pixel clock ticks whenever it runs.  A program is taken to call `init`
at most once.
-/

/-! ## The timer in its slot -/

/-- A configured timer, its enable bit, and its counter. -/
structure Clock where
  timer : Timer
  running : Bool
  count : Nat
deriving DecidableEq, Repr

namespace Clock

def stop (clock : Clock) : Clock := { clock with running := false }

def reset (clock : Clock) : Clock := { clock with count := 0 }

def start (clock : Clock) : Clock := { clock with running := true }

/-- `store_timer`, on the timer that `hardware` has just configured. -/
def stored (timer : Timer) : Clock := ⟨timer, false, 0⟩

/-- One period of the timer's input clock. -/
def tick (clock : Clock) : Clock :=
  if clock.running then { clock with count := clock.timer.nextCount clock.count } else clock

end Clock

/-- What `init` is given besides the framebuffer. -/
structure Resources where
  configureAndGetOdr : Speed -> Addr
  setFrequency : Nat -> Nat
  timer : Timer
  config : Config
  wordSize : WordSize
  request : Nat

/-- `hardware` on these resources. -/
def Resources.hardware (profile : Profile) (resources : Resources) : Except Panic Hardware :=
  Setup.hardware profile resources.configureAndGetOdr resources.setFrequency resources.timer
    resources.config

/-! ## The plain backend -/

namespace Dma

/-- The statics `TIMER` and `CORE`. -/
structure Instance where
  timer : Option Clock
  core : IsrCore

namespace Instance

def statics : Instance := ⟨none, IsrCore.new⟩

/-- `Hub75DmaHandler::on_interrupt`. -/
def onInterrupt (profile : Profile) (api : ChannelApi) (inst : Instance) :
    Except Panic Instance :=
  match inst.timer with
  | none => .ok inst
  | some clock => do
      let clock := clock.stop.reset
      let core ← inst.core.onDmaComplete profile api
      return ⟨some clock.start, core⟩

/-- `Hub75::new`. -/
def new (profile : Profile) (api : ChannelApi) (resources : Resources) (fb : FrameBuffer)
    (fbPtr : Addr) (inst : Instance) : Except Panic Instance := do
  let hw ← resources.hardware profile
  let core := inst.core.initState ⟨⟨[]⟩, none, resources.request, hw.odrAddr, resources.wordSize,
    BcmState.new, 0, none, 0, 0⟩
  let core ← core.startFirstTransfer profile api fb fbPtr
  return ⟨some (Clock.stored hw.timer).start, core⟩

end Instance

/-- The statics, the handle once there is one, and the buffers of the caller. -/
structure Program where
  inst : Instance
  handle : Option (Option Addr × Phase Nat)
  hand : List Addr

/-- A call of the handler, a tick of the timer, the call of `init`, and a step of the
task with its handle. -/
inductive Event
  | interrupt
  | tick
  | init (fbPtr : Addr)
  | call (label : Label)

namespace Program

def reset (hand : List Addr) : Program := ⟨Instance.statics, none, hand⟩

/-- One step of a program that calls `init` once.  This is an assumption: `init` takes
the peripherals by value, but nothing keeps a program from obtaining them again, and
a second call would replace the statics under the first handle. -/
def step (profile : Profile) (api : ChannelApi) (resources : Resources) (layout : Layout)
    (program : Program) : Event -> Option Program
  | .interrupt =>
      match program.inst.onInterrupt profile api with
      | .error _ => none
      | .ok inst => some { program with inst }
  | .tick => some { program with
      inst := { program.inst with timer := program.inst.timer.map Clock.tick } }
  | .init fbPtr =>
      if program.handle = none ∧ fbPtr ∈ program.hand then
        match program.inst.new profile api resources (layout.instanceAt fbPtr) fbPtr with
        | .error _ => none
        | .ok inst => some ⟨inst, some (none, .idle), program.hand.erase fbPtr⟩
      else none
  | .call label =>
      match program.handle with
      | none => none
      | some (held, phase) =>
          if label = .isr then none
          else
            match System.step profile api ⟨program.inst.core, held, phase, program.hand⟩ label with
            | none => none
            | some next => some ⟨{ program.inst with core := next.core },
                some (next.held, next.phase), next.hand⟩

end Program
end Dma

/-! ## The GPDMA backends -/

namespace Gpdma

/-- The statics `TIMER`, `CORE` and `ITEMS`. -/
structure Instance (I : Type) (capacity : Nat) where
  timer : Option Clock
  core : IsrCore
  items : Vector I capacity

namespace Instance

def statics {I : Type} {capacity : Nat} (zeroed : I) : Instance I capacity :=
  ⟨none, IsrCore.new, Vector.replicate capacity zeroed⟩

/-- `Hub75DmaHandler::on_interrupt`. -/
def onInterrupt {I : Type} {capacity : Nat} (profile : Profile) (inst : Instance I capacity) :
    Except Panic (Instance I capacity) :=
  if inst.timer.isNone then .ok inst
  else do
    let core ← inst.core.onFrame profile
    return { inst with core }

/-- `Hub75::new`, with the number of active items in the handle. -/
def new (profile : Profile) (backend : Backend) (api : ItemApi backend.Config backend.Item)
    (address : Addr) (resources : Resources) (fb : FrameBuffer)
    (inst : Instance backend.Item backend.capacity) :
    Except Panic (Instance backend.Item backend.capacity × Nat) := do
  let hw ← resources.hardware profile
  let (items, descriptorCount) ← backend.build profile api address inst.items fb hw.odrAddr
    resources.wordSize resources.request
  return ({ inst with timer := some (Clock.stored hw.timer).start, items }, descriptorCount)

end Instance

/-- The fields of the handle, and the channel that was started with it. -/
structure Handle where
  descriptorCount : Nat
  currentFbPtr : Addr
  progress : Progress
  walker : Walker
  pending : Bool

structure Program (I : Type) (capacity : Nat) where
  inst : Instance I capacity
  handle : Option Handle
  hand : List Addr

/-- As above. -/
inductive Event
  | interrupt
  | tick
  | init (fbPtr : Addr)
  | call (label : Label)

namespace Program

variable {I : Type} [Descriptor I] {capacity : Nat}

def reset (zeroed : I) (hand : List Addr) : Program I capacity :=
  ⟨Instance.statics zeroed, none, hand⟩

/-- The driver in use that a program with a handle is. -/
def system (program : Program I capacity) (handle : Handle) : System I capacity where
  core := program.inst.core
  items := program.inst.items
  descriptorCount := handle.descriptorCount
  currentFbPtr := handle.currentFbPtr
  progress := handle.progress
  walker := handle.walker
  pending := handle.pending
  hand := program.hand

/-- A program whose driver has become `system`. -/
def withSystem (program : Program I capacity) (system : System I capacity) :
    Program I capacity where
  inst := { program.inst with core := system.core, items := system.items }
  handle := some ⟨system.descriptorCount, system.currentFbPtr, system.progress, system.walker,
    system.pending⟩
  hand := system.hand

/-- One step of a program that calls `init` once, as above.  Once the channel runs, the
handler is called when the transfer-complete flag is pending, and it clears the flag;
before that the interrupt is none of this driver's. -/
def step (profile : Profile) (waitCount : Nat) (backend : Backend)
    (api : ItemApi backend.Config backend.Item) (address : Addr) (resources : Resources)
    (layout : Layout) (program : Program backend.Item backend.capacity) :
    Event -> Option (Program backend.Item backend.capacity)
  | .interrupt =>
      match program.handle with
      | none =>
          match program.inst.onInterrupt profile with
          | .error _ => none
          | .ok inst => some { program with inst }
      | some handle =>
          if handle.pending then
            match program.inst.onInterrupt profile with
            | .error _ => none
            | .ok inst => some { program with inst, handle := some { handle with pending := false } }
          else none
  | .tick => some { program with
      inst := { program.inst with timer := program.inst.timer.map Clock.tick } }
  | .init fbPtr =>
      if program.handle = none ∧ fbPtr ∈ program.hand then
        match program.inst.new profile backend api address resources (layout.instanceAt fbPtr) with
        | .error _ => none
        | .ok (inst, count) =>
            some ({ program with inst }.withSystem
              { System.started inst.items count fbPtr (program.hand.erase fbPtr) 0 false with
                core := inst.core })
      else none
  | .call label =>
      match program.handle with
      | none => none
      | some handle =>
          if label = .isr then none
          else (System.step profile waitCount (program.system handle) label).map program.withSystem

end Program
end Gpdma
end Driver
end Hub75
