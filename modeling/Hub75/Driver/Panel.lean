import Hub75.Driver.Dma
import Hub75.Driver.GpdmaSwap
import Hub75.Driver.Channel
import Hub75.Machine.Regions

namespace Hub75
namespace Driver

open Machine

/-!
# The drivers with their memory

So far a buffer was an address.  Here the memory behind it is added.  The caller
draws into the buffers it owns, and into no others, since it has them as exclusive
references.  The channel meanwhile reads the words of the block in flight, one
after the other and at its own pace, and writes each to the output data register.
So a word is read long after its transfer was started, and what the panel gets
depends on what the caller has drawn in between.

`handed` records every buffer that was given to `swap`, with its contents at that
moment, newest first.  No step depends on it.
-/

/-- One write of the channel to the output data register. -/
structure Write where
  wordSize : WordSize
  target : Addr
  word : BitVec (8 * wordSize.bytes)

/-- Word `place` of a block in memory, as it is written to the port. -/
def Write.ofMemory (memory : ByteMemory 32) (wordSize : WordSize) (target source : Addr)
    (place : Nat) : Write :=
  ⟨wordSize, target,
    memory.load wordSize.bytes (source + BitVec.ofNat 32 (place * wordSize.bytes))⟩

/-! ## The plain backend -/

namespace Dma

structure Panel where
  system : System
  memory : ByteMemory 32
  fetched : Nat
  output : List Write
  handed : List (Addr × ByteMemory 32)

/-- A step of the driver, a byte drawn by the caller, and a word moved by the channel. -/
inductive PanelLabel
  | driver (label : Label)
  | draw (fbPtr offset : Addr) (byte : BitVec 8)
  | fetch

/-- All words of the outstanding transfer have been moved. -/
def Panel.drained (panel : Panel) : Bool :=
  match panel.system.core.state with
  | none => false
  | some state => state.channel.active.all fun transfer => decide (transfer.elements ≤ panel.fetched)

/-- What a step gives away. -/
def Panel.gives (size : Nat) (panel : Panel) : Label -> List (Addr × ByteMemory 32)
  | .swap fbPtr => [(fbPtr, panel.memory.contents size fbPtr)]
  | _ => []

/-- One step; `size` is the size of the framebuffer type.  The interrupt is the
completion of the outstanding transfer. -/
def Panel.step (profile : Profile) (api : ChannelApi) (size : Nat) (panel : Panel) :
    PanelLabel -> Option Panel
  | .driver label =>
      if label = .isr ∧ panel.drained = false then none
      else
        match panel.system.step profile api label with
        | none => none
        | some system => some { panel with
            system
            fetched := if label = .isr then 0 else panel.fetched
            handed := panel.gives size label ++ panel.handed }
  | .draw fbPtr offset byte =>
      if fbPtr ∈ panel.system.hand ∧ offset.toNat < size then
        some { panel with memory := panel.memory.store 1 (fbPtr + offset) byte }
      else none
  | .fetch =>
      match panel.system.core.state with
      | none => none
      | some state =>
          match state.channel.active with
          | [transfer] =>
              if panel.fetched < transfer.elements then
                some { panel with
                  fetched := panel.fetched + 1
                  output := Write.ofMemory panel.memory transfer.wordSize transfer.target
                    transfer.source panel.fetched :: panel.output }
              else none
          | _ => none

/-- A driver that has just been started on the buffer at `base`. -/
def Panel.started (system : System) (memory : ByteMemory 32) : Panel :=
  ⟨system, memory, 0, [], []⟩

end Dma

/-! ## The GPDMA backends -/

namespace Gpdma

/-- The end of the present block raises the transfer-complete event that the item in
flight asks for.  An item is the last one when its link leads nowhere. -/
def Channel.completes {I : Type} (reading : Reading I) (base : Addr) (size capacity : Nat)
    (channel : Channel I) : Bool :=
  let ended := decide (reading.blockRepeatCount channel.registers ≤ channel.repeats)
  match reading.transferCompleteMode channel.registers with
  | .eachBlock => true
  | .each2DBlock => ended
  | .eachLinkedListItem => ended
  | .lastLinkedListItem =>
      ended && (followLink reading base size capacity channel.registers).isNone

/-- Where the channel finds its items, how it reads them, and the port it writes to. -/
structure ChannelSetup (I : Type) where
  reading : Reading I
  address : Addr
  itemSize : Nat
  wordSize : WordSize
  odrAddr : Addr

/-- The number of words in a block of the item. -/
def ChannelSetup.words {I : Type} (setup : ChannelSetup I) (d : I) : Nat :=
  setup.reading.blockBytes d / setup.wordSize.bytes

/-- The channel holds the registers of the item in flight, whatever the task writes to
the table meanwhile.  The walker of `system` is not used. -/
structure Panel (I : Type) (capacity : Nat) where
  system : System I capacity
  channel : Channel I
  memory : ByteMemory 32
  fetched : Nat
  output : List Write
  handed : List (Addr × ByteMemory 32)

/-- As above, and the end of a block. -/
inductive PanelLabel
  | driver (label : Label)
  | draw (fbPtr offset : Addr) (byte : BitVec 8)
  | fetch
  | block

namespace Panel

variable {I : Type} [Descriptor I] {capacity : Nat}

def gives (size : Nat) (panel : Panel I capacity) : Label -> List (Addr × ByteMemory 32)
  | .swap fbPtr => [(fbPtr, panel.memory.contents size fbPtr)]
  | _ => []

/-- One step.  The steps of the channel are `fetch` and `block`. -/
def step (profile : Profile) (waitCount : Nat) (setup : ChannelSetup I) (size : Nat)
    (panel : Panel I capacity) : PanelLabel -> Option (Panel I capacity)
  | .driver label =>
      if label = .walk then none
      else
        match panel.system.step profile waitCount label with
        | none => none
        | some system => some { panel with system, handed := panel.gives size label ++ panel.handed }
  | .draw fbPtr offset byte =>
      if fbPtr ∈ panel.system.hand ∧ offset.toNat < size then
        some { panel with memory := panel.memory.store 1 (fbPtr + offset) byte }
      else none
  | .fetch =>
      if panel.fetched < setup.words panel.channel.registers then
        some { panel with
          fetched := panel.fetched + 1
          output := Write.ofMemory panel.memory setup.wordSize setup.odrAddr panel.channel.source
            panel.fetched :: panel.output }
      else none
  | .block =>
      if panel.fetched < setup.words panel.channel.registers then none
      else
        match panel.channel.step setup.reading setup.address setup.itemSize panel.system.items with
        | none => none
        | some channel => some { panel with
            channel
            fetched := 0
            system := { panel.system with
              pending := panel.system.pending || panel.channel.completes setup.reading setup.address
                setup.itemSize capacity } }

/-- A driver that has just been started, with the channel at the beginning of an item. -/
def started (system : System I capacity) (d : I) (memory : ByteMemory 32) : Panel I capacity :=
  ⟨system, Channel.load d, memory, 0, [], []⟩

end Panel
end Gpdma
end Driver
end Hub75
