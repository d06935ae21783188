import Hub75.Scan.PinStream
import Hub75.Swap.Startup
import Hub75.Swap.PlainDisplay
import Hub75.Swap.GpdmaDisplay

namespace Hub75
namespace Driver

open Setup Machine

/-!
# From the pictures to the pins

The last results about the output end at the writes to a register.  Here they are
followed to the pins.  A group that its constructor has accepted is configured by
`hardware`, which returns the address that the driver is started with; every write of
the driver goes to that address with the width of the group; and so the levels of the
pins are the bits of the pictures.
-/

variable {layout : Layout} {size : Nat}

/-- An output of whole frames goes to one place. -/
theorem aimedAt_of_exhibits {port : Nat × Addr × WordSize} {first shown : ByteMemory 32}
    {offered chosen completed : List (ByteMemory 32)} {output : List Write}
    (exhibits : Exhibits (Dma.frameOf layout port) first offered output chosen completed shown) :
    AimedAt port.2.2 port.2.1 output := by
  rcases exhibits.output_eq with ⟨emitted, split⟩
  intro write member
  have listed := List.mem_reverse.mpr member
  rw [split] at listed
  rcases List.mem_append.mp listed with whole | rest
  · rcases List.mem_flatMap.mp whole with ⟨picture, _, inside⟩
    exact aimedAt_frameWrites layout port.2.2 port.2.1 picture write inside
  · exact aimedAt_frameWrites layout port.2.2 port.2.1 shown write (List.mem_of_mem_take rest)

/-- The GPDMA channel writes to one place, whatever it reads. -/
theorem aimedAt_of_channel {I : Type} [Descriptor I] {capacity : Nat} {profile : Profile}
    {waitCount : Nat} {setup : Gpdma.ChannelSetup I} {system : Gpdma.System I capacity} {d : I}
    {memory : ByteMemory 32} {trace : List Gpdma.PanelLabel} {panel : Gpdma.Panel I capacity}
    (run : Run (Gpdma.Panel.step profile waitCount setup size)
      (Gpdma.Panel.started system d memory) trace panel) :
    AimedAt setup.wordSize setup.odrAddr panel.output := by
  have initially : AimedAt setup.wordSize setup.odrAddr
      (Gpdma.Panel.started system d memory).output := aimedAt_nil
  refine run.invariant (fun _ reached => AimedAt setup.wordSize setup.odrAddr reached.output)
    initially ?_
  intro _ before label after aimed taken
  cases label with
  | driver label =>
      rcases Gpdma.Panel.step_driver taken with ⟨_, _, _, same⟩
      rw [same]
      exact aimed
  | draw fbPtr offset byte =>
      rcases Gpdma.Panel.step_draw taken with ⟨_, same⟩
      rw [same]
      exact aimed
  | fetch =>
      rcases Gpdma.Panel.step_fetch taken with ⟨_, same⟩
      rw [same]
      exact List.forall_mem_cons.mpr ⟨⟨rfl, rfl⟩, aimed⟩
  | block =>
      rcases Gpdma.Panel.step_block taken with ⟨_, _, _, same⟩
      rw [same]
      exact aimed

/-- What the pins show.  Let a pin group be accepted by its constructor, and let the driver be
started with what `hardware` returns for it.  Then in every run of every backend the pins of
the group have after every word the levels of its bits, first pin first, while the other pins
of their port stay as the configuration left them.  With the plain backend the words are those
of whole frames of the pictures handed over.  With a GPDMA backend whose swaps wait for two
interrupts or more, and for segments of whole words, they are those of whole segments of
these pictures, in the order of the scan. -/
theorem pins_show_pictures (profile : Profile) (api : Dma.ChannelApi) (odr : Nat -> Addr)
    {width : Nat} {pins : Vector AnyPin width} {configure : Speed -> Gpio -> Gpio × Addr}
    (resources : Resources) (accepted : Accepted profile odr pins resources.wordSize configure)
    (gpio : Gpio)
    (connected : resources.configureAndGetOdr = fun speed => (configure speed gpio).2)
    {hw : Hardware} (configured : resources.hardware profile = .ok hw) (layout : Layout)
    {size : Nat} (within : layout.Within size) (memory : ByteMemory 32) :
    (forall (core : Dma.IsrCore) (base : Addr) (hand : List Addr) (trace : List Dma.PanelLabel)
        (panel : Dma.Panel),
      (Dma.initialised resources hw).startFirstTransfer profile api (layout.instanceAt base) base =
        .ok core ->
      (base :: hand).Nodup -> (base :: hand).Pairwise (ByteMemory.Apart size) ->
      Run (Dma.Panel.step profile api size) (Dma.Panel.started (Dma.System.started core hand) memory)
        trace panel ->
        Follows odr pins (configure resources.config.gpioSpeed gpio).1 panel.output ∧
        Exists fun chosen => Exists fun completed => Exists fun shown =>
          Exhibits (layout.frameWrites resources.wordSize hw.odrAddr) (memory.contents size base)
            (panel.handed.map Prod.snd) panel.output chosen completed shown) ∧
    (forall (waitCount : Nat) (backend : Gpdma.Backend)
        (launch : Gpdma.Launch profile backend layout) (d : backend.Item)
        (trace : List Gpdma.PanelLabel) (panel : Gpdma.Panel backend.Item backend.capacity),
      launch.odrAddr = hw.odrAddr -> launch.wordSize = resources.wordSize ->
      Run (Gpdma.Panel.step profile waitCount launch.setup size)
        (Gpdma.Panel.started launch.start d memory) trace panel ->
        Follows odr pins (configure resources.config.gpioSpeed gpio).1 panel.output ∧
        (2 ≤ waitCount -> Gpdma.Placement launch.address backend.itemSize backend.capacity ->
          (forall i, i < layout.count -> layout.len i % launch.wordSize.bytes = 0) ->
          (launch.base :: launch.hand).Pairwise (ByteMemory.Apart size) ->
          launch.items[launch.position]? = some d ->
            Exists fun visits => Exists fun segment => Exists fun picture =>
              Relays (weighted layout.reps layout.count) launch.place
                (fun i shown => layout.segmentWrites resources.wordSize hw.odrAddr shown i)
                (panel.handed.map Prod.snd ++ [memory.contents size launch.base]) panel.output
                visits segment picture panel.fetched)) := by
  have ready : Ready odr resources.wordSize pins (configure resources.config.gpioSpeed gpio).1
      hw.odrAddr := by
    have everywhere := fun speed => accepted.ready speed gpio
    unfold Resources.hardware at configured
    rw [connected] at configured
    exact hardware_ready everywhere configured
  constructor
  · intro core base hand trace panel started distinct apart run
    rcases Dma.Relates.run memory (show (Dma.initialised resources hw).state = some _ from rfl) rfl
      started distinct within apart run with ⟨events, display, shows, state, related⟩
    rcases related.exhibits shows with ⟨chosen, exhibits⟩
    exact ⟨ready.follows (aimedAt_of_exhibits exhibits), chosen, display.completed, _, exhibits⟩
  · intro waitCount backend launch d trace panel sameAddr sameSize run
    have aimed : AimedAt launch.wordSize launch.odrAddr panel.output := aimedAt_of_channel run
    rw [sameAddr, sameSize] at aimed
    refine ⟨ready.follows aimed, fun twice placement whole apart loaded => ?_⟩
    rcases Gpdma.Airs.run twice launch memory placement whole within apart loaded run with
      ⟨chain, steps, system, _, airs⟩
    rcases airs.aired with ⟨buffer, _, _, visits, _, relays⟩
    refine ⟨visits, backend.segment layout system.walker.index, panel.memory.contents size buffer, ?_⟩
    rw [← sameAddr, ← sameSize]
    exact relays

/-- The pins of the upper half of a port after their configuration. -/
def exampleGpio : Gpio :=
  (Hub75Pins8.configureAndGetOdr (fun _ => 0x40020814) upperHalf
    exampleResources.config.gpioSpeed ⟨fun _ => 0, fun _ => .analog⟩).1

/-- The first words of both kinds of driver, seen on these pins. -/
theorem pins_show_pictures_of_port :
    (Exists fun panel => execute (Dma.Panel.step Profile.release Dma.assertingApi 128)
        (Dma.Panel.started (Dma.System.started Dma.startedCore [0x20002000]) fun _ => 0)
        [.fetch, .draw 0x20002000 3 0xFF, .fetch] = some panel ∧ panel.output.length = 2 ∧
      Follows (fun _ => 0x40020814) upperHalf.pins exampleGpio panel.output) ∧
    (Exists fun panel => execute
        (Gpdma.Panel.step Profile.release 2 Gpdma.exampleLaunch.setup 128)
        (Gpdma.Panel.started Gpdma.exampleLaunch.start Gpdma.exampleItems[1] fun _ => 0)
        [.fetch, .draw 0x20002000 3 0xFF, .fetch] = some panel ∧ panel.output.length = 2 ∧
      Follows (fun _ => 0x40020814) upperHalf.pins exampleGpio panel.output ∧
      Exists fun visits => Exists fun segment => Exists fun picture =>
        Relays (weighted Layout.twoSegments.reps 2) Gpdma.exampleLaunch.place
          (fun i shown => Layout.twoSegments.segmentWrites .oneByte 0x40020815 shown i)
          (panel.handed.map Prod.snd ++ [ByteMemory.contents (fun _ => 0) 128 0x20000000])
          panel.output visits segment picture panel.fetched) := by
  have accepted : Accepted Profile.release (fun _ => 0x40020814) upperHalf.pins .oneByte
      (Hub75Pins8.configureAndGetOdr (fun _ => 0x40020814) upperHalf) := .half rfl
  have shown := pins_show_pictures Profile.release Dma.assertingApi (fun _ => 0x40020814)
    exampleResources accepted ⟨fun _ => 0, fun _ => .analog⟩ rfl
    (show exampleResources.hardware Profile.release = .ok _ from rfl) Layout.twoSegments
    Layout.twoSegments_within (fun _ => 0)
  have plain : (execute (Dma.Panel.step Profile.release Dma.assertingApi 128)
      (Dma.Panel.started (Dma.System.started Dma.startedCore [0x20002000]) fun _ => 0)
      [.fetch, .draw 0x20002000 3 0xFF, .fetch]).map (fun panel => panel.output.length) =
        some 2 := by decide +kernel
  have gpdma : (execute (Gpdma.Panel.step Profile.release 2 Gpdma.exampleLaunch.setup 128)
      (Gpdma.Panel.started Gpdma.exampleLaunch.start Gpdma.exampleItems[1] fun _ => 0)
      [.fetch, .draw 0x20002000 3 0xFF, .fetch]).map (fun panel => panel.output.length) =
        some 2 := by decide +kernel
  rcases Option.map_eq_some_iff.mp plain with ⟨panel, executed, emitted⟩
  rcases Option.map_eq_some_iff.mp gpdma with ⟨channel, followed, relayed⟩
  have placement : Gpdma.Placement Gpdma.exampleLaunch.address Gpdma.Backend.linear.itemSize
      Gpdma.Backend.linear.capacity := ⟨by decide, by decide⟩
  rcases shown.2 2 .linear Gpdma.exampleLaunch Gpdma.exampleItems[1] _ channel rfl rfl
    (run_of_execute followed) with ⟨follows, pictures⟩
  refine ⟨⟨panel, executed, emitted, ?_⟩, channel, followed, relayed, follows, ?_⟩
  · exact (shown.1 Dma.startedCore 0x20000000 [0x20002000] _ panel rfl (by decide)
      exampleBuffers_apart (run_of_execute executed)).1
  · exact pictures (Nat.le_refl 2) placement (by decide) exampleBuffers_apart
      (Vector.getElem?_eq_getElem (by decide))

end Driver
end Hub75
