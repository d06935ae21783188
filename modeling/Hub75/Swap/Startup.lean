import Hub75.Swap.PlainSafety
import Hub75.Swap.GpdmaRebuild
import Hub75.Driver.Instance

namespace Hub75
namespace Driver

open Setup Machine

/-!
# From reset to a running driver

The results about a driver in use start where `init` has just returned.  Here the
program is followed from reset.  Whatever the interrupt does before that, `init` finds
the statics as they were declared, and afterwards every run of the program is a run of
the driver.  In the plain backend the handler restarts the pixel clock together with the
transfer; in the GPDMA backends the clock is never stopped.
-/

/-- One tick of a running clock. -/
theorem Clock.tick_started (timer : Timer) (ticks : Nat) :
    Clock.tick ⟨timer, true, ticks % (timer.autoReload + 1)⟩ =
      ⟨timer, true, (ticks + 1) % (timer.autoReload + 1)⟩ := by
  have below : ticks % (timer.autoReload + 1) < timer.autoReload + 1 :=
    Nat.mod_lt ticks (Nat.succ_pos timer.autoReload)
  simp only [Clock.tick, if_true, Timer.nextCount, Clock.mk.injEq, true_and]
  rw [← Nat.mod_add_mod]
  split
  · next last => rw [last, Nat.mod_self]
  · next inner => exact (Nat.mod_eq_of_lt (by omega)).symm

/-- A 16-bit timer with ten input clocks to the pixel, and the upper byte of a port. -/
def exampleResources : Resources where
  configureAndGetOdr _ := 0x40020815
  setFrequency _ := 9
  timer := ⟨.bits16, .edgeAlignedUp, 0, false, .frozen, false, false, 0, false, false⟩
  config := Config.new
  wordSize := .oneByte
  request := 5

/-! ## The plain backend -/

namespace Dma

variable {profile : Profile} {api : ChannelApi} {resources : Resources} {layout : Layout}
  {hand : List Addr} {program after : Program} {trace : List Event}

/-- The core that `init` leaves in its critical section, before the first transfer. -/
def initialised (resources : Resources) (hw : Hardware) : IsrCore :=
  IsrCore.new.initState ⟨⟨[]⟩, none, resources.request, hw.odrAddr, resources.wordSize,
    BcmState.new, 0, none, 0, 0⟩

/-- What the driver has seen since `init`. -/
def driverSteps : List Event -> List Label
  | [] => []
  | .interrupt :: trace => .isr :: driverSteps trace
  | .tick :: trace => driverSteps trace
  | .init _ :: _ => []
  | .call label :: trace => label :: driverSteps trace

/-- The ticks since the clock was started last. -/
def ticks : List Event -> Nat
  | [] => 0
  | .interrupt :: _ => 0
  | .tick :: trace => ticks trace + 1
  | .init _ :: _ => 0
  | .call _ :: trace => ticks trace

/-- The program is the given driver, and its clock runs. -/
structure Program.Is (program : Program) (timer : Timer) (count : Nat) (system : System) : Prop where
  core : program.inst.core = system.core
  handle : program.handle = some (system.held, system.phase)
  hand : program.hand = system.hand
  timer : program.inst.timer = some ⟨timer, true, count⟩

/-- The program has been initialised on the buffer at `base`, and has run as the driver
does since. -/
structure Begun (profile : Profile) (api : ChannelApi) (resources : Resources) (layout : Layout)
    (hand : List Addr) (trace : List Event) (program : Program) (base : Addr) (hw : Hardware)
    (core : IsrCore) (system : System) : Prop where
  owned : base ∈ hand
  configured : resources.hardware profile = .ok hw
  started : (initialised resources hw).startFirstTransfer profile api (layout.instanceAt base) base =
    .ok core
  run : Run (System.step profile api) (System.started core (hand.erase base)) (driverSteps trace) system
  is : program.Is hw.timer (ticks trace % (hw.timer.autoReload + 1)) system

/-- Either nothing has happened yet, or the driver runs. -/
def FromReset (profile : Profile) (api : ChannelApi) (resources : Resources) (layout : Layout)
    (hand : List Addr) (trace : List Event) (program : Program) : Prop :=
  (program = Program.reset hand ∧ forall event, event ∈ trace -> event = .interrupt ∨ event = .tick) ∨
    Exists fun base => Exists fun hw => Exists fun core => Exists fun system =>
      Begun profile api resources layout hand trace program base hw core system

/-- Before `init` the handler finds no timer and leaves everything alone. -/
theorem reset_step {event : Event}
    (quiet : forall event, event ∈ trace -> event = .interrupt ∨ event = .tick)
    (taken : Program.step profile api resources layout (Program.reset hand) event = some after) :
    FromReset profile api resources layout hand (event :: trace) after := by
  cases event with
  | interrupt =>
      cases taken
      exact Or.inl ⟨rfl, List.forall_mem_cons.mpr ⟨Or.inl rfl, quiet⟩⟩
  | tick =>
      cases taken
      exact Or.inl ⟨rfl, List.forall_mem_cons.mpr ⟨Or.inr rfl, quiet⟩⟩
  | call label => cases taken
  | init base =>
      simp only [Program.step, Program.reset] at taken
      split at taken
      · next allowed =>
          split at taken
          · cases taken
          · next inst initialised_ok =>
              rcases bind_eq_ok.mp initialised_ok with ⟨hw, configured, continued⟩
              rcases bind_eq_ok.mp continued with ⟨core, started, same⟩
              cases same
              cases taken
              exact Or.inr ⟨base, hw, core, System.started core (hand.erase base), allowed.2,
                configured, started, .refl, rfl, rfl, rfl, by rw [ticks, Nat.zero_mod]; rfl⟩
      · cases taken

theorem Begun.step {base : Addr} {hw : Hardware} {core : IsrCore} {system : System} {event : Event}
    (begun : Begun profile api resources layout hand trace program base hw core system)
    (taken : Program.step profile api resources layout program event = some after) :
    Exists fun next =>
      Begun profile api resources layout hand (event :: trace) after base hw core next := by
  rcases begun.is with ⟨sameCore, sameHandle, sameHand, sameTimer⟩
  cases event with
  | interrupt =>
      simp only [Program.step, Instance.onInterrupt, sameTimer] at taken
      split at taken
      · cases taken
      · next inst handled =>
          rcases bind_eq_ok.mp handled with ⟨next, completed, same⟩
          cases same
          cases taken
          have moved : System.step profile api system .isr = some { system with core := next } := by
            simp only [System.step, ← sameCore, completed]
          refine ⟨_, begun.owned, begun.configured, begun.started, begun.run.snoc moved, rfl,
            sameHandle, sameHand, ?_⟩
          rw [ticks, Nat.zero_mod]
          rfl
  | tick =>
      cases taken
      refine ⟨system, begun.owned, begun.configured, begun.started, begun.run, sameCore, sameHandle,
        sameHand, ?_⟩
      change program.inst.timer.map Clock.tick = _
      rw [sameTimer, Option.map_some, Clock.tick_started]
      rfl
  | init other =>
      simp only [Program.step, sameHandle, reduceCtorEq, false_and, if_false] at taken
  | call label =>
      simp only [Program.step, sameHandle] at taken
      split at taken
      · cases taken
      · split at taken
        · cases taken
        · next next moved =>
            cases taken
            have whole : (⟨program.inst.core, system.held, system.phase, program.hand⟩ : System) =
                system := by
              rw [sameCore, sameHand]
            rw [whole] at moved
            exact ⟨next, begun.owned, begun.configured, begun.started, begun.run.snoc moved, rfl, rfl,
              rfl, sameTimer⟩

/-- From reset on, a program with the plain backend that calls `init` once is the driver.
However often the interrupt comes before `init`, it changes nothing.  After `init` the
program is in the state that the driver reaches by the same interrupts and calls, from
`start_first_transfer` on the statics as they were declared.  The pixel clock runs as
`hardware` has configured it, and it starts afresh with every interrupt.  That `init` is
not called again is assumed in `Program.step`; nothing in the driver enforces it. -/
theorem program_runs_driver (profile : Profile) (api : ChannelApi) (resources : Resources)
    (layout : Layout) (hand : List Addr) {trace : List Event} {program : Program}
    (run : Run (Program.step profile api resources layout) (Program.reset hand) trace program) :
    FromReset profile api resources layout hand trace program := by
  refine run.invariant (FromReset profile api resources layout hand)
    (Or.inl ⟨rfl, fun _ impossible => nomatch impossible⟩) ?_
  intro trace before event after reached taken
  rcases reached with ⟨untouched, quiet⟩ | ⟨base, hw, core, system, begun⟩
  · subst untouched
    exact reset_step quiet taken
  · rcases begun.step taken with ⟨next, still⟩
    exact Or.inr ⟨base, hw, core, next, still⟩

/-- An interrupt that comes too early, `init`, one frame of three interrupts with a tick of
the clock before the first, and a buffer handed over. -/
theorem program_runs_driver_of_start :
    Exists fun program => execute
        (Program.step Profile.release assertingApi exampleResources Layout.twoSegments)
        (Program.reset [0x20000000, 0x20002000])
        [.interrupt, .init 0x20000000, .tick, .interrupt, .interrupt, .interrupt,
          .call (.swap 0x20002000), .call (.enter 7), .tick] = some program ∧
      program.inst.core.frameCount = 1 ∧ program.inst.timer.map Clock.count = some 1 ∧
      FromReset Profile.release assertingApi exampleResources Layout.twoSegments
        [0x20000000, 0x20002000] [.tick, .call (.enter 7), .call (.swap 0x20002000), .interrupt,
          .interrupt, .interrupt, .tick, .init 0x20000000, .interrupt] program := by
  have runs : (execute (Program.step Profile.release assertingApi exampleResources Layout.twoSegments)
      (Program.reset [0x20000000, 0x20002000])
      [.interrupt, .init 0x20000000, .tick, .interrupt, .interrupt, .interrupt,
        .call (.swap 0x20002000), .call (.enter 7), .tick]).map
          (fun program => (program.inst.core.frameCount, program.inst.timer.map Clock.count)) =
            some (1, some 1) := by decide +kernel
  rcases Option.map_eq_some_iff.mp runs with ⟨program, executed, reached⟩
  exact ⟨program, executed, congrArg Prod.fst reached, congrArg Prod.snd reached,
    program_runs_driver Profile.release assertingApi exampleResources Layout.twoSegments
      [0x20000000, 0x20002000] (run_of_execute executed)⟩

end Dma

/-! ## The GPDMA backends -/

namespace Gpdma

variable {profile : Profile} {waitCount : Nat} {backend : Backend}
  {api : ItemApi backend.Config backend.Item} {reading : Reading backend.Item} {address : Addr}
  {resources : Resources} {layout : Layout} {hand : List Addr} {zeroed : backend.Item}
  {program after : Program backend.Item backend.capacity} {trace : List Event}

/-- What the driver has seen since `init`. -/
def driverSteps : List Event -> List Label
  | [] => []
  | .interrupt :: trace => .isr :: driverSteps trace
  | .tick :: trace => driverSteps trace
  | .init _ :: _ => []
  | .call label :: trace => label :: driverSteps trace

/-- The ticks since `init`. -/
def ticks : List Event -> Nat
  | [] => 0
  | .tick :: trace => ticks trace + 1
  | .init _ :: _ => 0
  | _ :: trace => ticks trace

/-- The program has been initialised as the launch says, and has run as the driver does
since. -/
structure Begun (waitCount : Nat) (api : ItemApi backend.Config backend.Item)
    (reading : Reading backend.Item) (address : Addr) (zeroed : backend.Item) (resources : Resources)
    (hand : List Addr) (trace : List Event) (program : Program backend.Item backend.capacity)
    (hw : Hardware) (launch : Launch profile backend layout)
    (system : System backend.Item backend.capacity) : Prop where
  owned : launch.base ∈ hand ∧ launch.hand = hand.erase launch.base
  configured : resources.hardware profile = .ok hw
  table : launch.api = api ∧ launch.reading = reading ∧ launch.address = address ∧
    launch.items0 = Vector.replicate backend.capacity zeroed
  port : launch.odrAddr = hw.odrAddr ∧ launch.wordSize = resources.wordSize ∧
    launch.request = resources.request
  channel : launch.position = 0 ∧ launch.pending = false
  run : Run (System.step profile waitCount) launch.start (driverSteps trace) system
  is : program = program.withSystem system
  timer : program.inst.timer = some ⟨hw.timer, true, ticks trace % (hw.timer.autoReload + 1)⟩

/-- Either nothing has happened yet, or the driver runs. -/
def FromReset (profile : Profile) (waitCount : Nat) (api : ItemApi backend.Config backend.Item)
    (reading : Reading backend.Item) (address : Addr) (zeroed : backend.Item) (resources : Resources)
    (layout : Layout) (hand : List Addr) (trace : List Event)
    (program : Program backend.Item backend.capacity) : Prop :=
  (program = Program.reset zeroed hand ∧
      forall event, event ∈ trace -> event = .interrupt ∨ event = .tick) ∨
    Exists fun hw => Exists fun launch : Launch profile backend layout => Exists fun system =>
      Begun waitCount api reading address zeroed resources hand trace program hw launch system

theorem reset_step {event : Event} (lawful : Lawful api reading backend.plan)
    (asks : ¬ layout.Blank) (distinct : hand.Nodup)
    (quiet : forall event, event ∈ trace -> event = .interrupt ∨ event = .tick)
    (taken : Program.step profile waitCount backend api address resources layout
      (Program.reset zeroed hand) event = some after) :
    FromReset profile waitCount api reading address zeroed resources layout hand (event :: trace)
      after := by
  cases event with
  | interrupt =>
      cases taken
      exact Or.inl ⟨rfl, List.forall_mem_cons.mpr ⟨Or.inl rfl, quiet⟩⟩
  | tick =>
      cases taken
      exact Or.inl ⟨rfl, List.forall_mem_cons.mpr ⟨Or.inr rfl, quiet⟩⟩
  | call label => cases taken
  | init base =>
      simp only [Program.step, Program.reset] at taken
      split at taken
      · next allowed =>
          split at taken
          · cases taken
          · next inst count initialised =>
              rcases bind_eq_ok.mp initialised with ⟨hw, configured, continued⟩
              rcases bind_eq_ok.mp continued with ⟨⟨items, total⟩, built, same⟩
              cases same
              cases taken
              have positive : 0 < count := Backend.build_count_pos asks built
              have separate : (base :: hand.erase base).Nodup :=
                (List.perm_cons_erase allowed.2).nodup_iff.mp distinct
              exact Or.inr ⟨hw, ⟨api, reading, lawful, address, _, base, hw.odrAddr,
                resources.wordSize, resources.request, items, count, built, hand.erase base, separate,
                0, positive, false⟩, _, ⟨allowed.2, rfl⟩, configured, ⟨rfl, rfl, rfl, rfl⟩,
                ⟨rfl, rfl, rfl⟩, ⟨rfl, rfl⟩, .refl, rfl, by rw [ticks, Nat.zero_mod]; rfl⟩
      · cases taken

theorem Begun.step {hw : Hardware} {launch : Launch profile backend layout}
    {system : System backend.Item backend.capacity} {event : Event}
    (begun : Begun waitCount api reading address zeroed resources hand trace program hw launch system)
    (taken : Program.step profile waitCount backend api address resources layout program event =
      some after) :
    Exists fun next => Begun waitCount api reading address zeroed resources hand (event :: trace)
      after hw launch next := by
  have whole : program = ⟨⟨some ⟨hw.timer, true, ticks trace % (hw.timer.autoReload + 1)⟩,
      system.core, system.items⟩, some ⟨system.descriptorCount, system.currentFbPtr,
        system.progress, system.walker, system.pending⟩, system.hand⟩ := by
    rw [begun.is]
    simp only [Program.withSystem, begun.timer]
  cases event with
  | interrupt =>
      rw [whole] at taken
      simp only [Program.step, Instance.onInterrupt, Option.isNone_some, Bool.false_eq_true,
        if_false] at taken
      split at taken
      · next pending =>
          split at taken
          · cases taken
          · next inst handled =>
              rcases bind_eq_ok.mp handled with ⟨core, counted, same⟩
              cases same
              cases taken
              have moved : System.step profile waitCount system .isr =
                  some { system with core, pending := false } := by
                simp only [System.step, pending, if_true, counted]
              exact ⟨_, begun.owned, begun.configured, begun.table, begun.port, begun.channel,
                begun.run.snoc moved, rfl, rfl⟩
      · cases taken
  | tick =>
      rw [whole] at taken
      cases taken
      refine ⟨system, begun.owned, begun.configured, begun.table, begun.port, begun.channel, begun.run,
        rfl, ?_⟩
      rw [Option.map_some, Clock.tick_started]
      rfl
  | init other =>
      rw [whole] at taken
      simp only [Program.step, reduceCtorEq, false_and, if_false] at taken
  | call label =>
      rw [whole] at taken
      simp only [Program.step] at taken
      split at taken
      · cases taken
      · rcases Option.map_eq_some_iff.mp taken with ⟨next, moved, same⟩
        subst same
        exact ⟨next, begun.owned, begun.configured, begun.table, begun.port, begun.channel,
          begun.run.snoc moved, rfl, rfl⟩

/-- From reset on, a program with a GPDMA backend that calls `init` once, for a frame in
which some segment asks for repetitions, is the driver.  Interrupts before `init` are
neither counted nor served.  After it the program is in the state that the driver reaches
by the same interrupts and calls from a launch: of the table that was built in the zeroed
static, on the buffer handed to `init`, with the channel on the first item and nothing
pending.  The pixel clock is never stopped.  Again it is assumed that `init` is not called
a second time. -/
theorem program_runs_launch (profile : Profile) (waitCount : Nat) (backend : Backend)
    {api : ItemApi backend.Config backend.Item} {reading : Reading backend.Item}
    (lawful : Lawful api reading backend.plan) (address : Addr) (zeroed : backend.Item)
    (resources : Resources) {layout : Layout} (asks : ¬ layout.Blank) {hand : List Addr}
    (distinct : hand.Nodup)
    {trace : List Event} {program : Program backend.Item backend.capacity}
    (run : Run (Program.step profile waitCount backend api address resources layout)
      (Program.reset zeroed hand) trace program) :
    FromReset profile waitCount api reading address zeroed resources layout hand trace program := by
  refine run.invariant
    (FromReset profile waitCount api reading address zeroed resources layout hand)
    (Or.inl ⟨rfl, fun _ impossible => nomatch impossible⟩) ?_
  intro trace before event after reached taken
  rcases reached with ⟨untouched, quiet⟩ | ⟨hw, launch, system, begun⟩
  · subst untouched
    exact reset_step lawful asks distinct quiet taken
  · rcases begun.step taken with ⟨next, still⟩
    exact Or.inr ⟨hw, launch, next, still⟩

/-- The same start with the linear table, up to the first patched item. -/
theorem program_runs_launch_of_table :
    Exists fun program => execute (Program.step Profile.release 2 .linear Registers.linearApi
        0x20010000 exampleResources Layout.twoSegments)
        (Program.reset zeroedLinearItem [0x20000000, 0x20002000])
        [.interrupt, .init 0x20000000, .tick, .call .walk, .call .walk, .call .walk, .interrupt,
          .call (.swap 0x20002000), .call (.enter 7), .call .store] = some program ∧
      program.inst.core.frameCount = 1 ∧
      @FromReset .linear Profile.release 2 Registers.linearApi Registers.linearReading
        0x20010000 zeroedLinearItem exampleResources Layout.twoSegments [0x20000000, 0x20002000]
        [.call .store, .call (.enter 7), .call (.swap 0x20002000), .interrupt, .call .walk,
          .call .walk, .call .walk, .tick, .init 0x20000000, .interrupt] program := by
  have runs : (execute (Program.step Profile.release 2 .linear Registers.linearApi 0x20010000
      exampleResources Layout.twoSegments)
      (Program.reset zeroedLinearItem [0x20000000, 0x20002000])
      [.interrupt, .init 0x20000000, .tick, .call .walk, .call .walk, .call .walk, .interrupt,
        .call (.swap 0x20002000), .call (.enter 7), .call .store]).map
          (fun program => program.inst.core.frameCount) = some 1 := by decide +kernel
  rcases Option.map_eq_some_iff.mp runs with ⟨program, executed, counted⟩
  exact ⟨program, executed, counted, program_runs_launch Profile.release 2 .linear
    Registers.linear_lawful 0x20010000 zeroedLinearItem exampleResources
    (fun blank => absurd (blank 0 (by decide)) (by decide)) (by decide) (run_of_execute executed)⟩

end Gpdma
end Driver
end Hub75
