import Hub75.Swap.GpdmaRebuild
import Hub75.Swap.GpdmaRelease
import Hub75.Scan.Items
import Hub75.Scan.Signal
import Hub75.Driver.Panel
import Hub75.Machine.Simulation

namespace Hub75
namespace Driver
namespace Gpdma

open Machine

/-!
# The running channel

The model of a driver in use abstracts from the channel.  It takes descriptors as
units, lets the channel go round by counting, and raises the interrupt when the last
one has ended.  Here the channel is the one of the hardware: it holds the registers
of an item that was read some time ago, repeats blocks, follows links through a table
that the task is patching, and raises what these registers ask for.

`Mirrors` is the simulation relation.  The registers in flight are those of some
buffer's table, because patching changes nothing but source addresses.  A step from
block to block within an item is invisible, and a step to the next item is a walk.
-/

/-- What the channel of a launched driver was given. -/
def Launch.setup {profile : Profile} {backend : Backend} {layout : Layout}
    (launch : Launch profile backend layout) : ChannelSetup backend.Item where
  reading := launch.reading
  address := launch.address
  itemSize := backend.itemSize
  wordSize := launch.wordSize
  odrAddr := launch.odrAddr

/-- The steps of the driver in a history. -/
def drivers (trace : List PanelLabel) : List Label :=
  trace.filterMap fun
    | .driver label => some label
    | _ => none

/-! ## The effect of each step -/

section Steps

variable {I : Type} [Descriptor I] {capacity : Nat} {profile : Profile} {waitCount size : Nat}
  {setup : ChannelSetup I} {panel after : Panel I capacity}

theorem Panel.step_driver {label : Label}
    (taken : Panel.step profile waitCount setup size panel (.driver label) = some after) :
    label ≠ .walk ∧ Exists fun system => panel.system.step profile waitCount label = some system ∧
      after = { panel with system, handed := panel.gives size label ++ panel.handed } := by
  simp only [Panel.step] at taken
  split at taken
  · cases taken
  · next stays =>
      split at taken
      · cases taken
      · next system moved => exact ⟨stays, system, moved, (Option.some.inj taken).symm⟩

theorem Panel.step_draw {fbPtr offset : Addr} {byte : BitVec 8}
    (taken : Panel.step profile waitCount setup size panel (.draw fbPtr offset byte) = some after) :
    (fbPtr ∈ panel.system.hand ∧ offset.toNat < size) ∧
      after = { panel with memory := panel.memory.store 1 (fbPtr + offset) byte } := by
  simp only [Panel.step] at taken
  split at taken
  · next allowed => exact ⟨allowed, (Option.some.inj taken).symm⟩
  · cases taken

theorem Panel.step_fetch
    (taken : Panel.step profile waitCount setup size panel .fetch = some after) :
    panel.fetched < setup.words panel.channel.registers ∧
      after = { panel with
        fetched := panel.fetched + 1
        output := Write.ofMemory panel.memory setup.wordSize setup.odrAddr panel.channel.source
          panel.fetched :: panel.output } := by
  simp only [Panel.step] at taken
  split at taken
  · next more => exact ⟨more, (Option.some.inj taken).symm⟩
  · cases taken

theorem Panel.step_block
    (taken : Panel.step profile waitCount setup size panel .block = some after) :
    setup.words panel.channel.registers ≤ panel.fetched ∧ Exists fun channel =>
      panel.channel.step setup.reading setup.address setup.itemSize panel.system.items =
        some channel ∧
      after = { panel with
        channel
        fetched := 0
        system := { panel.system with
          pending := panel.system.pending || panel.channel.completes setup.reading setup.address
            setup.itemSize capacity } } := by
  simp only [Panel.step] at taken
  split at taken
  · cases taken
  · next drained =>
      split at taken
      · cases taken
      · next channel moved =>
          exact ⟨Nat.le_of_not_lt drained, channel, moved, (Option.some.inj taken).symm⟩

/-- Only the channel moves the walker, and nothing else depends on it. -/
theorem System.step_withWalker {system : System I capacity} {label : Label}
    (stays : label ≠ .walk) (walker : Walker) :
    System.step profile waitCount { system with walker } label =
      (System.step profile waitCount system label).map fun next => { next with walker } := by
  cases label with
  | walk => exact absurd rfl stays
  | isr =>
      simp only [System.step]
      split
      · cases system.core.onFrame profile <;> rfl
      · rfl
  | store =>
      simp only [System.step]
      split
      · simp only [apply_ite (Option.map _)]
        rfl
      · rfl
  | arm =>
      simp only [System.step]
      split
      · simp only [apply_ite (Option.map _)]
        rfl
      · rfl
  | _ =>
      simp only [System.step]
      repeat' split
      all_goals rfl

end Steps

variable {profile : Profile} {waitCount size : Nat} {backend : Backend} {layout : Layout}
  {launch : Launch profile backend layout} {chain : Chain backend.Item backend.capacity}
  {panel after : Panel backend.Item backend.capacity}
  {system : System backend.Item backend.capacity}

/-! ## The registers in flight -/

/-- Item `index` of the table of `buffer`, as the builder would write it. -/
structure Written (launch : Launch profile backend layout) (index : Nat) (buffer : Addr)
    (d : backend.Item) : Prop where
  active : index < launch.count
  encodes : Encodes launch.reading d (buffer + backend.offset layout index)
    (layout.len (backend.segment layout index) / launch.wordSize.bytes * launch.wordSize.bytes)
    (backend.itemPlan layout launch.count index)
    (itemOffset (itemAddress launch.address backend.itemSize (nextSlot launch.count index)) &&&
      0xFFFC)

theorem Launch.table_written {launch : Launch profile backend layout}
    (describes : Describes chain (backend.offset layout) launch.rebuild launch.items launch.count
      launch.base) {index : Nat} {buffer : Addr} {d : backend.Item} (active : index < launch.count)
    (stored : (chain.table buffer)[index]? = some d) : Written launch index buffer d := by
  rcases Backend.build_encodes launch.lawful (describes.rebuild_eq buffer) active with
    ⟨item, found, encodes⟩
  cases Option.some.inj (found.symm.trans stored)
  exact ⟨active, encodes⟩

/-- The link of an item in flight leads to the next item. -/
theorem Written.follow {index : Nat} {buffer : Addr} {d : backend.Item}
    (written : Written launch index buffer d)
    (placement : Placement launch.address backend.itemSize backend.capacity) :
    followLink launch.reading launch.address backend.itemSize backend.capacity d =
      some (nextSlot launch.count index) := by
  have active := written.active
  rcases Backend.build_linked launch.lawful launch.built with ⟨checked, room, _⟩
  have words := backend.itemSize_words
  have nonempty : 0 < backend.itemSize * launch.count :=
    Nat.mul_pos words.2 (Nat.lt_of_le_of_lt (Nat.zero_le index) active)
  have region := (assertOneRegion_eq_ok_iff placement nonempty room).mp checked
  exact followLink_eq placement words room region (nextSlot_lt active) written.encodes.linkOffset

/-- The registers in flight raise the event at the end of the terminal item only. -/
theorem Written.completes {index : Nat} {buffer : Addr} {channel : Channel backend.Item}
    (written : Written launch index buffer channel.registers)
    (placement : Placement launch.address backend.itemSize backend.capacity) :
    channel.completes launch.reading launch.address backend.itemSize backend.capacity =
      decide (index + 1 = launch.count ∧ backend.weight layout index ≤ channel.repeats + 1) := by
  have last : launch.reading.blockRepeatCount channel.registers ≤ channel.repeats ↔
      backend.weight layout index ≤ channel.repeats + 1 := by
    rw [written.encodes.blockRepeatCount]
    change backend.weight layout index - 1 ≤ channel.repeats ↔ _
    omega
  have mode : launch.reading.transferCompleteMode channel.registers =
      if index + 1 = launch.count then .eachLinkedListItem else .lastLinkedListItem :=
    written.encodes.transferCompleteMode
  unfold Channel.completes
  by_cases terminal : index + 1 = launch.count
  · rw [if_pos terminal] at mode
    simp only [mode, terminal, true_and, last]
  · rw [if_neg terminal] at mode
    simp only [mode, terminal, false_and, written.follow placement, Option.isNone_some,
      Bool.and_false, decide_false]

/-! ## The simulation -/

/-- The driver with its walker stands for the driver with the channel. -/
structure Mirrors (launch : Launch profile backend layout)
    (chain : Chain backend.Item backend.capacity) (trace : List PanelLabel) (steps : List Label)
    (panel : Panel backend.Item backend.capacity) (system : System backend.Item backend.capacity) :
    Prop where
  invariant : Invariant chain system
  system_eq : system = { panel.system with walker := system.walker }
  calls : steps.filter (fun label => decide (label ≠ .walk)) = drivers trace
  written : Exists fun buffer =>
    Written launch system.walker.index buffer panel.channel.registers ∧
      system.walker.source = buffer + backend.offset layout system.walker.index
  /-- A segment that is not made of whole words is not read from its beginning again. -/
  source : panel.channel.repeats = 0 ∨
      layout.len (backend.segment layout system.walker.index) % launch.wordSize.bytes = 0 ->
    panel.channel.source = system.walker.source
  repeats : panel.channel.repeats < backend.weight layout system.walker.index

variable {trace : List PanelLabel} {steps : List Label}

/-- Drawing and fetching concern neither the driver nor the registers. -/
theorem Mirrors.of_same {label : PanelLabel} (mirrors : Mirrors launch chain trace steps panel system)
    (sameSystem : after.system = panel.system) (sameChannel : after.channel = panel.channel)
    (silent : drivers (label :: trace) = drivers trace) :
    Mirrors launch chain (label :: trace) steps after system where
  invariant := mirrors.invariant
  system_eq := by
    rw [sameSystem]
    exact mirrors.system_eq
  calls := silent ▸ mirrors.calls
  written := by
    rw [sameChannel]
    exact mirrors.written
  source := by
    rw [sameChannel]
    exact mirrors.source
  repeats := by
    rw [sameChannel]
    exact mirrors.repeats

theorem Mirrors.step_driver {label : Label}
    (mirrors : Mirrors launch chain trace steps panel system)
    (taken : Panel.step profile waitCount launch.setup size panel (.driver label) = some after) :
    Exists fun next => System.step profile waitCount system label = some next ∧
      next.walker = system.walker ∧
      Mirrors launch chain (.driver label :: trace) (label :: steps) after next := by
  rcases Panel.step_driver taken with ⟨stays, moved, stepped, same⟩
  have mirrored : System.step profile waitCount system label =
      some { moved with walker := system.walker } := by
    rw [mirrors.system_eq, System.step_withWalker stays, stepped]
    rfl
  refine ⟨_, mirrored, rfl, ?_⟩
  subst same
  exact {
    invariant := mirrors.invariant.step mirrored
    system_eq := rfl
    calls := by
      have kept := mirrors.calls
      simp only [List.filter_cons, ne_eq, stays, not_false_eq_true, decide_true, if_true] at kept ⊢
      rw [kept]
      rfl
    written := mirrors.written
    source := mirrors.source
    repeats := mirrors.repeats }

/-- The end of a block: the item is repeated, which the driver does not notice, or the
walker moves on. -/
theorem Mirrors.step_block (placement : Placement launch.address backend.itemSize backend.capacity)
    (describes : Describes chain (backend.offset layout) launch.rebuild launch.items launch.count
      launch.base) (mirrors : Mirrors launch chain trace steps panel system)
    (taken : Panel.step profile waitCount launch.setup size panel .block = some after) :
    (panel.channel.repeats + 1 < backend.weight layout system.walker.index ∧
        after.channel.repeats = panel.channel.repeats + 1 ∧
        Mirrors launch chain (.block :: trace) steps after system) ∨
      (backend.weight layout system.walker.index = panel.channel.repeats + 1 ∧
        after.channel.repeats = 0 ∧
        Exists fun next => System.step profile waitCount system .walk = some next ∧
          Mirrors launch chain (.block :: trace) (.walk :: steps) after next) := by
  rcases Panel.step_block taken with ⟨_, channel, moved, same⟩
  rcases mirrors.written with ⟨buffer, written, source⟩
  have encodes := written.encodes
  have count : launch.reading.blockRepeatCount panel.channel.registers =
      backend.weight layout system.walker.index - 1 := encodes.blockRepeatCount
  have within := mirrors.repeats
  have raised := written.completes placement
  have sameItems : panel.system.items = system.items := by rw [mirrors.system_eq]
  have samePending : panel.system.pending = system.pending := by rw [mirrors.system_eq]
  have sameCount : system.descriptorCount = launch.count :=
    mirrors.invariant.count_eq.trans describes.count_eq
  subst same
  by_cases more : panel.channel.repeats + 1 < backend.weight layout system.walker.index
  · left
    have again : panel.channel.repeats < launch.reading.blockRepeatCount panel.channel.registers := by
      omega
    have back : launch.reading.blockSrcAddrOffset panel.channel.registers =
        -(layout.len (backend.segment layout system.walker.index) : Int) := by
      rw [encodes.blockSrcAddrOffset]
      rcases backend.itemPlan_back layout launch.count system.walker.index with single | offset
      · have single : backend.weight layout system.walker.index - 1 = 0 := single
        omega
      · exact offset
    have repeated : panel.channel.step launch.reading launch.address backend.itemSize
        panel.system.items = some { panel.channel with
          repeats := panel.channel.repeats + 1
          source := panel.channel.source +
            BitVec.ofNat 32 (launch.reading.blockBytes panel.channel.registers) +
            BitVec.ofInt 32 (launch.reading.blockSrcAddrOffset panel.channel.registers) } :=
      Channel.step_repeat again
    have rewound : layout.len (backend.segment layout system.walker.index) %
        launch.wordSize.bytes = 0 -> panel.channel.source +
          BitVec.ofNat 32 (launch.reading.blockBytes panel.channel.registers) +
          BitVec.ofInt 32 (launch.reading.blockSrcAddrOffset panel.channel.registers) =
            system.walker.source := by
      intro whole
      rw [encodes.blockBytes, Nat.div_mul_cancel (Nat.dvd_of_mod_eq_zero whole), back, rewind]
      exact mirrors.source (Or.inr whole)
    cases Option.some.inj (repeated.symm.trans moved)
    have quiet : panel.channel.completes launch.reading launch.address backend.itemSize
        backend.capacity = false := by
      rw [raised]
      exact decide_eq_false fun ended => absurd ended.2 (by omega)
    refine ⟨more, rfl, mirrors.invariant, ?_, mirrors.calls, mirrors.written,
      fun start => rewound (start.resolve_left (Nat.succ_ne_zero _)), more⟩
    change system = { panel.system with
      walker := system.walker
      pending := panel.system.pending || panel.channel.completes launch.reading launch.address
        backend.itemSize backend.capacity }
    rw [quiet, Bool.or_false]
    exact mirrors.system_eq
  · right
    have ended : backend.weight layout system.walker.index = panel.channel.repeats + 1 := by omega
    have done : ¬ panel.channel.repeats <
        launch.reading.blockRepeatCount panel.channel.registers := by omega
    have position : nextSlot launch.count system.walker.index < chain.count :=
      describes.count_eq.symm ▸ nextSlot_lt written.active
    rcases mirrors.invariant.item_reads position with ⟨d, stored, reads⟩
    have linked : panel.channel.step launch.reading launch.address backend.itemSize
        panel.system.items = some (Channel.load d) :=
      Channel.step_link done (written.follow placement) (sameItems ▸ stored)
    cases Option.some.inj (linked.symm.trans moved)
    have nextIndex : system.nextIndex system.walker.index =
        nextSlot launch.count system.walker.index := by
      unfold System.nextIndex nextSlot
      rw [sameCount]
    have walked : System.step profile waitCount system .walk = some { system with
        walker := ⟨nextSlot launch.count system.walker.index, Descriptor.sar d,
          (nextSlot launch.count system.walker.index, Descriptor.sar d) :: system.walker.history⟩
        pending := system.pending || decide (system.walker.index + 1 = launch.count) } := by
      simp only [System.step, System.walk, nextIndex, stored, sameCount]
    have raises : panel.channel.completes launch.reading launch.address backend.itemSize
        backend.capacity = decide (system.walker.index + 1 = launch.count) := by
      rw [raised]
      apply decide_eq_decide.mpr
      omega
    have entry : (chain.table (system.target (nextSlot launch.count system.walker.index)))[
        nextSlot launch.count system.walker.index]? = some d := by
      rw [← Chain.aim_getElem?, ← mirrors.invariant.items_eq]
      exact stored
    refine ⟨ended, rfl, _, walked, mirrors.invariant.step walked, ?_, mirrors.calls, ⟨_,
      Launch.table_written describes (nextSlot_lt written.active) entry, ?_⟩, fun _ => rfl, ?_⟩
    · have mirrored (walker : Walker) (pending : Bool) :
          { system with walker, pending } = { panel.system with walker, pending } := by
        rw [mirrors.system_eq]
      have sameEvent : (system.pending || decide (system.walker.index + 1 = launch.count)) =
          (panel.system.pending || panel.channel.completes launch.reading launch.address
            backend.itemSize backend.capacity) := by
        rw [raises, samePending]
      rw [sameEvent]
      exact mirrored _ _
    · rw [describes.offset_eq] at reads
      exact reads
    · exact (Backend.segment_lt launch.built (nextSlot_lt written.active)).2

/-- Every step of the hardware is answered by one step of the driver or by none. -/
theorem Mirrors.answers {label : PanelLabel}
    (placement : Placement launch.address backend.itemSize backend.capacity)
    (describes : Describes chain (backend.offset layout) launch.rebuild launch.items launch.count
      launch.base) (mirrors : Mirrors launch chain trace steps panel system)
    (taken : Panel.step profile waitCount launch.setup size panel label = some after) :
    Exists fun more => Exists fun next => Run (System.step profile waitCount) system more next ∧
      Mirrors launch chain (label :: trace) (more ++ steps) after next := by
  cases label with
  | driver label =>
      rcases mirrors.step_driver taken with ⟨next, moved, _, still⟩
      exact ⟨[label], next, Run.refl.snoc moved, still⟩
  | draw fbPtr offset byte =>
      rcases Panel.step_draw taken with ⟨_, same⟩
      exact ⟨[], system, .refl, mirrors.of_same (by rw [same]) (by rw [same]) rfl⟩
  | fetch =>
      rcases Panel.step_fetch taken with ⟨_, same⟩
      exact ⟨[], system, .refl, mirrors.of_same (by rw [same]) (by rw [same]) rfl⟩
  | block =>
      rcases mirrors.step_block placement describes taken with
        ⟨_, _, still⟩ | ⟨_, _, next, walked, still⟩
      · exact ⟨[], system, .refl, still⟩
      · exact ⟨[.walk], next, Run.refl.snoc walked, still⟩

theorem Launch.mirrors (launch : Launch profile backend layout)
    (describes : Describes chain (backend.offset layout) launch.rebuild launch.items launch.count
      launch.base) (invariant : Invariant chain launch.start) {d : backend.Item}
    (loaded : launch.items[launch.position]? = some d) (memory : ByteMemory 32) :
    Mirrors launch chain [] [] (Panel.started launch.start d memory) launch.start := by
  have written : Written launch launch.position launch.base d := by
    refine Launch.table_written describes launch.position_lt ?_
    rw [describes.table_eq]
    exact loaded
  have source : launch.start.walker.source = Descriptor.sar d := by
    simp only [Launch.start, System.started, loaded, Option.map_some, Option.getD_some]
  exact {
    invariant
    system_eq := rfl
    calls := rfl
    written := ⟨launch.base, written, source.trans written.encodes.sar⟩
    source := fun _ => source.symm
    repeats := (Backend.segment_lt launch.built launch.position_lt).2 }

/-! ## What can be read off -/

theorem Mirrors.block_eq (mirrors : Mirrors launch chain trace steps panel system)
    (whole : forall i, i < layout.count -> layout.len i % launch.wordSize.bytes = 0) :
    panel.channel.block launch.reading =
      (system.walker.source, layout.len (backend.segment layout system.walker.index)) := by
  rcases mirrors.written with ⟨_, written, _⟩
  have inside := (Backend.segment_lt launch.built written.active).1
  refine Prod.ext (mirrors.source (Or.inr (whole _ inside))) (written.encodes.blockBytes.trans ?_)
  exact Nat.div_mul_cancel (Nat.dvd_of_mod_eq_zero (whole _ inside))

/-- The interrupt comes with the last block of a frame. -/
theorem Mirrors.completes_iff (mirrors : Mirrors launch chain trace steps panel system)
    (placement : Placement launch.address backend.itemSize backend.capacity) :
    panel.channel.completes launch.reading launch.address backend.itemSize backend.capacity = true ↔
      (Cursor.advance (backend.weight layout) launch.count
        ⟨system.walker.index, panel.channel.repeats⟩).2 = true := by
  rcases mirrors.written with ⟨_, written, _⟩
  have active := written.active
  rw [written.completes placement, decide_eq_true_eq]
  unfold Cursor.advance
  by_cases last : backend.weight layout system.walker.index ≤ panel.channel.repeats + 1
  · by_cases wraps : launch.count ≤ system.walker.index + 1
    · simp only [last, wraps, if_true, and_true, iff_true]
      omega
    · simp only [last, wraps, if_true, if_false, and_true, Bool.false_eq_true, iff_false]
      omega
  · simp only [last, if_false, and_false, Bool.false_eq_true]

/-- The channel never runs out of items. -/
theorem Mirrors.step_isSome (mirrors : Mirrors launch chain trace steps panel system)
    (placement : Placement launch.address backend.itemSize backend.capacity)
    (describes : Describes chain (backend.offset layout) launch.rebuild launch.items launch.count
      launch.base) :
    (panel.channel.step launch.reading launch.address backend.itemSize
      panel.system.items).isSome = true := by
  rcases mirrors.written with ⟨_, written, _⟩
  by_cases more : panel.channel.repeats < launch.reading.blockRepeatCount panel.channel.registers
  · unfold Channel.step
    rw [if_pos more]
    rfl
  · have position : nextSlot launch.count system.walker.index < chain.count :=
      describes.count_eq.symm ▸ nextSlot_lt written.active
    rcases mirrors.invariant.item_reads position with ⟨d, stored, _⟩
    have sameItems : panel.system.items = system.items := by rw [mirrors.system_eq]
    rw [Channel.step_link more (written.follow placement) (sameItems ▸ stored)]
    rfl

/-- The running channel is the walker of the model.  Whatever the channel, the interrupt
and the task do, block by block and link by link through the table that is being
patched, the driver could have done with a walker that goes round by counting, with
the same calls and the same interrupts in the same order, and it is in the same state.
The channel is on a block of a segment that the walker is on, it always has a next
item, and it raises the interrupt at the last block of a frame and at no other. -/
theorem channel_refines_walk (profile : Profile) (waitCount : Nat) {backend : Backend}
    {layout : Layout} (launch : Launch profile backend layout) {size : Nat} (memory : ByteMemory 32)
    (placement : Placement launch.address backend.itemSize backend.capacity)
    (whole : forall i, i < layout.count -> layout.len i % launch.wordSize.bytes = 0)
    {d : backend.Item} (loaded : launch.items[launch.position]? = some d) {trace : List PanelLabel}
    {panel : Panel backend.Item backend.capacity}
    (run : Run (Panel.step profile waitCount launch.setup size)
      (Panel.started launch.start d memory) trace panel) :
    Exists fun steps => Exists fun system =>
      Run (System.step profile waitCount) launch.start steps system ∧
      steps.filter (fun label => decide (label ≠ .walk)) = drivers trace ∧
      system = { panel.system with walker := system.walker } ∧
      panel.channel.block launch.reading =
        (system.walker.source, layout.len (backend.segment layout system.walker.index)) ∧
      (panel.channel.completes launch.reading launch.address backend.itemSize
          backend.capacity = true ↔
        (Cursor.advance (backend.weight layout) launch.count
          ⟨system.walker.index, panel.channel.repeats⟩).2 = true) ∧
      (panel.channel.step launch.reading launch.address backend.itemSize
        panel.system.items).isSome = true := by
  rcases launch.invariant with ⟨chain, describes, invariant⟩
  have simulated : Simulated (System.step profile waitCount) launch.start
      (Mirrors launch chain) trace panel :=
    Simulated.run (launch.mirrors describes invariant loaded memory)
      (fun _ _ _ _ _ _ mirrors taken => mirrors.answers placement describes taken) run
  rcases simulated with ⟨steps, system, explained, mirrors⟩
  exact ⟨steps, system, explained, mirrors.calls, mirrors.system_eq, mirrors.block_eq whole,
    mirrors.completes_iff placement, mirrors.step_isSome placement describes⟩

/-- The rest of the first frame, block by block, and its interrupt. -/
theorem channel_refines_walk_of_frame :
    Exists fun panel => execute (Panel.step Profile.release 2 exampleLaunch.setup 128)
        (Panel.started exampleLaunch.start exampleItems[1] fun _ => 0)
        (List.replicate 64 .fetch ++ .block :: List.replicate 64 .fetch ++
          [.block, .driver .isr]) = some panel ∧
      panel.system.core.frameCount = 1 ∧
      Exists fun steps => Exists fun system =>
        Run (System.step Profile.release 2) exampleLaunch.start steps system ∧
          steps.filter (fun label => decide (label ≠ .walk)) = [.isr] := by
  have runs : (execute (Panel.step Profile.release 2 exampleLaunch.setup 128)
      (Panel.started exampleLaunch.start exampleItems[1] fun _ => 0)
      (List.replicate 64 .fetch ++ .block :: List.replicate 64 .fetch ++
        [.block, .driver .isr])).map (fun panel => panel.system.core.frameCount) = some 1 := by
    decide +kernel
  rcases Option.map_eq_some_iff.mp runs with ⟨panel, executed, counted⟩
  have placement : Placement exampleLaunch.address Backend.linear.itemSize
      Backend.linear.capacity := ⟨by decide, by decide⟩
  rcases channel_refines_walk Profile.release 2 exampleLaunch (fun _ => 0) placement (by decide)
    (Vector.getElem?_eq_getElem (by decide)) (run_of_execute executed) with
    ⟨steps, system, explained, calls, _⟩
  exact ⟨panel, executed, counted, steps, system, explained, calls⟩

end Gpdma
end Driver
end Hub75
