import Hub75.Swap.FrameCount
import Hub75.Swap.Ledger
import Hub75.Scan.Writes
import Hub75.Machine.Display
import Hub75.Machine.Simulation

namespace Hub75
namespace Driver

open Machine

/-!
# What the plain backend shows

The plain backend with its memory is a display with one picture in waiting.  The
picture that is shown is what the displayed buffer contains, the one that waits is
what the pending buffer contains, and neither changes while the caller draws, because
the caller draws into its own buffers.  A word moved by the channel is the next word
of the frame, and the interrupt at a frame boundary is the end of the frame.  All other
steps are invisible.

`Related` is the simulation relation, and the display at the other end of it is given
by its own run.  What the words of a picture are is said in `Scan.Writes`.
-/

namespace Dma

variable {profile : Profile} {api : ChannelApi} {layout : Layout} {size : Nat}
  {panel after : Panel} {state : IsrCoreState} {buffers : List Addr} {port : Nat × Addr × WordSize}

/-! ## The effect of each step -/

theorem Panel.step_driver {label : Label}
    (taken : Panel.step profile api size panel (.driver label) = some after) :
    (label = .isr -> panel.drained = true) ∧
      Exists fun system => panel.system.step profile api label = some system ∧
        after = { panel with
          system
          fetched := if label = .isr then 0 else panel.fetched
          handed := panel.gives size label ++ panel.handed } := by
  simp only [Panel.step] at taken
  split at taken
  · cases taken
  · next allowed =>
      split at taken
      · cases taken
      · next system moved =>
          refine ⟨fun isr => ?_, system, moved, (Option.some.inj taken).symm⟩
          cases drained : panel.drained with
          | true => rfl
          | false => exact absurd ⟨isr, drained⟩ allowed

theorem Panel.step_draw {fbPtr offset : Addr} {byte : BitVec 8}
    (taken : Panel.step profile api size panel (.draw fbPtr offset byte) = some after) :
    (fbPtr ∈ panel.system.hand ∧ offset.toNat < size) ∧
      after = { panel with memory := panel.memory.store 1 (fbPtr + offset) byte } := by
  simp only [Panel.step] at taken
  split at taken
  · next allowed => exact ⟨allowed, (Option.some.inj taken).symm⟩
  · cases taken

theorem Panel.step_fetch (present : panel.system.core.state = some state) {transfer : Transfer}
    (outstanding : state.channel.active = [transfer])
    (taken : Panel.step profile api size panel .fetch = some after) :
    panel.fetched < transfer.elements ∧
      after = { panel with
        fetched := panel.fetched + 1
        output := Write.ofMemory panel.memory transfer.wordSize transfer.target transfer.source
          panel.fetched :: panel.output } := by
  simp only [Panel.step, present, outstanding] at taken
  split at taken
  · next more => exact ⟨more, (Option.some.inj taken).symm⟩
  · cases taken

/-- A completed transfer has moved all its words. -/
theorem Panel.drained_le (present : panel.system.core.state = some state) {transfer : Transfer}
    (outstanding : state.channel.active = [transfer]) (drained : panel.drained = true) :
    transfer.elements ≤ panel.fetched := by
  simp only [Panel.drained, present, outstanding, List.all_cons, List.all_nil, Bool.and_true,
    decide_eq_true_eq] at drained
  exact drained

/-! ## The simulation -/

/-- What a picture is streamed as through the given port. -/
def frameOf (layout : Layout) (port : Nat × Addr × WordSize) : ByteMemory 32 -> List Write :=
  layout.frameWrites port.2.2 port.2.1

/-- The display that the driver stands for.  `offered` are the pictures that have been
queued; a swap that holds its buffer still has handed over one more. -/
structure Related (layout : Layout) (size : Nat) (buffers : List Addr)
    (port : Nat × Addr × WordSize) (offered : List (ByteMemory 32)) (panel : Panel)
    (state : IsrCoreState) (display : Display (ByteMemory 32) Write) : Prop where
  invariant : Invariant layout panel.system state
  subset : (panel.system.custody state).tokens ⊆ buffers
  port_eq : state.port = port
  frameCount : panel.system.core.frameCount = BitVec.ofNat 32 display.completed.length
  shown : display.shown = panel.memory.contents size state.currentFbPtr
  waiting : display.waiting =
    if state.pendingDelta.isSome = true then some (panel.memory.contents size state.pendingFbPtr)
    else none
  fetched_le : panel.fetched ≤ layout.len state.bcm.cursor.index / port.2.2.bytes
  emitted : display.emitted =
    (((weighted layout.passes layout.count).take (state.bcm.cursor.position layout.passes)).flatMap
      (layout.segmentWrites port.2.2 port.2.1 display.shown)).length + panel.fetched
  output : panel.output = display.output
  handed : Exists fun older => offered.Sublist older ∧ panel.handed.map Prod.snd =
    (panel.system.held.map (panel.memory.contents size)).toList ++ older

/-- The relation with the display's own history. -/
def Relates (layout : Layout) (size : Nat) (buffers : List Addr) (port : Nat × Addr × WordSize)
    (events : List (DisplayEvent (ByteMemory 32))) (panel : Panel)
    (display : Display (ByteMemory 32) Write) : Prop :=
  Exists fun state => Related layout size buffers port (Display.offers events) panel state display

variable {offered : List (ByteMemory 32)} {display : Display (ByteMemory 32) Write}

/-- What the caller draws stays out of all buffers that it does not own. -/
theorem Related.draw_keeps {fbPtr offset buffer : Addr} {byte : BitVec 8}
    (apart : buffers.Pairwise (ByteMemory.Apart size))
    (related : Related layout size buffers port offered panel state display)
    (taken : Panel.step profile api size panel (.draw fbPtr offset byte) = some after)
    (member : buffer ∈ (panel.system.custody state).tokens) (unowned : buffer ∉ panel.system.hand) :
    after.memory.contents size buffer = panel.memory.contents size buffer := by
  rcases Panel.step_draw taken with ⟨⟨owned, inside⟩, same⟩
  subst same
  exact panel.memory.contents_store_owned apart
    (fun _ hand => related.subset (Custody.hand_subset_tokens hand)) owned byte (by omega)
    (related.subset member) unowned

/-- In particular out of the buffer of a swap that was called. -/
theorem Related.draw_keeps_held {fbPtr offset : Addr} {byte : BitVec 8}
    (apart : buffers.Pairwise (ByteMemory.Apart size))
    (related : Related layout size buffers port offered panel state display)
    (taken : Panel.step profile api size panel (.draw fbPtr offset byte) = some after) :
    panel.system.held.map (after.memory.contents size) =
      panel.system.held.map (panel.memory.contents size) := by
  cases held : panel.system.held with
  | none => rfl
  | some buffer =>
      have place : (panel.system.custody state).held = some buffer := held
      rw [Option.map_some, Option.map_some, related.draw_keeps apart taken
        (Custody.held_mem_tokens place) (related.invariant.exclusive.held_notMem_hand place)]

/-- Drawing is invisible: the buffers that matter are not the caller's. -/
theorem Related.step_draw {fbPtr offset : Addr} {byte : BitVec 8}
    (apart : buffers.Pairwise (ByteMemory.Apart size))
    (related : Related layout size buffers port offered panel state display)
    (taken : Panel.step profile api size panel (.draw fbPtr offset byte) = some after) :
    Related layout size buffers port offered after state display := by
  have exclusive := related.invariant.exclusive
  have held_kept := related.draw_keeps_held apart taken
  have kept : forall buffer, buffer ∈ (panel.system.custody state).tokens ->
      buffer ∉ panel.system.hand ->
        after.memory.contents size buffer = panel.memory.contents size buffer :=
    fun buffer => related.draw_keeps apart taken
  rcases Panel.step_draw taken with ⟨_, same⟩
  subst same
  have shown_kept := kept state.currentFbPtr Custody.shown_mem_tokens exclusive.shown_notMem_hand
  refine { related with shown := ?_, waiting := ?_, handed := ?_ }
  · exact related.shown.trans shown_kept.symm
  · rw [related.waiting]
    by_cases queued : state.pendingDelta.isSome = true
    · have place : (panel.system.custody state).queued = some state.pendingFbPtr := if_pos queued
      rw [if_pos queued, if_pos queued,
        kept _ (Custody.queued_mem_tokens place) (exclusive.queued_fresh place).2]
    · rw [if_neg queued, if_neg queued]
  · rcases related.handed with ⟨older, earlier, recorded⟩
    exact ⟨older, earlier, recorded.trans (congrArg (fun held => held.toList ++ older) held_kept.symm)⟩

/-- A word moved by the channel is the next word of the frame. -/
theorem Related.step_fetch (within : layout.Within size)
    (related : Related layout size buffers port offered panel state display)
    (taken : Panel.step profile api size panel .fetch = some after) :
    Exists fun next => Display.step (frameOf layout port) display .emit = some next ∧
      Related layout size buffers port offered after state next := by
  have streaming := related.invariant.streaming
  rcases Panel.step_fetch related.invariant.present streaming.outstanding taken with ⟨more, same⟩
  have width : state.wordSize = port.2.2 := congrArg (fun port => port.2.2) related.port_eq
  have target : state.odrAddr = port.2.1 := congrArg (fun port => port.2.1) related.port_eq
  have inside : panel.fetched < layout.len state.bcm.cursor.index / port.2.2.bytes := width ▸ more
  have current := streaming.cursor.weighted_position
  have room : panel.fetched < (layout.segmentWrites port.2.2 port.2.1 display.shown
      state.bcm.cursor.index).length := by
    rw [Layout.length_segmentWrites]
    exact inside
  have row := getElem?_flatMap current room
  rw [← related.emitted] at row
  have word : (layout.segmentWrites port.2.2 port.2.1 display.shown
      state.bcm.cursor.index)[panel.fetched]? =
        some (Write.ofMemory panel.memory port.2.2 port.2.1
          (state.currentFbPtr + layout.offset state.bcm.cursor.index) panel.fetched) := by
    rw [related.shown]
    exact Layout.segmentWrites_getElem? within streaming.cursor.index_lt inside _ _
  rw [word] at row
  subst same
  refine ⟨_, Display.step_emit row, ?_⟩
  refine { related with fetched_le := inside, emitted := ?_, output := ?_ }
  · change display.emitted + 1 = _
    rw [related.emitted, Nat.add_assoc]
  · change _ :: panel.output = _ :: display.output
    rw [related.output]
    congr 1
    simp only [segmentTransfer, width, target]
    rfl

/-- The words of the frame up to the end of the transfer that has just completed. -/
theorem Related.emitted_eq (related : Related layout size buffers port offered panel state display)
    (drained : panel.drained = true) :
    display.emitted = (((weighted layout.passes layout.count).take
      (state.bcm.cursor.position layout.passes + 1)).flatMap
        (layout.segmentWrites port.2.2 port.2.1 display.shown)).length := by
  have streaming := related.invariant.streaming
  have width : state.wordSize = port.2.2 := congrArg (fun port => port.2.2) related.port_eq
  have moved : layout.len state.bcm.cursor.index / port.2.2.bytes ≤ panel.fetched :=
    width ▸ Panel.drained_le related.invariant.present streaming.outstanding drained
  rw [length_flatMap_take_succ streaming.cursor.weighted_position, Layout.length_segmentWrites,
    related.emitted]
  have before := related.fetched_le
  omega

/-- The interrupt ends a frame of the display when it is a frame boundary, and is
invisible otherwise. -/
theorem Related.step_isr (related : Related layout size buffers port offered panel state display)
    (taken : Panel.step profile api size panel (.driver .isr) = some after) :
    Exists fun next => Exists fun shows =>
      (shows = display ∨ Display.step (frameOf layout port) display .wrap = some shows) ∧
        Related layout size buffers port offered after next shows := by
  rcases Panel.step_driver taken with ⟨drained, system, moved, same⟩
  have emitted := related.emitted_eq (drained rfl)
  rcases related.invariant.step_moves moved with ⟨next, preserved, moves⟩
  have subset := List.Subset.trans moves.tokens_subset related.subset
  rcases related.invariant.step_isr moved with ⟨found, _, interrupted⟩
  cases Option.some.inj (interrupted.present.symm.trans preserved.present)
  rcases System.step_isr moved with ⟨core, completed, after_eq⟩
  rcases onDmaComplete_counts related.invariant.present related.invariant.streaming completed with
    ⟨counted, stored, port_kept, count⟩
  subst after_eq
  subst same
  cases Option.some.inj (stored.symm.trans preserved.present)
  have kept : forall shows : Display (ByteMemory 32) Write,
      core.frameCount = BitVec.ofNat 32 shows.completed.length ->
      shows.shown = panel.memory.contents size next.currentFbPtr ->
      shows.waiting = (if next.pendingDelta.isSome = true then
        some (panel.memory.contents size next.pendingFbPtr) else none) ->
      shows.emitted = (((weighted layout.passes layout.count).take
        (next.bcm.cursor.position layout.passes)).flatMap
          (layout.segmentWrites port.2.2 port.2.1 shows.shown)).length ->
      panel.output = shows.output ->
      Related layout size buffers port offered
        { panel with
          system := { panel.system with core }
          fetched := if Label.isr = .isr then 0 else panel.fetched
          handed := panel.gives size .isr ++ panel.handed } next shows :=
    fun shows frameCount shown waiting emitted output => {
      invariant := preserved
      subset := subset
      port_eq := port_kept.trans related.port_eq
      frameCount := frameCount
      shown := shown
      waiting := waiting
      fetched_le := Nat.zero_le _
      emitted := emitted
      output := output
      handed := related.handed }
  have current (same : next.pointers = state.pointers) :
      next.currentFbPtr = state.currentFbPtr ∧ next.pendingDelta = state.pendingDelta ∧
        next.pendingFbPtr = state.pendingFbPtr :=
    ⟨congrArg Pointers.current same, congrArg Pointers.delta same, congrArg Pointers.pending same⟩
  rcases related.invariant.streaming.cursor.advance_cases layout.passes_pos with
    ⟨advance, ended⟩ | ⟨inner, place, _⟩
  · have boundary : (state.bcm.cursor.advance layout.passes layout.count).2 = true := by rw [advance]
    have origin : next.bcm.cursor.position layout.passes = 0 := by
      rw [interrupted.cursor, advance]
      rfl
    rw [ended, ← length_weighted, List.take_length] at emitted
    have count_eq : core.frameCount = BitVec.ofNat 32 (display.completed.length + 1) := by
      rw [count, if_pos boundary, related.frameCount, BitVec.ofNat_add]
      rfl
    refine ⟨next, _, Or.inr (Display.step_wrap emitted), ?_⟩
    rcases interrupted.branches with ⟨missed, pointers, _⟩ | ⟨_, pending, pointers, _⟩
    · -- Nothing is pending, and the same picture stays on.
      have absent : state.pendingDelta.isSome = false :=
        Bool.eq_false_iff.mpr fun pending => missed ⟨boundary, pending⟩
      have stays : display.waiting = none := by
        rw [related.waiting, absent]
        rfl
      refine kept _ count_eq ?_ ?_ ?_ related.output
      · rw [stays, (current pointers).1]
        exact related.shown
      · rw [(current pointers).2.1, absent]
        rfl
      · rw [origin]
        rfl
    · -- The pending buffer comes on with what it contains.
      have comes : display.waiting = some (panel.memory.contents size state.pendingFbPtr) := by
        rw [related.waiting, if_pos pending]
      have flipped : next.currentFbPtr = state.pendingFbPtr := congrArg Pointers.current pointers
      have nothing : next.pendingDelta = none := congrArg Pointers.delta pointers
      refine kept _ count_eq ?_ ?_ ?_ related.output
      · rw [comes, flipped]
        rfl
      · rw [nothing]
        rfl
      · rw [origin]
        rfl
  · -- The frame goes on.
    have going : (state.bcm.cursor.advance layout.passes layout.count).2 ≠ true := by
      rw [inner]
      exact Bool.false_ne_true
    have count_eq : core.frameCount = BitVec.ofNat 32 display.completed.length := by
      rw [count, if_neg going, related.frameCount]
      exact BitVec.add_zero _
    refine ⟨next, display, Or.inl rfl, ?_⟩
    rcases interrupted.branches with ⟨_, pointers, _⟩ | ⟨boundary, _⟩
    · refine kept _ count_eq ?_ ?_ ?_ related.output
      · rw [(current pointers).1]
        exact related.shown
      · rw [(current pointers).2.1, (current pointers).2.2]
        exact related.waiting
      · rw [interrupted.cursor, place]
        exact emitted
    · exact absurd boundary going

/-- A swap that is queued is an offer of what the caller has drawn. -/
theorem Related.step_enter {waker : Nat}
    (related : Related layout size buffers port offered panel state display)
    (taken : Panel.step profile api size panel (.driver (.enter waker)) = some after) :
    Exists fun picture => panel.system.held.map (panel.memory.contents size) = some picture ∧
      Exists fun next => Exists fun shows =>
        Display.step (frameOf layout port) display (.offer picture) = some shows ∧
          Related layout size buffers port (picture :: offered) after next shows := by
  rcases Panel.step_driver taken with ⟨_, system, moved, same⟩
  rcases related.invariant.step_moves moved with ⟨next, preserved, moves⟩
  rcases System.step_enter moved with ⟨fbPtr, held, core, queued, after_eq⟩
  have stored := swapInnerQueue_cases related.invariant.present queued
  subst stored
  subst after_eq
  subst same
  rcases related.handed with ⟨older, earlier, recorded⟩
  rw [held] at recorded
  refine ⟨panel.memory.contents size fbPtr, congrArg (Option.map _) held, next, _, rfl, ?_⟩
  cases Option.some.inj preserved.present
  exact {
    invariant := preserved
    subset := List.Subset.trans moves.tokens_subset related.subset
    port_eq := related.port_eq
    frameCount := related.frameCount
    shown := related.shown
    waiting := rfl
    fetched_le := related.fetched_le
    emitted := related.emitted
    output := related.output
    handed := ⟨_, earlier.cons_cons _, recorded⟩ }

/-- A call of `swap` hands over what it holds from then on, and no step takes back what
was handed over. -/
theorem handed_step {label : Label} {system : System} {older : List (ByteMemory 32)}
    (moved : System.step profile api panel.system label = some system)
    (notEnter : forall waker, label ≠ .enter waker)
    (recorded : panel.handed.map Prod.snd =
      (panel.system.held.map (panel.memory.contents size)).toList ++ older) :
    Exists fun known : List (ByteMemory 32) => older.Sublist known ∧
      (label ≠ .cancel -> known = older) ∧
      (panel.gives size label ++ panel.handed).map Prod.snd =
        (system.held.map (panel.memory.contents size)).toList ++ known := by
  have unmoved (sameHeld : system.held = panel.system.held) (nothing : panel.gives size label = []) :
      Exists fun known : List (ByteMemory 32) => older.Sublist known ∧
        (label ≠ .cancel -> known = older) ∧
        (panel.gives size label ++ panel.handed).map Prod.snd =
          (system.held.map (panel.memory.contents size)).toList ++ known := by
    rw [sameHeld, nothing]
    exact ⟨older, List.Sublist.refl older, fun _ => rfl, recorded⟩
  cases label with
  | enter waker => exact absurd rfl (notEnter waker)
  | isr =>
      rcases System.step_isr moved with ⟨_, _, same⟩
      exact unmoved (by rw [same]) rfl
  | swap fbPtr =>
      rcases System.step_swap moved with ⟨⟨free, _, _⟩, same⟩
      rw [free] at recorded
      subst same
      refine ⟨older, List.Sublist.refl older, fun _ => rfl, ?_⟩
      change panel.memory.contents size fbPtr :: panel.handed.map Prod.snd = _
      rw [recorded]
      rfl
  | load =>
      rcases System.step_load moved with ⟨_, _, same⟩
      exact unmoved (by rw [same]) rfl
  | lock =>
      rcases System.step_lock moved with ⟨_, _, same⟩
      exact unmoved (by rw [same]) rfl
  | poll waker =>
      rcases System.step_poll moved with ⟨_, same⟩
      exact unmoved (by rw [same]) rfl
  | finish =>
      rcases System.step_finish moved with ⟨_, _, _, same⟩
      exact unmoved (by rw [same]) rfl
  | cancel =>
      rcases System.step_cancel moved with ⟨_, same⟩ | ⟨_, _, same⟩
      · -- The future is dropped before its first poll, and never offers its buffer.
        subst same
        exact ⟨_, List.sublist_append_right _ older, fun kept => absurd rfl kept, recorded⟩
      · exact unmoved (by rw [same]) rfl

/-- The other steps of the task are invisible. -/
theorem Related.step_task {label : Label} (notIsr : label ≠ .isr)
    (notEnter : forall waker, label ≠ .enter waker)
    (related : Related layout size buffers port offered panel state display)
    (taken : Panel.step profile api size panel (.driver label) = some after) :
    Related layout size buffers port offered after state display := by
  rcases Panel.step_driver taken with ⟨_, system, moved, same⟩
  rcases related.invariant.step_moves moved with ⟨next, preserved, moves⟩
  have stays := (related.invariant.step_task moved notIsr notEnter).1
  cases Option.some.inj (stays.present.symm.trans preserved.present)
  have count := (System.step_task_counts related.invariant.present moved notIsr).1
  rcases related.handed with ⟨older, earlier, recorded⟩
  rcases handed_step moved notEnter recorded with ⟨known, extends_older, _, recordedNow⟩
  have going : (if label = .isr then 0 else panel.fetched) = panel.fetched := if_neg notIsr
  subst same
  exact { related with
    invariant := preserved
    subset := List.Subset.trans moves.tokens_subset related.subset
    frameCount := count.trans related.frameCount
    fetched_le := going.trans_le related.fetched_le
    emitted := related.emitted.trans (congrArg _ going.symm)
    handed := ⟨known, earlier.trans extends_older, recordedNow⟩ }

/-! ## Runs -/

/-- Every step is answered by one step of the display or by none. -/
theorem Relates.answers {events : List (DisplayEvent (ByteMemory 32))} {label : PanelLabel}
    (within : layout.Within size) (apart : buffers.Pairwise (ByteMemory.Apart size))
    (relates : Relates layout size buffers port events panel display)
    (taken : Panel.step profile api size panel label = some after) :
    Exists fun more => Exists fun next =>
      Run (Display.step (frameOf layout port)) display more next ∧
        Relates layout size buffers port (more ++ events) after next := by
  rcases relates with ⟨state, related⟩
  cases label with
  | draw fbPtr offset byte => exact ⟨[], display, .refl, state, related.step_draw apart taken⟩
  | fetch =>
      rcases related.step_fetch within taken with ⟨shows, emits, still⟩
      exact ⟨[.emit], shows, Run.refl.snoc emits, state, still⟩
  | driver label =>
      by_cases isr : label = .isr
      · subst isr
        rcases related.step_isr taken with ⟨next, shows, quiet | ends, still⟩
        · exact ⟨[], display, .refl, next, quiet ▸ still⟩
        · exact ⟨[.wrap], shows, Run.refl.snoc ends, next, still⟩
      · by_cases enter : Exists fun waker => label = .enter waker
        · rcases enter with ⟨waker, same⟩
          subst same
          rcases related.step_enter taken with ⟨picture, _, next, shows, offers, still⟩
          exact ⟨[.offer picture], shows, Run.refl.snoc offers, next, still⟩
        · exact ⟨[], display, .refl, state,
            related.step_task isr (fun waker same => enter ⟨waker, same⟩) taken⟩

theorem Relates.initial {core0 core : IsrCore} {state0 : IsrCoreState} {base : Addr}
    {hand : List Addr} (present : core0.state = some state0) (quiet : state0.channel.active = [])
    (started : core0.startFirstTransfer profile api (layout.instanceAt base) base = .ok core)
    (distinct : (base :: hand).Nodup) (memory : ByteMemory 32) :
    Relates layout size (base :: hand) state0.port []
      (Panel.started (System.started core hand) memory)
      (Display.initial (memory.contents size base)) := by
  rcases Invariant.initial present quiet started distinct with
    ⟨state, invariant, atOrigin, pointers, _⟩
  have fields : state.port = state0.port ∧ core.frameCount = 0 := by
    unfold IsrCore.startFirstTransfer at started
    rw [present] at started
    rcases bind_eq_ok.mp started with ⟨bcm, _, kicked⟩
    rcases kickCurrent_port kicked with ⟨next, stored, port, count⟩
    cases Option.some.inj (stored.symm.trans invariant.present)
    exact ⟨port, count⟩
  have shown : state.currentFbPtr = base := congrArg Pointers.current pointers
  have nothing : state.pendingDelta = none := congrArg Pointers.delta pointers
  refine ⟨state, ?_⟩
  exact {
    invariant
    subset := by
      unfold System.custody
      rw [pointers]
      exact List.Subset.refl _
    port_eq := fields.1
    frameCount := fields.2
    shown := by
      rw [shown]
      rfl
    waiting := by
      rw [nothing]
      rfl
    fetched_le := Nat.zero_le _
    emitted := by
      rw [atOrigin]
      rfl
    output := rfl
    handed := ⟨[], List.Sublist.refl _, rfl⟩ }

/-- Everything that was offered had been handed over. -/
theorem Related.offered_handed
    (related : Related layout size buffers port offered panel state display) :
    offered.Sublist (panel.handed.map Prod.snd) := by
  rcases related.handed with ⟨older, earlier, recorded⟩
  rw [recorded]
  exact earlier.trans (List.sublist_append_right _ older)

/-- The display at the other end explains the output. -/
theorem Related.exhibits {events : List (DisplayEvent (ByteMemory 32))} {first : ByteMemory 32}
    (related : Related layout size buffers port (Display.offers events) panel state display)
    (shows : Run (Display.step (frameOf layout port)) (Display.initial first) events display) :
    Exists fun chosen => Exhibits (frameOf layout port) first (panel.handed.map Prod.snd)
      panel.output chosen display.completed (panel.memory.contents size state.currentFbPtr) := by
  rcases Display.exhibits_of_run shows with ⟨chosen, exhibits⟩
  rw [← related.shown, related.output]
  exact ⟨chosen, exhibits.mono related.offered_handed⟩

/-- Every run of the driver is explained by a run of the display. -/
theorem Relates.run {core0 core : IsrCore} {state0 : IsrCoreState} {base : Addr} {hand : List Addr}
    (memory : ByteMemory 32) (present : core0.state = some state0)
    (quiet : state0.channel.active = [])
    (started : core0.startFirstTransfer profile api (layout.instanceAt base) base = .ok core)
    (distinct : (base :: hand).Nodup) (within : layout.Within size)
    (apart : (base :: hand).Pairwise (ByteMemory.Apart size)) {trace : List PanelLabel}
    (run : Run (Panel.step profile api size) (Panel.started (System.started core hand) memory)
      trace panel) :
    Simulated (Display.step (frameOf layout state0.port))
      (Display.initial (memory.contents size base))
      (fun _ => Relates layout size (base :: hand) state0.port) trace panel := by
  have initially : Relates layout size (base :: hand) state0.port []
      (Panel.started (System.started core hand) memory)
      (Display.initial (memory.contents size base)) :=
    Relates.initial present quiet started distinct memory
  exact Simulated.run initially
    (fun _ _ _ _ _ _ relates taken => relates.answers within apart taken) run

/-- What the plain backend puts on the port, in every run: whole frames of the picture
the driver was started with and of pictures that were handed to `swap`, in that order,
and the beginning of a frame of the picture in the displayed buffer.  A frame is never
torn, however the caller draws while it is on, and `frame_count` counts the whole ones. -/
theorem shows_whole_frames (profile : Profile) (api : ChannelApi) (layout : Layout) {size : Nat}
    {core0 core : IsrCore} {state0 : IsrCoreState} {base : Addr} {hand : List Addr}
    (memory : ByteMemory 32) (present : core0.state = some state0)
    (quiet : state0.channel.active = [])
    (started : core0.startFirstTransfer profile api (layout.instanceAt base) base = .ok core)
    (distinct : (base :: hand).Nodup) (within : layout.Within size)
    (apart : (base :: hand).Pairwise (ByteMemory.Apart size)) {trace : List PanelLabel}
    {panel : Panel}
    (run : Run (Panel.step profile api size) (Panel.started (System.started core hand) memory)
      trace panel) :
    Exists fun state => panel.system.core.state = some state ∧
      Exists fun chosen => Exists fun completed =>
        Exhibits (frameOf layout state0.port) (memory.contents size base)
            (panel.handed.map Prod.snd) panel.output chosen completed
            (panel.memory.contents size state.currentFbPtr) ∧
          panel.system.core.frameCount = BitVec.ofNat 32 completed.length := by
  rcases Relates.run memory present quiet started distinct within apart run with
    ⟨events, display, shows, state, related⟩
  rcases related.exhibits shows with ⟨chosen, exhibits⟩
  exact ⟨state, related.invariant.present, chosen, display.completed, exhibits, related.frameCount⟩

/-- The caller draws one byte of the second buffer, hands it over in the middle of the
first frame, and draws into the first buffer when it is handed back. -/
def exampleShow : List PanelLabel :=
  .draw 0x20002000 3 0xFF :: List.replicate 64 PanelLabel.fetch ++ [.driver .isr,
    .driver (.swap 0x20002000), .driver (.enter 7), .driver .load, .driver .lock] ++
    List.replicate 64 PanelLabel.fetch ++ .driver .isr :: List.replicate 64 PanelLabel.fetch ++
    [.driver .isr, .driver (.poll 8), .driver .load, .driver .finish, .fetch,
      .draw 0x20000000 5 0x01, .fetch]

theorem shows_whole_frames_of_show :
    Exists fun panel => execute (Panel.step Profile.release assertingApi 128)
        (Panel.started (System.started startedCore [0x20002000]) fun _ => 0) exampleShow =
          some panel ∧ panel.system.hand = [0x20000000] ∧ panel.output.length = 194 ∧
      Exists fun state => panel.system.core.state = some state ∧
        Exists fun chosen => Exists fun completed =>
          Exhibits (frameOf Layout.twoSegments (5, 0x40020815, .oneByte))
              (ByteMemory.contents (fun _ => 0) 128 (0x20000000 : Addr))
              (panel.handed.map Prod.snd) panel.output chosen completed
              (panel.memory.contents 128 state.currentFbPtr) ∧
            panel.system.core.frameCount = BitVec.ofNat 32 completed.length := by
  have runs : (execute (Panel.step Profile.release assertingApi 128)
      (Panel.started (System.started startedCore [0x20002000]) fun _ => 0) exampleShow).map
        (fun panel => (panel.system.hand, panel.output.length)) = some ([0x20000000], 194) := by
    decide +kernel
  rcases Option.map_eq_some_iff.mp runs with ⟨panel, executed, reached⟩
  have distinct : [0x20000000, (0x20002000 : Addr)].Nodup := by decide
  refine ⟨panel, executed, congrArg Prod.fst reached, congrArg Prod.snd reached, ?_⟩
  exact shows_whole_frames Profile.release assertingApi Layout.twoSegments (fun _ => 0)
    (show initialisedCore.state = some _ from rfl) rfl
    (show initialisedCore.startFirstTransfer Profile.release assertingApi
      (Layout.twoSegments.instanceAt 0x20000000) 0x20000000 = .ok startedCore from rfl)
    distinct Layout.twoSegments_within exampleBuffers_apart (run_of_execute executed)

end Dma
end Driver
end Hub75
