import Hub75.Swap.PlainCore

namespace Hub75
namespace Driver
namespace Dma

open Machine

/-!
# Plain-DMA double buffering

The interrupt and the display task are interleaved arbitrarily.  A swap that is
abandoned at its await leaves its pointer pending: the interrupt may still apply
it, or the next swap may overwrite it.  The delta stored with it is relative to
the buffer displayed when it was queued, and only the interrupt changes that
buffer, by consuming the delta.

The invariant ties together the delta, the three pointers, the flag, the cursor
and the cache.  Who holds which buffer is read off the state by `custody`, and
every step is a sequence of moves of the custody library.  The buffers are known
by their addresses only; no assumption is made about their contents, and no
fairness about when the interrupt or the task runs.
-/

variable {profile : Profile} {api : ChannelApi} {layout : Layout}

namespace System

variable {system after : System}

/-! ## The effect of each step -/

theorem step_isr (taken : step profile api system .isr = some after) :
    Exists fun core => system.core.onDmaComplete profile api = .ok core ∧
      after = { system with core } := by
  simp only [step] at taken
  split at taken
  · next core completed => exact ⟨core, completed, (Option.some.inj taken).symm⟩
  · cases taken

theorem step_swap {fbPtr : Addr} (taken : step profile api system (.swap fbPtr) = some after) :
    (system.held = none ∧ system.phase = .idle ∧ fbPtr ∈ system.hand) ∧
      after = { system with held := some fbPtr, hand := system.hand.erase fbPtr } := by
  simp only [step] at taken
  split at taken
  · next allowed => exact ⟨allowed, (Option.some.inj taken).symm⟩
  · cases taken

theorem step_enter {waker : Nat} (taken : step profile api system (.enter waker) = some after) :
    Exists fun fbPtr => system.held = some fbPtr ∧ Exists fun core =>
      system.core.swapInnerQueue profile fbPtr = .ok core ∧
      after = { system with core, held := none, phase := .started waker } := by
  simp only [step] at taken
  split at taken
  · cases taken
  · next fbPtr held =>
      split at taken
      · next core queued => exact ⟨fbPtr, held, core, queued, (Option.some.inj taken).symm⟩
      · cases taken

theorem step_load (taken : step profile api system .load = some after) :
    Exists fun waker => system.phase = .started waker ∧
      after = { system with phase := system.core.cell.loadPhase waker } := by
  simp only [step] at taken
  split at taken
  · next waker started => exact ⟨waker, started, (Option.some.inj taken).symm⟩
  · cases taken

theorem step_lock (taken : step profile api system .lock = some after) :
    Exists fun waker => system.phase = .missed waker ∧
      after = { system with
        core := system.core.swapInnerLock waker
        phase := system.core.cell.lockPhase waker } := by
  simp only [step] at taken
  split at taken
  · next waker missed => exact ⟨waker, missed, (Option.some.inj taken).symm⟩
  · cases taken

theorem step_poll {waker : Nat} (taken : step profile api system (.poll waker) = some after) :
    (Exists fun other => Exists fun mark => system.phase = .asleep other mark) ∧
      after = { system with phase := .started waker } := by
  simp only [step] at taken
  split at taken
  · next other mark asleep => exact ⟨⟨other, mark, asleep⟩, (Option.some.inj taken).symm⟩
  · cases taken

theorem step_finish (taken : step profile api system .finish = some after) :
    system.phase = .ready ∧ Exists fun fbPtr => system.core.swapInnerReturned = .ok fbPtr ∧
      after = { system with phase := .idle, hand := fbPtr :: system.hand } := by
  simp only [step] at taken
  split at taken
  · next ready =>
      split at taken
      · next fbPtr returned => exact ⟨ready, fbPtr, returned, (Option.some.inj taken).symm⟩
      · cases taken
  · cases taken

theorem step_cancel (taken : step profile api system .cancel = some after) :
    (system.held.isSome = true ∧ after = { system with held := none }) ∨
      (system.held = none ∧ (Exists fun waker => Exists fun mark =>
        system.phase = .asleep waker mark) ∧ after = { system with phase := .idle }) := by
  simp only [step] at taken
  split at taken
  · next held _ =>
      rw [held]
      exact Or.inl ⟨rfl, (Option.some.inj taken).symm⟩
  · next waker mark held asleep =>
      exact Or.inr ⟨held, ⟨waker, mark, asleep⟩, (Option.some.inj taken).symm⟩
  · cases taken

end System

/-- Queueing a swap changes the pending pair and lowers the flag. -/
theorem swapInnerQueue_cases {core after : IsrCore} {state : IsrCoreState} {fbPtr : Addr}
    (present : core.state = some state) (queued : core.swapInnerQueue profile fbPtr = .ok after) :
    after = { core with
      state := some { state with
        pendingDelta := some (fbPtr - state.currentFbPtr)
        pendingFbPtr := fbPtr }
      swapDone := false } := by
  simp only [IsrCore.swapInnerQueue, present] at queued
  split at queued
  · cases queued
  · next delta subtracted =>
      rw [isizeSub_eq_ok subtracted] at queued
      exact (Except.ok.inj queued).symm

/-! ## Custody -/

/-- Who holds which buffer.  A buffer is due from the moment the interrupt
reports completion to a live swap until that swap hands it back. -/
def custody (pointers : Pointers) (done : Bool) (phase : Phase Nat) (held : Option Addr)
    (hand : List Addr) : Custody Addr where
  shown := pointers.current
  queued := if pointers.delta.isSome then some pointers.pending else none
  due := if phase ≠ .idle ∧ done = true then some pointers.returned else none
  held := held
  hand := hand

/-- Applying a pending swap shows the queued buffer.  What it displaces is due to
the live swap, and lost when the swap was abandoned. -/
theorem custody_flip {pointers : Pointers} (pending : pointers.delta.isSome = true) (done : Bool)
    (phase : Phase Nat) (held : Option Addr) (hand : List Addr) :
    Custody.Moves (custody pointers done phase held hand)
      (custody pointers.flip true phase held hand) := by
  have queued : (custody pointers done phase held hand).queued = some pointers.pending :=
    if_pos pending
  refine (Relation.ReflTransGen.single (Custody.Move.flip queued)).trans ?_
  by_cases idle : phase = .idle
  · have lost : custody pointers.flip true phase held hand =
        { custody pointers.flip true phase held hand with due := none } := by
      simp only [custody, idle, ne_eq, not_true_eq_false, false_and, if_false]
    rw [lost]
    exact Relation.ReflTransGen.single Custody.Move.forget
  · have kept : custody pointers.flip true phase held hand =
        { custody pointers.flip true phase held hand with due := some pointers.current } := by
      simp only [custody, Pointers.flip, ne_eq, idle, not_false_eq_true, true_and, if_true]
    rw [kept]
    exact Relation.ReflTransGen.refl

/-- Queueing moves the held buffer into the queue, over whatever an abandoned
swap left there. -/
theorem custody_queue {fbPtr : Addr} (pointers : Pointers) (done : Bool) (phase : Phase Nat)
    (hand : List Addr) (delta : Addr) (waker : Nat) :
    Custody.Moves (custody pointers done phase (some fbPtr) hand)
      (custody ⟨pointers.current, some delta, fbPtr, pointers.returned⟩ false (.started waker) none
        hand) := by
  have queued : custody ⟨pointers.current, some delta, fbPtr, pointers.returned⟩ false
      (.started waker) none hand =
      { custody pointers done phase (some fbPtr) hand with
        held := none
        due := none
        queued := some fbPtr } := by
    simp only [custody, Option.isSome_some, if_true, Bool.false_eq_true, and_false, if_false]
  rw [queued]
  exact Relation.ReflTransGen.single (Custody.Move.queue rfl)

/-- Handing back moves the due buffer into the caller's hand. -/
theorem custody_collect (pointers : Pointers) (held : Option Addr) (hand : List Addr) :
    Custody.Move (custody pointers true .ready held hand)
      (custody pointers true .idle held (pointers.returned :: hand)) := by
  have due : (custody pointers true .ready held hand).due = some pointers.returned := by
    simp only [custody, ne_eq, reduceCtorEq, not_false_eq_true, and_self, if_true]
  have collected : custody pointers true .idle held (pointers.returned :: hand) =
      { custody pointers true .ready held hand with
        due := none
        hand := pointers.returned :: hand } := by
    simp only [custody, ne_eq, not_true_eq_false, false_and, if_false]
  rw [collected]
  exact Custody.Move.collect due

/-- A dropped future forgets what was due to it. -/
theorem custody_forget (pointers : Pointers) (done : Bool) (phase : Phase Nat)
    (held : Option Addr) (hand : List Addr) :
    Custody.Move (custody pointers done phase held hand)
      (custody pointers done .idle held hand) := by
  have forgotten : custody pointers done .idle held hand =
      { custody pointers done phase held hand with due := none } := by
    simp only [custody, ne_eq, not_true_eq_false, false_and, if_false]
  rw [forgotten]
  exact Custody.Move.forget

/-- Polls move between the phases of a live swap, which hold nothing. -/
theorem custody_phase {first second : Phase Nat} (live : first ≠ .idle) (stays : second ≠ .idle)
    (pointers : Pointers) (done : Bool) (held : Option Addr) (hand : List Addr) :
    custody pointers done second held hand = custody pointers done first held hand := by
  simp only [custody, ne_eq, live, stays, not_false_eq_true, true_and]

/-! ## The invariant -/

structure Invariant (layout : Layout) (system : System) (state : IsrCoreState) : Prop where
  present : system.core.state = some state
  streaming : Streaming layout state
  consistent : state.pointers.Consistent
  unfinished : state.pointers.delta.isSome = true -> system.core.swapDone = false
  calling : system.held.isSome = true -> system.phase = .idle
  ready : system.phase = .ready -> system.core.swapDone = true
  exclusive :
    (custody state.pointers system.core.swapDone system.phase system.held system.hand).Exclusive

variable {system after : System} {state : IsrCoreState}

theorem Invariant.step_isr (invariant : Invariant layout system state)
    (taken : System.step profile api system .isr = some after) :
    Exists fun next => Invariant layout after next ∧
      Interrupted layout system.core after.core state next := by
  rcases System.step_isr taken with ⟨core, completed, same⟩
  subst same
  rcases onDmaComplete_cases invariant.present invariant.streaming invariant.consistent
    completed with ⟨next, interrupted⟩
  refine ⟨next, ?_, interrupted⟩
  rcases interrupted.branches with ⟨_, pointers, cell⟩ | ⟨_, pending, pointers, cell⟩
  · have done : core.swapDone = system.core.swapDone := congrArg Cell.done cell
    exact {
      present := interrupted.present
      streaming := interrupted.streaming
      consistent := pointers ▸ invariant.consistent
      unfinished := by
        rw [pointers]
        exact fun pending => done.trans (invariant.unfinished pending)
      calling := invariant.calling
      ready := fun ready => done.trans (invariant.ready ready)
      exclusive := by
        rw [pointers, done]
        exact invariant.exclusive }
  · have done : core.swapDone = true := congrArg Cell.done cell
    exact {
      present := interrupted.present
      streaming := interrupted.streaming
      consistent := pointers ▸ state.pointers.consistent_flip
      unfinished := by
        rw [pointers]
        exact fun impossible => absurd impossible Bool.false_ne_true
      calling := invariant.calling
      ready := fun _ => done
      exclusive := by
        rw [pointers, done]
        exact (custody_flip pending _ _ _ _).exclusive invariant.exclusive }

theorem Invariant.step_enter {waker : Nat} (invariant : Invariant layout system state)
    (taken : System.step profile api system (.enter waker) = some after) :
    Exists fun fbPtr => system.held = some fbPtr ∧
      Exists fun next => Invariant layout after next ∧
        next.pointers = ⟨state.currentFbPtr, some (fbPtr - state.currentFbPtr), fbPtr,
          state.returnedFbPtr⟩ ∧
        next.bcm = state.bcm ∧ after.phase = .started waker ∧ after.hand = system.hand ∧
        after.core.cell = system.core.cell.arm := by
  rcases System.step_enter taken with ⟨fbPtr, held, core, queued, same⟩
  subst same
  have stored := swapInnerQueue_cases invariant.present queued
  subst stored
  refine ⟨fbPtr, held, { state with
    pendingDelta := some (fbPtr - state.currentFbPtr)
    pendingFbPtr := fbPtr }, ?_, rfl, rfl, rfl, rfl, rfl⟩
  have exclusive := invariant.exclusive
  rw [held] at exclusive
  exact {
    present := rfl
    streaming := { invariant.streaming with }
    consistent := fun delta same => (Option.some.inj same).symm
    unfinished := fun _ => rfl
    calling := fun impossible => absurd impossible Bool.false_ne_true
    ready := fun impossible => nomatch impossible
    exclusive := (custody_queue state.pointers _ _ _ _ waker).exclusive exclusive }

/-- A poll step keeps the invariant when it stays in a live phase, reports
readiness only with the flag up, and touches at most the waker slot. -/
theorem Invariant.step_poll (invariant : Invariant layout system state)
    (live : system.phase ≠ .idle) {core : IsrCore} {phase : Phase Nat}
    (sameState : core.state = system.core.state) (done : core.swapDone = system.core.swapDone)
    (stays : phase ≠ .idle) (honest : phase = .ready -> system.core.swapDone = true) :
    Invariant layout { system with core, phase } state where
  present := sameState.trans invariant.present
  streaming := invariant.streaming
  consistent := invariant.consistent
  unfinished pending := done.trans (invariant.unfinished pending)
  calling held := absurd (invariant.calling held) live
  ready same := done.trans (honest same)
  exclusive := by
    rw [done, custody_phase live stays]
    exact invariant.exclusive

/-- Every step other than the interrupt and the queueing of a swap leaves the
interrupt-side state and the flag alone. -/
theorem Invariant.step_task {label : Label} (invariant : Invariant layout system state)
    (taken : System.step profile api system label = some after) (notIsr : label ≠ .isr)
    (notEnter : forall waker, label ≠ .enter waker) :
    Invariant layout after state ∧ after.core.swapDone = system.core.swapDone := by
  cases label with
  | isr => exact absurd rfl notIsr
  | enter waker => exact absurd rfl (notEnter waker)
  | swap fbPtr =>
      rcases System.step_swap taken with ⟨⟨free, idle, owned⟩, same⟩
      subst same
      refine ⟨{ invariant with calling := fun _ => idle, exclusive := ?_ }, rfl⟩
      exact (Custody.Move.call free owned).exclusive invariant.exclusive
  | load =>
      rcases System.step_load taken with ⟨waker, started, same⟩
      subst same
      have live : system.phase ≠ .idle := by
        rw [started]
        exact fun impossible => nomatch impossible
      exact ⟨invariant.step_poll live rfl rfl Cell.loadPhase_ne_idle
        fun ready => Cell.done_of_loadPhase ready, rfl⟩
  | lock =>
      rcases System.step_lock taken with ⟨waker, missed, same⟩
      subst same
      have live : system.phase ≠ .idle := by
        rw [missed]
        exact fun impossible => nomatch impossible
      have sameState := system.core.state_swapInnerLock waker
      have done := system.core.swapDone_swapInnerLock waker
      exact ⟨invariant.step_poll live sameState done Cell.lockPhase_ne_idle
        fun ready => Cell.done_of_lockPhase ready, done⟩
  | poll waker =>
      rcases System.step_poll taken with ⟨⟨other, mark, asleep⟩, same⟩
      subst same
      have live : system.phase ≠ .idle := by
        rw [asleep]
        exact fun impossible => nomatch impossible
      exact ⟨invariant.step_poll live rfl rfl (fun impossible => nomatch impossible)
        (fun impossible => nomatch impossible), rfl⟩
  | finish =>
      rcases System.step_finish taken with ⟨ready, fbPtr, returned, same⟩
      subst same
      have handed : fbPtr = state.returnedFbPtr := by
        simp only [IsrCore.swapInnerReturned, invariant.present, Except.ok.injEq] at returned
        exact returned.symm
      have done := invariant.ready ready
      have exclusive := invariant.exclusive
      rw [done, ready] at exclusive
      refine ⟨{ invariant with
        calling := fun _ => rfl
        ready := fun impossible => nomatch impossible
        exclusive := ?_ }, rfl⟩
      rw [done, handed]
      exact (custody_collect state.pointers _ _).exclusive exclusive
  | cancel =>
      rcases System.step_cancel taken with ⟨_, same⟩ | ⟨_, _, same⟩
      · subst same
        exact ⟨{ invariant with
          calling := fun impossible => absurd impossible Bool.false_ne_true
          exclusive := Custody.Move.abandon.exclusive invariant.exclusive }, rfl⟩
      · subst same
        exact ⟨{ invariant with
          calling := fun _ => rfl
          ready := fun impossible => nomatch impossible
          exclusive := (custody_forget _ _ _ _ _).exclusive invariant.exclusive }, rfl⟩

/-- One step, whatever its label, keeps the invariant. -/
theorem Invariant.step {label : Label} (invariant : Invariant layout system state)
    (taken : System.step profile api system label = some after) :
    Exists fun next => Invariant layout after next := by
  by_cases isr : label = .isr
  · subst isr
    rcases invariant.step_isr taken with ⟨next, preserved, _⟩
    exact ⟨next, preserved⟩
  · by_cases enter : Exists fun waker => label = .enter waker
    · rcases enter with ⟨waker, same⟩
      subst same
      rcases invariant.step_enter taken with ⟨_, _, next, preserved, _⟩
      exact ⟨next, preserved⟩
    · exact ⟨state, (invariant.step_task taken isr fun waker same => enter ⟨waker, same⟩).1⟩

/-! ## Runs -/

/-- The driver right after `start_first_transfer`, with `hand` in the caller's
possession. -/
def System.started (core : IsrCore) (hand : List Addr) : System :=
  ⟨core, none, .idle, hand⟩

theorem Invariant.initial {core0 core : IsrCore} {state0 : IsrCoreState} {base : Addr}
    {hand : List Addr} (present : core0.state = some state0) (quiet : state0.channel.active = [])
    (started : core0.startFirstTransfer profile api (layout.instanceAt base) base = .ok core)
    (distinct : (base :: hand).Nodup) :
    Exists fun state => Invariant layout (System.started core hand) state ∧
      state.bcm.cursor = Cursor.origin ∧ state.pointers = ⟨base, none, 0, 0⟩ ∧
      core.swapDone = false := by
  rcases startFirstTransfer_cases started present quiet with
    ⟨state, stored, streaming, pointers, atOrigin, down⟩
  refine ⟨state, ?_, atOrigin, pointers, down⟩
  exact {
    present := stored
    streaming := streaming
    consistent := by
      rw [pointers]
      exact fun _ impossible => nomatch impossible
    unfinished := by
      rw [pointers]
      exact fun impossible => absurd impossible Bool.false_ne_true
    calling := fun impossible => absurd impossible Bool.false_ne_true
    ready := fun impossible => nomatch impossible
    exclusive := by
      rw [pointers]
      exact distinct }

theorem Invariant.run {start : System} {first : IsrCoreState} {trace : List Label}
    (invariant : Invariant layout start first)
    (run : Run (System.step profile api) start trace system) :
    Exists fun state => Invariant layout system state := by
  refine run.invariant (fun _ reached => Exists fun state => Invariant layout reached state)
    ⟨first, invariant⟩ fun _ before label next preserved taken => ?_
  rcases preserved with ⟨state, invariant⟩
  exact invariant.step taken

/-- A queued swap is being served: it is still pending over the buffer it found
displayed, or it was applied and that buffer is waiting to be returned. -/
def Serving (found wanted : Addr) (system : System) (state : IsrCoreState) : Prop :=
  (system.core.swapDone = false ∧ state.currentFbPtr = found ∧
      state.pointers.delta.isSome = true ∧ state.pendingFbPtr = wanted) ∨
    (system.core.swapDone = true ∧ state.pointers.delta = none ∧ state.currentFbPtr = wanted ∧
      state.returnedFbPtr = found)

theorem Serving.step {found wanted : Addr} {label : Label}
    (invariant : Invariant layout system state) (serving : Serving found wanted system state)
    (taken : System.step profile api system label = some after)
    (notEnter : forall waker, label ≠ .enter waker) :
    Exists fun next => Invariant layout after next ∧ Serving found wanted after next := by
  by_cases isr : label = .isr
  · subst isr
    rcases invariant.step_isr taken with ⟨next, preserved, interrupted⟩
    refine ⟨next, preserved, ?_⟩
    rcases interrupted.branches with ⟨_, pointers, cell⟩ | ⟨_, pending, pointers, cell⟩
    · have done : after.core.swapDone = system.core.swapDone := congrArg Cell.done cell
      have current : next.currentFbPtr = state.currentFbPtr := congrArg Pointers.current pointers
      have queued : next.pendingFbPtr = state.pendingFbPtr := congrArg Pointers.pending pointers
      have returned : next.returnedFbPtr = state.returnedFbPtr :=
        congrArg Pointers.returned pointers
      unfold Serving
      rw [pointers, done, current, queued, returned]
      exact serving
    · rcases serving with ⟨_, current, _, queued⟩ | ⟨_, absent, _⟩
      · exact Or.inr ⟨congrArg Cell.done cell, congrArg Pointers.delta pointers,
          (congrArg Pointers.current pointers).trans queued,
          (congrArg Pointers.returned pointers).trans current⟩
      · have impossible : state.pointers.delta.isSome = true := pending
        rw [absent] at impossible
        exact absurd impossible Bool.false_ne_true
  · rcases invariant.step_task taken isr notEnter with ⟨preserved, done⟩
    refine ⟨state, preserved, ?_⟩
    unfold Serving
    rw [done]
    exact serving

/-- The swap queued by one `enter` returns the buffer it found displayed, and
when it returns the buffer it brought is displayed, however the run between the
two steps went. -/
theorem Invariant.returns_displaced {waker : Nat} {entered later finished : System}
    {trace : List Label} (invariant : Invariant layout system state)
    (enter : System.step profile api system (.enter waker) = some entered)
    (run : Run (System.step profile api) entered trace later)
    (sameSwap : forall other, Label.enter other ∉ trace)
    (finish : System.step profile api later .finish = some finished) :
    finished.hand = state.currentFbPtr :: later.hand ∧
      Exists fun last => later.core.state = some last ∧ system.held = some last.currentFbPtr := by
  rcases invariant.step_enter enter with ⟨wanted, held, next, preserved, pointers, _, _, _, cell⟩
  have current : next.currentFbPtr = state.currentFbPtr := congrArg Pointers.current pointers
  have begun : Serving state.currentFbPtr wanted entered next := by
    refine Or.inl ⟨congrArg Cell.done cell, current, ?_, congrArg Pointers.pending pointers⟩
    rw [pointers]
    rfl
  have served := run.invariant (fun steps reached => (forall other, Label.enter other ∉ steps) ->
      Exists fun last => Invariant layout reached last ∧
        Serving state.currentFbPtr wanted reached last) (fun _ => ⟨next, preserved, begun⟩) <| by
    intro earlier before label following inductionHypothesis taken absent
    rcases inductionHypothesis fun other member => absent other (List.mem_cons_of_mem _ member) with
      ⟨last, kept, serving⟩
    refine serving.step kept taken fun other same => absent other ?_
    rw [same]
    exact List.mem_cons_self
  rcases served sameSwap with ⟨last, kept, serving⟩
  rcases System.step_finish finish with ⟨ready, fbPtr, returned, same⟩
  have handed : fbPtr = last.returnedFbPtr := by
    simp only [IsrCore.swapInnerReturned, kept.present, Except.ok.injEq] at returned
    exact returned.symm
  rcases serving with ⟨down, _⟩ | ⟨_, _, displayed, displaced⟩
  · exact absurd (down.symm.trans (kept.ready ready)) Bool.false_ne_true
  · subst same
    rw [handed, displaced]
    exact ⟨rfl, last, kept.present, displayed ▸ held⟩

/-! ## Safety -/

/-- What holds in every state of a run. -/
structure Safe (profile : Profile) (api : ChannelApi) (layout : Layout) (system : System)
    (state : IsrCoreState) : Prop where
  present : system.core.state = some state
  /-- Exactly one transfer is outstanding, the one the driver remembers. -/
  one_transfer : Exists fun transfer => state.transfer = some transfer ∧
    state.channel.active = [transfer] ∧
    transfer.source = state.currentFbPtr + layout.offset state.bcm.currentSegment ∧
    transfer.elements = layout.len state.bcm.currentSegment / state.wordSize.bytes ∧
    (layout.len state.bcm.currentSegment % state.wordSize.bytes = 0 ->
      transfer.block = (state.currentFbPtr + layout.offset state.bcm.currentSegment,
        layout.len state.bcm.currentSegment))
  /-- The cache is what an extraction from the displayed buffer yields. -/
  cache_current : Exists fun fresh =>
    segmentsFromFbInto Profile.release (layout.instanceAt state.currentFbPtr) SegmentCache.new =
      .ok fresh ∧
    state.bcm.cache.count = fresh.count ∧ state.bcm.cache.valid = fresh.valid
  cursor_valid : state.bcm.cursor.Valid layout.passes layout.count
  /-- The displayed buffer changes only at a frame boundary, where the scan
  restarts: every frame is streamed from one buffer. -/
  frame_atomic : forall label after next, System.step profile api system label = some after ->
    after.core.state = some next -> next.currentFbPtr ≠ state.currentFbPtr ->
    label = .isr ∧ (Exists fun bcm => state.bcm.advance profile = .ok (bcm, true)) ∧
      next.bcm.cursor = Cursor.origin
  /-- The caller owns neither the displayed buffer nor the pending one. -/
  exclusive : system.hand.Nodup ∧ state.currentFbPtr ∉ system.hand ∧
    (state.pendingDelta.isSome = true ->
      state.pendingFbPtr ∉ system.hand ∧ state.pendingFbPtr ≠ state.currentFbPtr)
  /-- What a swap hands back is neither displayed nor already owned. -/
  returned_fresh : forall after, System.step profile api system .finish = some after ->
    after.hand = state.returnedFbPtr :: system.hand ∧
      state.returnedFbPtr ≠ state.currentFbPtr ∧ state.returnedFbPtr ∉ system.hand
  /-- The next interrupt finds everything in order, as long as `write_raw` accepts the
  lengths of the segments. -/
  proceeds : api.Lawful -> profile.debugAssertions = false ->
    (forall i, i < layout.count -> 0 < layout.len i / state.wordSize.bytes ∧
      layout.len i / state.wordSize.bytes ≤ maxElements) ->
    Exists fun core => system.core.onDmaComplete profile api = .ok core

theorem Invariant.frame_atomic {label : Label} {next : IsrCoreState}
    (invariant : Invariant layout system state)
    (taken : System.step profile api system label = some after) (stored : after.core.state = some next)
    (changed : next.currentFbPtr ≠ state.currentFbPtr) :
    label = .isr ∧ (Exists fun bcm => state.bcm.advance profile = .ok (bcm, true)) ∧
      next.bcm.cursor = Cursor.origin := by
  have advanced : state.bcm.advance profile =
      .ok (state.bcm.withCursor (state.bcm.cursor.advance layout.passes layout.count).1,
        (state.bcm.cursor.advance layout.passes layout.count).2) :=
    Layout.advance_eq invariant.streaming.loaded invariant.streaming.cursor.index_lt
  by_cases isr : label = .isr
  · subst isr
    rcases invariant.step_isr taken with ⟨found, _, interrupted⟩
    have same : found = next := Option.some.inj (interrupted.present.symm.trans stored)
    subst same
    rcases interrupted.branches with ⟨_, pointers, _⟩ | ⟨boundary, _⟩
    · exact absurd (congrArg Pointers.current pointers) changed
    · rw [boundary] at advanced
      exact ⟨rfl, ⟨_, advanced⟩, interrupted.cursor.trans
        (invariant.streaming.cursor.advance_eq_origin layout.passes_pos boundary)⟩
  · by_cases enter : Exists fun waker => label = .enter waker
    · rcases enter with ⟨waker, same⟩
      subst same
      rcases invariant.step_enter taken with ⟨_, _, found, preserved, pointers, _⟩
      have same : found = next := Option.some.inj (preserved.present.symm.trans stored)
      subst same
      exact absurd (congrArg Pointers.current pointers) changed
    · have kept := (invariant.step_task taken isr fun waker same => enter ⟨waker, same⟩).1
      have same : state = next := Option.some.inj (kept.present.symm.trans stored)
      exact absurd (same ▸ rfl) changed

theorem Invariant.safe (invariant : Invariant layout system state) :
    Safe profile api layout system state where
  present := invariant.present
  one_transfer := by
    refine ⟨_, invariant.streaming.transfer, invariant.streaming.outstanding, rfl, rfl, ?_⟩
    intro whole
    exact segmentTransfer_block whole
  cache_current := by
    have extraction : Exists fun fresh =>
        segmentsFromFbInto Profile.release (layout.instanceAt state.currentFbPtr)
          SegmentCache.new = .ok fresh :=
      segmentsFromFbInto_ok SegmentCache.new
        ⟨invariant.streaming.nonempty, invariant.streaming.loaded.count_le⟩
        fun impossible => absurd impossible Bool.false_ne_true
    rcases extraction with ⟨fresh, extracted⟩
    rcases segmentsFromFbInto_eq_ok_iff.mp extracted with ⟨_, _, loaded, _⟩
    have cached := invariant.streaming.loaded
    exact ⟨fresh, extracted, cached.count_eq.trans loaded.count_eq.symm, cached.valid_eq loaded⟩
  cursor_valid := invariant.streaming.cursor
  frame_atomic _ _ _ taken stored changed := invariant.frame_atomic taken stored changed
  exclusive := by
    refine ⟨invariant.exclusive.hand_nodup, invariant.exclusive.shown_notMem_hand, ?_⟩
    intro pending
    have fresh := invariant.exclusive.queued_fresh (if_pos pending)
    exact ⟨fresh.2, fresh.1⟩
  returned_fresh after taken := by
    rcases System.step_finish taken with ⟨ready, fbPtr, returned, same⟩
    have handed : fbPtr = state.returnedFbPtr := by
      simp only [IsrCore.swapInnerReturned, invariant.present, Except.ok.injEq] at returned
      exact returned.symm
    have live : system.phase ≠ .idle ∧ system.core.swapDone = true := by
      rw [ready]
      exact ⟨(fun impossible => nomatch impossible), invariant.ready ready⟩
    have fresh := invariant.exclusive.due_fresh (if_pos live)
    subst same
    rw [handed]
    exact ⟨rfl, fresh⟩
  proceeds lawful release lengths := by
    apply (onDmaComplete_ok_iff lawful invariant.present invariant.streaming
      invariant.consistent).mpr
    refine ⟨?_, lengths _ (Cursor.advance_index_lt invariant.streaming.cursor.index_lt)⟩
    exact fun enabled => absurd (release.symm.trans enabled) Bool.false_ne_true

/-- Plain-DMA double buffering is safe and frame-atomic in every run.  Start the
driver on the buffer at `base` while the caller owns the buffers of `hand`; then
let the interrupt and the display task take any steps in any order.  Every state
reached is safe, and every swap that returns has displayed the buffer it brought
and hands back exactly the buffer that was displayed when it was queued. -/
theorem double_buffering_safe (profile : Profile) (api : ChannelApi) (layout : Layout)
    {core0 core : IsrCore}
    {state0 : IsrCoreState} {base : Addr} {hand : List Addr}
    (present : core0.state = some state0) (quiet : state0.channel.active = [])
    (started : core0.startFirstTransfer profile api (layout.instanceAt base) base = .ok core)
    (distinct : (base :: hand).Nodup) {trace : List Label} {system : System}
    (run : Run (System.step profile api) (System.started core hand) trace system) :
    Exists fun state => Safe profile api layout system state ∧
      forall waker entered later finished steps,
        System.step profile api system (.enter waker) = some entered ->
        Run (System.step profile api) entered steps later ->
        (forall other, Label.enter other ∉ steps) ->
        System.step profile api later .finish = some finished ->
        finished.hand = state.currentFbPtr :: later.hand ∧
          Exists fun last => later.core.state = some last ∧
            system.held = some last.currentFbPtr := by
  rcases Invariant.initial present quiet started distinct with ⟨_, initially, _⟩
  rcases initially.run run with ⟨state, invariant⟩
  exact ⟨state, invariant.safe, fun _ _ _ _ _ enter continued sameSwap finish =>
    invariant.returns_displaced enter continued sameSwap finish⟩

/-- That core after `start_first_transfer` on a buffer at `0x20000000`. -/
def startedCore : IsrCore :=
  match initialisedCore.startFirstTransfer Profile.release assertingApi
    (Layout.twoSegments.instanceAt 0x20000000) 0x20000000 with
  | .ok core => core
  | .error _ => initialisedCore

/-- A complete exchange, with one sleeping poll and one after the wake-up. -/
theorem double_buffering_safe_of_exchange :
    Exists fun system => execute (System.step Profile.release assertingApi)
        (System.started startedCore [0x20002000])
        [.swap 0x20002000, .enter 7, .load, .lock, .isr, .isr, .isr, .poll 8, .load, .finish] =
      some system ∧ system.hand = [0x20000000] ∧
      Exists fun state => Safe Profile.release assertingApi Layout.twoSegments system state := by
  have runs : ((execute (System.step Profile.release assertingApi)
      (System.started startedCore [0x20002000])
      [.swap 0x20002000, .enter 7, .load, .lock, .isr, .isr, .isr, .poll 8, .load, .finish]).map
        System.hand) = some [0x20000000] := by decide +kernel
  rcases Option.map_eq_some_iff.mp runs with ⟨system, executed, hand⟩
  rcases double_buffering_safe Profile.release assertingApi Layout.twoSegments
    (show initialisedCore.state = some _ from rfl) rfl
    (show initialisedCore.startFirstTransfer Profile.release assertingApi
      (Layout.twoSegments.instanceAt 0x20000000) 0x20000000 = .ok startedCore from rfl)
    (by decide) (run_of_execute executed) with ⟨state, safe, _⟩
  exact ⟨system, executed, hand, state, safe⟩

end Dma
end Driver
end Hub75
