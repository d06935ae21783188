import Hub75.Swap.FrameCount
import Hub75.Swap.Ledger
import Mathlib.Logic.Relation

namespace Hub75
namespace Driver
namespace Dma

open Machine

/-!
# Which buffers come onto the panel

A swap of the plain backend brings its buffer to the display when its delta can be computed
and the interrupts go on.  So the buffers that can be displayed are those that computed
deltas lead to, one after the other.  In every run the displayed buffer and the pending one
are among them; and as long as no interrupt panics, each of them is displayed in some run and
streamed to its last segment.
-/

variable {profile : Profile} {api : ChannelApi} {layout : Layout} {core0 core : IsrCore}
  {state0 state : IsrCoreState} {system after start : System} {buffers hand : List Addr}
  {base buffer shown wanted : Addr} {wordSize : WordSize} {trace : List Label} {k n : Nat}

/-- The buffers that swaps can lead to from the one at `base`. -/
def Displayable (profile : Profile) (buffers : List Addr) (base : Addr) : Addr -> Prop :=
  Relation.ReflTransGen (fun old new => new ∈ buffers ∧
    Exists fun delta => isizeSub profile new old = .ok delta) base

/-- Every segment of the buffer can be streamed. -/
def Suits (profile : Profile) (wordSize : WordSize) (layout : Layout) (buffer : Addr) : Prop :=
  forall i, i < layout.count ->
    Streamable profile wordSize (buffer + layout.offset i) (layout.len i)

theorem Displayable.mem (displayable : Displayable profile (base :: hand) base buffer) :
    buffer ∈ base :: hand := by
  rcases Relation.ReflTransGen.cases_tail displayable with same | ⟨_, _, member, _⟩
  · rw [same]
    exact List.mem_cons_self
  · exact member

/-- The first critical section of a swap fails in the subtraction only. -/
theorem swapInnerQueue_ok_iff {fbPtr : Addr} (present : core.state = some state) :
    (Exists fun after => core.swapInnerQueue profile fbPtr = .ok after) ↔
      Exists fun delta => isizeSub profile fbPtr state.currentFbPtr = .ok delta := by
  unfold IsrCore.swapInnerQueue
  rw [present]
  cases subtracted : isizeSub profile fbPtr state.currentFbPtr with
  | ok delta => simp only [subtracted, Except.ok.injEq, exists_eq']
  | error panic => simp only [subtracted, reduceCtorEq, exists_false]

/-! ## What is known of every state -/

/-- The ledger of the buffers, the word size of the port, and how the displayed buffer and the
pending one got there. -/
structure Standing (profile : Profile) (layout : Layout) (base : Addr) (hand : List Addr)
    (wordSize : WordSize) (trace : List Label) (system : System) (state : IsrCoreState) :
    Prop where
  accounts : Accounts layout (base :: hand) trace system state
  wordSize_eq : state.wordSize = wordSize
  shown : Displayable profile (base :: hand) base state.currentFbPtr
  pending : state.pendingDelta.isSome = true ->
    Displayable profile (base :: hand) base state.pendingFbPtr

/-- The buffer that the next interrupt streams from. -/
theorem Standing.nextShown (standing : Standing profile layout base hand wordSize trace system state) :
    Displayable profile (base :: hand) base (state.nextShown layout) := by
  unfold IsrCoreState.nextShown
  split
  · next boundary => exact standing.pending boundary.2
  · exact standing.shown

theorem Standing.step_isr (standing : Standing profile layout base hand wordSize trace system state)
    (taken : System.step profile api system .isr = some after) :
    Exists fun next => Standing profile layout base hand wordSize (.isr :: trace) after next := by
  have invariant := standing.accounts.invariant
  rcases standing.accounts.step taken with ⟨next, accounts⟩
  rcases invariant.step_isr taken with ⟨found, _, interrupted⟩
  rcases System.step_isr taken with ⟨core, completed, same⟩
  rcases onDmaComplete_counts invariant.present invariant.streaming completed with
    ⟨reached, stored, port, _⟩
  subst same
  cases Option.some.inj (interrupted.present.symm.trans accounts.invariant.present)
  cases Option.some.inj (stored.symm.trans accounts.invariant.present)
  have wordSize_kept : next.wordSize = state.wordSize :=
    congrArg (fun port : Nat × Addr × WordSize => port.2.2) port
  refine ⟨next, accounts, wordSize_kept.trans standing.wordSize_eq, ?_, ?_⟩
  · rcases interrupted.branches with ⟨_, pointers, _⟩ | ⟨_, pending, pointers, _⟩
    · have current : next.currentFbPtr = state.currentFbPtr := congrArg Pointers.current pointers
      exact current ▸ standing.shown
    · have current : next.currentFbPtr = state.pendingFbPtr := congrArg Pointers.current pointers
      exact current ▸ standing.pending pending
  · rcases interrupted.branches with ⟨_, pointers, _⟩ | ⟨_, _, pointers, _⟩
    · have delta : next.pendingDelta = state.pendingDelta := congrArg Pointers.delta pointers
      have pending : next.pendingFbPtr = state.pendingFbPtr := congrArg Pointers.pending pointers
      rw [delta, pending]
      exact standing.pending
    · have delta : next.pendingDelta = none := congrArg Pointers.delta pointers
      rw [delta]
      exact fun impossible => absurd impossible Bool.false_ne_true

theorem Standing.step_enter {waker : Nat}
    (standing : Standing profile layout base hand wordSize trace system state)
    (taken : System.step profile api system (.enter waker) = some after) :
    Exists fun next =>
      Standing profile layout base hand wordSize (.enter waker :: trace) after next := by
  have invariant := standing.accounts.invariant
  rcases standing.accounts.step taken with ⟨next, accounts⟩
  rcases System.step_enter taken with ⟨fbPtr, held, core, queued, same⟩
  have computed := (swapInnerQueue_ok_iff invariant.present).mp ⟨core, queued⟩
  have stored := swapInnerQueue_cases invariant.present queued
  subst stored
  subst same
  cases Option.some.inj accounts.invariant.present
  have member : fbPtr ∈ base :: hand := by
    have place : (system.custody state).held = some fbPtr := held
    exact standing.accounts.subset (Custody.held_mem_tokens place)
  exact ⟨_, accounts, standing.wordSize_eq, standing.shown,
    fun _ => standing.shown.tail ⟨member, computed⟩⟩

theorem Standing.step {label : Label}
    (standing : Standing profile layout base hand wordSize trace system state)
    (taken : System.step profile api system label = some after) :
    Exists fun next => Standing profile layout base hand wordSize (label :: trace) after next := by
  by_cases isr : label = .isr
  · subst isr
    exact standing.step_isr taken
  · by_cases enter : Exists fun waker => label = .enter waker
    · rcases enter with ⟨waker, same⟩
      subst same
      exact standing.step_enter taken
    · rcases standing.accounts.step taken with ⟨next, accounts⟩
      have kept := (standing.accounts.invariant.step_task taken isr
        fun waker same => enter ⟨waker, same⟩).1
      cases Option.some.inj (kept.present.symm.trans accounts.invariant.present)
      exact ⟨state, accounts, standing.wordSize_eq, standing.shown, standing.pending⟩

theorem Standing.run (present : core0.state = some state0) (quiet : state0.channel.active = [])
    (started : core0.startFirstTransfer profile api (layout.instanceAt base) base = .ok core)
    (distinct : (base :: hand).Nodup)
    (run : Run (System.step profile api) (System.started core hand) trace system) :
    Exists fun state => Standing profile layout base hand state0.wordSize trace system state := by
  refine run.invariant (fun steps reached => Exists fun state =>
    Standing profile layout base hand state0.wordSize steps reached state) ?_ ?_
  · rcases Accounts.run present quiet started distinct Run.refl with ⟨first, accounts⟩
    rcases startFirstTransfer_port started present with ⟨found, stored, port, _⟩
    rcases startFirstTransfer_cases started present quiet with ⟨other, same, _, pointers, _⟩
    cases Option.some.inj (stored.symm.trans accounts.invariant.present)
    cases Option.some.inj (same.symm.trans accounts.invariant.present)
    have wordSize_kept : first.wordSize = state0.wordSize :=
      congrArg (fun port : Nat × Addr × WordSize => port.2.2) port
    have current : first.currentFbPtr = base := congrArg Pointers.current pointers
    have delta : first.pendingDelta = none := congrArg Pointers.delta pointers
    refine ⟨first, accounts, wordSize_kept, ?_, ?_⟩
    · rw [current]
      exact Relation.ReflTransGen.refl
    · rw [delta]
      exact fun impossible => absurd impossible Bool.false_ne_true
  · intro _ _ _ _ held taken
    rcases held with ⟨state, standing⟩
    exact standing.step taken

/-- When every displayable buffer can be streamed, the interrupt does not panic. -/
theorem Standing.interrupt (lawful : api.Lawful)
    (standing : Standing profile layout base hand wordSize trace system state)
    (suits : forall buffer, Displayable profile (base :: hand) base buffer ->
      Suits profile wordSize layout buffer) :
    Exists fun core => system.core.onDmaComplete profile api = .ok core := by
  have invariant := standing.accounts.invariant
  apply (onDmaComplete_ok_iff lawful invariant.present invariant.streaming
    invariant.consistent).mpr
  rw [standing.wordSize_eq]
  exact suits _ standing.nextShown _ (Cursor.advance_index_lt invariant.streaming.cursor.index_lt)

/-! ## Every displayable buffer is displayed -/

/-- No interrupt panics in a run from the given state. -/
def Unbroken (profile : Profile) (api : ChannelApi) (start : System) : Prop :=
  forall system, Reachable (System.step profile api) start system ->
    Exists fun core => system.core.onDmaComplete profile api = .ok core

theorem Unbroken.interrupted (unbroken : Unbroken profile api start)
    (reached : Reachable (System.step profile api) start system) :
    Exists fun core => System.step profile api system .isr = some { system with core } := by
  rcases unbroken system reached with ⟨core, completed⟩
  refine ⟨core, ?_⟩
  simp only [System.step, completed]

/-- No swap is in progress or queued.  The buffer at `shown` is displayed, `k` visits
after the origin of its frames, and the caller owns `hand`. -/
structure Resting (layout : Layout) (shown : Addr) (hand : List Addr) (k : Nat) (system : System)
    (state : IsrCoreState) : Prop where
  invariant : Invariant layout system state
  shown_eq : state.currentFbPtr = shown
  unqueued : state.pendingDelta.isSome = false
  cursor : state.bcm.cursor = Cursor.after layout.passes layout.count k
  free : system.held = none
  idle : system.phase = .idle
  hand_eq : system.hand = hand

theorem Resting.initial (present : core0.state = some state0)
    (quiet : state0.channel.active = [])
    (started : core0.startFirstTransfer profile api (layout.instanceAt base) base = .ok core)
    (distinct : (base :: hand).Nodup) :
    Exists fun state => Resting layout base hand 0 (System.started core hand) state := by
  rcases Invariant.initial present quiet started distinct with ⟨first, initially, origin, pointers, _⟩
  have delta : first.pendingDelta = none := congrArg Pointers.delta pointers
  refine ⟨first, initially, congrArg Pointers.current pointers, ?_, origin, rfl, rfl, rfl⟩
  rw [delta]
  rfl

theorem Resting.step_isr (resting : Resting layout shown hand k system state)
    (taken : System.step profile api system .isr = some after) :
    Exists fun next => Resting layout shown hand (k + 1) after next := by
  rcases System.step_isr taken with ⟨_, _, same⟩
  rcases resting.invariant.step_isr taken with ⟨next, preserved, interrupted⟩
  subst same
  rcases interrupted.branches with ⟨_, pointers, _⟩ | ⟨_, pending, _⟩
  · have current : next.currentFbPtr = state.currentFbPtr := congrArg Pointers.current pointers
    have delta : next.pendingDelta = state.pendingDelta := congrArg Pointers.delta pointers
    refine ⟨next, preserved, current.trans resting.shown_eq, ?_, ?_, resting.free, resting.idle,
      resting.hand_eq⟩
    · rw [delta]
      exact resting.unqueued
    · rw [interrupted.cursor, resting.cursor]
      rfl
  · exact absurd (resting.unqueued.symm.trans pending) Bool.false_ne_true

/-- A driver at rest goes through its frames. -/
theorem Resting.stay (unbroken : Unbroken profile api start)
    (reached : Reachable (System.step profile api) start system)
    (resting : Resting layout shown hand 0 system state) (k : Nat) :
    Exists fun later => Reachable (System.step profile api) start later ∧
      Exists fun next => Resting layout shown hand k later next := by
  induction k with
  | zero => exact ⟨system, reached, state, resting⟩
  | succ k inductionHypothesis =>
      rcases inductionHypothesis with ⟨later, reaches, next, rests⟩
      rcases unbroken.interrupted reaches with ⟨core, taken⟩
      exact ⟨_, reaches.snoc taken, rests.step_isr taken⟩

/-- A swap to the buffer at `wanted` is queued, `n` visits before the last one of the
frame. -/
structure Queued (layout : Layout) (shown wanted : Addr) (hand : List Addr) (n : Nat)
    (system : System) (state : IsrCoreState) : Prop where
  invariant : Invariant layout system state
  shown_eq : state.currentFbPtr = shown
  pending : state.pendingDelta.isSome = true
  wanted_eq : state.pendingFbPtr = wanted
  position : state.bcm.cursor.position layout.passes + n + 1 = frameLength layout
  free : system.held = none
  started : system.phase = .started 0
  hand_eq : system.hand = hand

/-- What comes back from the frame boundary: the queued buffer is displayed from its
first visit on, and the swap is over but not collected. -/
theorem Queued.shows (unbroken : Unbroken profile api start)
    (reached : Reachable (System.step profile api) start system)
    (queued : Queued layout shown wanted hand n system state) :
    Exists fun later => Reachable (System.step profile api) start later ∧
      Exists fun next => Invariant layout later next ∧
        next.pointers = ⟨wanted, none, 0, shown⟩ ∧ next.bcm.cursor = Cursor.origin ∧
        later.core.swapDone = true ∧ later.held = none ∧ later.phase = .started 0 ∧
        later.hand = hand := by
  induction n generalizing system state with
  | zero =>
      rcases unbroken.interrupted reached with ⟨core, taken⟩
      rcases queued.invariant.step_isr taken with ⟨next, preserved, interrupted⟩
      rcases queued.invariant.streaming.cursor.advance_cases layout.passes_pos with
        ⟨moved, _⟩ | ⟨_, _, below⟩
      · refine ⟨_, reached.snoc taken, next, preserved, ?_⟩
        rcases interrupted.branches with ⟨none, _⟩ | ⟨_, _, pointers, cell⟩
        · exact absurd ⟨congrArg Prod.snd moved, queued.pending⟩ none
        · refine ⟨?_, interrupted.cursor.trans (congrArg Prod.fst moved), congrArg Cell.done cell,
            queued.free, queued.started, queued.hand_eq⟩
          rw [pointers, ← queued.wanted_eq, ← queued.shown_eq]
          rfl
      · exact absurd (queued.position.symm.le) (Nat.not_le_of_lt below)
  | succ n inductionHypothesis =>
      rcases unbroken.interrupted reached with ⟨core, taken⟩
      rcases queued.invariant.step_isr taken with ⟨next, preserved, interrupted⟩
      have position := queued.position
      rcases queued.invariant.streaming.cursor.advance_cases layout.passes_pos with
        ⟨_, last⟩ | ⟨inner, moved, _⟩
      · have same : frameLength layout = state.bcm.cursor.position layout.passes + 1 := last.symm
        omega
      · rcases interrupted.branches with ⟨_, pointers, _⟩ | ⟨boundary, _⟩
        · have current : next.currentFbPtr = state.currentFbPtr :=
            congrArg Pointers.current pointers
          have delta : next.pendingDelta = state.pendingDelta := congrArg Pointers.delta pointers
          have pending : next.pendingFbPtr = state.pendingFbPtr :=
            congrArg Pointers.pending pointers
          refine inductionHypothesis (reached.snoc taken) ⟨preserved,
            current.trans queued.shown_eq, ?_, pending.trans queued.wanted_eq, ?_, queued.free,
            queued.started, queued.hand_eq⟩
          · rw [delta]
            exact queued.pending
          · rw [interrupted.cursor, moved]
            omega
        · exact absurd (inner.symm.trans boundary) Bool.false_ne_true

/-- A buffer of the caller can be brought to the display, in exchange for the displayed
one. -/
theorem Resting.exchange (unbroken : Unbroken profile api start)
    (reached : Reachable (System.step profile api) start system)
    (resting : Resting layout shown hand k system state) (owned : wanted ∈ hand)
    (computed : Exists fun delta => isizeSub profile wanted shown = .ok delta) :
    Exists fun later => Reachable (System.step profile api) start later ∧
      Exists fun next => Resting layout wanted (shown :: hand.erase wanted) 0 later next := by
  have member : wanted ∈ system.hand := resting.hand_eq.symm ▸ owned
  have called : System.step profile api system (.swap wanted) = some
      { system with held := some wanted, hand := system.hand.erase wanted } :=
    if_pos ⟨resting.free, resting.idle, member⟩
  have offered := reached.snoc called
  rw [← resting.shown_eq] at computed
  rcases (swapInnerQueue_ok_iff resting.invariant.present).mpr computed with ⟨core, queueing⟩
  have entered : System.step profile api
      { system with held := some wanted, hand := system.hand.erase wanted } (.enter 0) = some
        ⟨core, none, .started 0, system.hand.erase wanted⟩ := by
    simp only [System.step, queueing]
  have kept := (resting.invariant.step_task called (fun impossible => Label.noConfusion impossible)
    fun _ impossible => Label.noConfusion impossible).1
  rcases kept.step_enter entered with
    ⟨fbPtr, held, next, preserved, pointers, bcm, phase, returned, cell⟩
  cases Option.some.inj held
  have valid := preserved.streaming.cursor.position_lt
  have inside : next.bcm.cursor.position layout.passes < frameLength layout := valid
  have queued : Queued layout shown wanted (hand.erase wanted)
      (frameLength layout - next.bcm.cursor.position layout.passes - 1)
      ⟨core, none, .started 0, system.hand.erase wanted⟩ next := by
    refine ⟨preserved, (congrArg Pointers.current pointers).trans resting.shown_eq, ?_,
      congrArg Pointers.pending pointers, by omega, rfl, rfl, ?_⟩
    · have delta : next.pendingDelta = some (wanted - state.currentFbPtr) :=
        congrArg Pointers.delta pointers
      rw [delta]
      rfl
    · rw [resting.hand_eq]
  rcases queued.shows unbroken (offered.snoc entered) with
    ⟨later, shows, last, streaming, exchanged, origin, done, free, started, owned⟩
  have loaded : System.step profile api later .load = some { later with phase := .ready } := by
    have raised : later.core.cell.done = true := done
    simp only [System.step, started, Cell.loadPhase, raised, if_true]
  have ready := (streaming.step_task loaded (fun impossible => Label.noConfusion impossible)
    fun _ impossible => Label.noConfusion impossible).1
  have finished : System.step profile api { later with phase := .ready } .finish = some
      { later with phase := .idle, hand := shown :: later.hand } := by
    have displaced : last.returnedFbPtr = shown := congrArg Pointers.returned exchanged
    simp only [System.step, IsrCore.swapInnerReturned, streaming.present, displaced]
  have collected := (ready.step_task finished (fun impossible => Label.noConfusion impossible)
    fun _ impossible => Label.noConfusion impossible).1
  have delta : last.pendingDelta = none := congrArg Pointers.delta exchanged
  refine ⟨_, (shows.snoc loaded).snoc finished, last, collected, congrArg Pointers.current exchanged,
    ?_, origin, free, rfl, ?_⟩
  · rw [delta]
    rfl
  · rw [owned]

/-- As long as no interrupt panics, every displayable buffer is displayed in some run, with
the driver at rest and all other buffers in the caller's hand. -/
theorem Displayable.rests (unbroken : Unbroken profile api start)
    (resting : Resting layout base hand 0 start state)
    (displayable : Displayable profile (base :: hand) base buffer) :
    Exists fun system => Reachable (System.step profile api) start system ∧
      Exists fun next => Exists fun others => Resting layout buffer others 0 system next ∧
        forall other, other ∈ base :: hand -> other ≠ buffer -> other ∈ others := by
  induction displayable with
  | refl =>
      exact ⟨start, ⟨[], Run.refl⟩, state, hand, resting, fun other listed different =>
        (List.mem_cons.mp listed).resolve_left different⟩
  | @tail old new _ follows inductionHypothesis =>
      by_cases same : new = old
      · rw [same]
        exact inductionHypothesis
      · rcases inductionHypothesis with ⟨system, reached, next, others, rests, complete⟩
        have owned : new ∈ others := complete new follows.1 same
        rcases rests.exchange unbroken reached owned follows.2 with ⟨later, reaches, last, exchanged⟩
        refine ⟨later, reaches, last, _, exchanged, fun other listed different => ?_⟩
        by_cases displaced : other = old
        · rw [displaced]
          exact List.mem_cons_self
        · exact List.mem_cons_of_mem _
            ((List.mem_erase_of_ne different).mpr (complete other listed displaced))

/-- The buffer of a driver at rest has been asked for every segment. -/
theorem Resting.suits (lawful : api.Lawful) (present : core0.state = some state0)
    (quiet : state0.channel.active = [])
    (started : core0.startFirstTransfer profile api (layout.instanceAt base) base = .ok core)
    (distinct : (base :: hand).Nodup)
    (unbroken : Unbroken profile api (System.started core hand))
    (reached : Reachable (System.step profile api) (System.started core hand) system)
    {others : List Addr} (resting : Resting layout shown others 0 system state) :
    Suits profile state0.wordSize layout shown := by
  intro i inside
  rcases Cursor.exists_after_index layout.passes_pos inside with ⟨k, visited⟩
  rcases resting.stay unbroken reached k with ⟨later, ⟨trace, run⟩, next, rests⟩
  rcases Standing.run present quiet started distinct run with ⟨found, standing⟩
  cases Option.some.inj (standing.accounts.invariant.present.symm.trans rests.invariant.present)
  have invariant := rests.invariant
  have streams := (onDmaComplete_ok_iff lawful invariant.present invariant.streaming
    invariant.consistent).mp (unbroken later ⟨trace, run⟩)
  have segment : next.nextSegment layout = i := by
    unfold IsrCoreState.nextSegment
    rw [rests.cursor]
    exact visited
  have displayed : next.nextShown layout = shown := by
    unfold IsrCoreState.nextShown
    rw [rests.unqueued, if_neg fun impossible => Bool.false_ne_true impossible.2]
    exact rests.shown_eq
  rw [segment, displayed, standing.wordSize_eq] at streams
  exact streams

/-- A started driver whose interrupts never panic is one whose displayable buffers can be
streamed. -/
theorem unbroken_iff (lawful : api.Lawful) (present : core0.state = some state0)
    (quiet : state0.channel.active = [])
    (started : core0.startFirstTransfer profile api (layout.instanceAt base) base = .ok core)
    (distinct : (base :: hand).Nodup) :
    Unbroken profile api (System.started core hand) ↔
      forall buffer, Displayable profile (base :: hand) base buffer ->
        Suits profile state0.wordSize layout buffer := by
  constructor
  · intro unbroken buffer displayable
    rcases Resting.initial present quiet started distinct with ⟨first, resting⟩
    rcases displayable.rests unbroken resting with ⟨system, reached, next, others, rests, _⟩
    exact rests.suits lawful present quiet started distinct unbroken reached
  · rintro suits system ⟨trace, run⟩
    rcases Standing.run present quiet started distinct run with ⟨state, standing⟩
    exact standing.interrupt lawful suits

end Dma
end Driver
end Hub75
