import Hub75.Swap.GpdmaRebuild

namespace Hub75
namespace Driver
namespace Gpdma

open Machine

/-!
# When the channel has let go of a buffer

Every table entry belongs to a buffer the caller does not own, because the patch
loop is finished before a swap can return.  The descriptor in flight may be
older than the table: its source address was loaded before it was patched.  It
is up to date after the next step of the channel, and the question is whether
that step has happened when `swap` returns.

With two interrupts it has.  The first one may have been raised before the swap,
and it clears the flag; the second one can only be raised by a step of the
channel after the table was patched.  `Draining` is this argument as an
invariant.  With one interrupt or none, a swap can return too early, but never by
more than the rest of one descriptor.
-/

variable {I : Type} [Descriptor I] {capacity : Nat} {profile : Profile} {waitCount : Nat}
  {chain : Chain I capacity} {system after : System I capacity}

/-- The source address `source`, loaded with item `index`, lies in `buffer`. -/
def ReadsFrom (offset : Nat -> Addr) (index : Nat) (source buffer : Addr) : Prop :=
  source = buffer + offset index

instance (offset : Nat -> Addr) (index : Nat) (source buffer : Addr) :
    Decidable (ReadsFrom offset index source buffer) :=
  inferInstanceAs (Decidable (_ = _))

/-- The descriptor in flight reads from the displayed buffer. -/
def System.Fresh (offset : Nat -> Addr) (system : System I capacity) : Prop :=
  ReadsFrom offset system.walker.index system.walker.source system.currentFbPtr

/-! ## The table -/

/-- The caller owns no buffer that the table refers to. -/
theorem Invariant.target_notMem (invariant : Invariant chain system) (i : Nat) :
    system.target i ∉ system.hand := by
  have shown := invariant.exclusive.shown_notMem_hand
  unfold System.target
  split
  · next oldPtr delta next waker patching =>
      have due : system.custody.due = some oldPtr := by
        simp only [System.custody, patching, Progress.oldPtr]
      split
      · exact shown
      · exact (invariant.exclusive.due_fresh due).2
  · exact shown

/-- An active item reads from the buffer it belongs to. -/
theorem Invariant.item_reads (invariant : Invariant chain system) {i : Nat}
    (active : i < chain.count) :
    Exists fun item => system.items[i]? = some item ∧
      ReadsFrom chain.offset i (Descriptor.sar item) (system.target i) := by
  rw [invariant.items_eq]
  exact Chain.aim_active system.target active

/-- The channel loads what the table says. -/
theorem Invariant.walk_reads (invariant : Invariant chain system)
    (taken : System.step profile waitCount system .walk = some after) :
    ReadsFrom chain.offset after.walker.index after.walker.source
      (system.target after.walker.index) := by
  have inside := (invariant.step taken).position
  rcases System.step_walk taken with ⟨item, found, same⟩
  subst same
  rcases invariant.item_reads inside with ⟨stored, read, reads⟩
  cases Option.some.inj (found.symm.trans read)
  exact reads

/-- While a swap waits, the channel loads from the displayed buffer only. -/
theorem Invariant.walk_fresh {oldPtr : Addr} {phase : Phase Nat}
    (invariant : Invariant chain system) (waiting : system.progress = .waiting oldPtr phase)
    (taken : System.step profile waitCount system .walk = some after) :
    after.Fresh chain.offset := by
  have reads := invariant.walk_reads taken
  have target : system.target after.walker.index = system.currentFbPtr := by
    simp only [System.target, waiting]
  have current : after.currentFbPtr = system.currentFbPtr := by
    rcases System.step_walk taken with ⟨_, _, same⟩
    rw [same]
  rw [target, ← current] at reads
  exact reads

/-! ## Two interrupts -/

/-- What the remaining count of a waiting swap says about the channel, when at
least two interrupts are waited for. -/
structure Draining (offset : Nat -> Addr) (system : System I capacity) : Prop where
  freshening : forall oldPtr phase, system.progress = .waiting oldPtr phase ->
    system.core.swapWaits = 1 -> system.pending = true -> system.Fresh offset
  drained : forall oldPtr phase, system.progress = .waiting oldPtr phase ->
    system.core.swapWaits = 0 -> system.Fresh offset
  done : forall oldPtr phase, system.progress = .waiting oldPtr phase ->
    system.core.swapDone = true -> system.core.swapWaits = 0
  ready : forall oldPtr, system.progress = .waiting oldPtr .ready -> system.core.swapDone = true

omit [Descriptor I] in
theorem Draining.of_not_waiting {offset : Nat -> Addr}
    (elsewhere : forall oldPtr phase, system.progress ≠ .waiting oldPtr phase) :
    Draining offset system where
  freshening oldPtr phase waiting := absurd waiting (elsewhere oldPtr phase)
  drained oldPtr phase waiting := absurd waiting (elsewhere oldPtr phase)
  done oldPtr phase waiting := absurd waiting (elsewhere oldPtr phase)
  ready oldPtr waiting := absurd waiting (elsewhere oldPtr .ready)

omit [Descriptor I] in
/-- A swap that has been told of its completion has a fresh channel. -/
theorem Draining.fresh_of_ready {offset : Nat -> Addr} {oldPtr : Addr}
    (draining : Draining offset system) (waiting : system.progress = .waiting oldPtr .ready) :
    system.Fresh offset :=
  draining.drained _ _ waiting (draining.done _ _ waiting (draining.ready _ waiting))

theorem Draining.step_walk (draining : Draining chain.offset system)
    (invariant : Invariant chain system)
    (taken : System.step profile waitCount system .walk = some after) :
    Draining chain.offset after := by
  have fresh : forall oldPtr phase, system.progress = .waiting oldPtr phase ->
      after.Fresh chain.offset := fun _ _ waiting => invariant.walk_fresh waiting taken
  rcases System.step_walk taken with ⟨_, _, same⟩
  subst same
  exact {
    freshening := fun oldPtr phase waiting _ _ => fresh oldPtr phase waiting
    drained := fun oldPtr phase waiting _ => fresh oldPtr phase waiting
    done := draining.done
    ready := draining.ready }

/-- The interrupt that brings the count to one clears the flag, and the one that
brings it to zero found the flag set again. -/
theorem Draining.step_isr {offset : Nat -> Addr} (draining : Draining offset system)
    (taken : System.step profile waitCount system .isr = some after) : Draining offset after := by
  rcases System.step_isr taken with ⟨pending, core, counted, same⟩
  subst same
  rcases IsrCore.onFrame_cases counted with
    ⟨unarmed, waits, cell⟩ | ⟨last, waits, cell⟩ | ⟨more, waits, cell⟩
  · have done : core.swapDone = system.core.swapDone := congrArg Cell.done cell
    exact {
      freshening := fun _ _ _ _ impossible => absurd impossible Bool.false_ne_true
      drained := fun oldPtr phase waiting _ => draining.drained oldPtr phase waiting unarmed
      done := fun _ _ _ _ => waits
      ready := fun oldPtr waiting => done.trans (draining.ready oldPtr waiting) }
  · have done : core.swapDone = true := congrArg Cell.done cell
    exact {
      freshening := fun _ _ _ _ impossible => absurd impossible Bool.false_ne_true
      drained := fun oldPtr phase waiting _ => draining.freshening oldPtr phase waiting last pending
      done := fun _ _ _ _ => waits
      ready := fun _ _ => done }
  · have done : core.swapDone = system.core.swapDone := congrArg Cell.done cell
    exact {
      freshening := fun _ _ _ _ impossible => absurd impossible Bool.false_ne_true
      drained := fun _ _ _ empty => by
        have empty : core.swapWaits = 0 := empty
        omega
      done := fun oldPtr phase waiting raised => by
        have empty := draining.done oldPtr phase waiting (done.symm.trans raised)
        omega
      ready := fun oldPtr waiting => done.trans (draining.ready oldPtr waiting) }

theorem Draining.step_arm (twice : 2 ≤ waitCount) {offset : Nat -> Addr}
    (taken : System.step profile waitCount system .arm = some after) : Draining offset after := by
  rcases System.step_arm taken with ⟨oldPtr, _, _, _, _, _, ⟨_, same⟩ | ⟨immediate, _⟩⟩
  · subst same
    exact {
      freshening := fun _ _ _ one _ => by
        have one : waitCount = 1 := one
        omega
      drained := fun _ _ _ zero => by
        have zero : waitCount = 0 := zero
        omega
      done := fun _ _ _ impossible => absurd impossible Bool.false_ne_true
      ready := fun _ impossible => by
        injection impossible with _ impossible
        cases impossible }
  · omega

theorem Draining.step {label : Label} (twice : 2 ≤ waitCount)
    (draining : Draining chain.offset system) (invariant : Invariant chain system)
    (taken : System.step profile waitCount system label = some after) :
    Draining chain.offset after := by
  have polls_kept : label.Polls -> Draining chain.offset after := by
    intro polls
    rcases System.step_polls polls taken with
      ⟨oldPtr, phase, next, core, waiting, done, waits, honest, same⟩
    subst same
    exact {
      freshening := fun _ _ _ one pending =>
        draining.freshening oldPtr phase waiting (waits.symm.trans one) pending
      drained := fun _ _ _ zero => draining.drained oldPtr phase waiting (waits.symm.trans zero)
      done := fun _ _ _ raised =>
        waits.trans (draining.done oldPtr phase waiting (done.symm.trans raised))
      ready := fun _ ready => by
        injection ready with _ ready
        exact done.trans (honest ready) }
  cases label with
  | walk => exact draining.step_walk invariant taken
  | isr => exact draining.step_isr taken
  | swap fbPtr =>
      rcases System.step_swap taken with ⟨_, same⟩
      subst same
      exact .of_not_waiting fun _ _ impossible => nomatch impossible
  | enter waker =>
      rcases System.step_enter taken with ⟨_, _, same⟩
      subst same
      exact .of_not_waiting fun _ _ impossible => nomatch impossible
  | store =>
      rcases System.step_store taken with ⟨_, _, _, _, _, _, same⟩
      subst same
      exact .of_not_waiting fun _ _ impossible => nomatch impossible
  | arm => exact Draining.step_arm twice taken
  | load => exact polls_kept trivial
  | lock => exact polls_kept trivial
  | poll waker => exact polls_kept trivial
  | finish =>
      rcases System.step_finish taken with ⟨_, _, same⟩
      subst same
      exact .of_not_waiting fun _ _ impossible => nomatch impossible
  | cancel =>
      rcases System.step_cancel taken with ⟨_, same⟩
      subst same
      exact .of_not_waiting fun _ _ impossible => nomatch impossible

/-! ## The descriptor in flight -/

/-- The channel has moved since a swap returned last. -/
def Settled : List Label -> Prop
  | [] => True
  | .walk :: _ => True
  | .finish :: _ => False
  | _ :: trace => Settled trace

/-- The descriptor in flight reads from a buffer the caller does not own. -/
def System.Released (offset : Nat -> Addr) (system : System I capacity) : Prop :=
  Exists fun buffer => ReadsFrom offset system.walker.index system.walker.source buffer ∧
    buffer ∉ system.hand

omit [Descriptor I] in
/-- Steps that do not move the channel and add nothing to the caller's hand. -/
theorem System.Released.of_subset {offset : Nat -> Addr} (released : system.Released offset)
    (walker : after.walker = system.walker) (hand : forall b, b ∈ after.hand -> b ∈ system.hand) :
    after.Released offset := by
  rcases released with ⟨buffer, reads, unowned⟩
  refine ⟨buffer, ?_, fun owned => unowned (hand buffer owned)⟩
  rw [walker]
  exact reads

/-- Only a returning swap can turn the buffer in flight into an owned one, and it
does not when the channel is fresh. -/
theorem Invariant.step_released {label : Label} (invariant : Invariant chain system)
    (taken : System.step profile waitCount system label = some after)
    (released : label ≠ .walk -> system.Released chain.offset)
    (fresh : label = .finish -> system.Fresh chain.offset) : after.Released chain.offset := by
  have polls_kept : label.Polls -> after.Released chain.offset := by
    intro polls
    rcases System.step_polls polls taken with ⟨_, _, _, _, _, _, _, _, same⟩
    have moved : label ≠ .walk := by
      intro impossible
      rw [impossible] at polls
      exact polls
    subst same
    exact (released moved).of_subset rfl fun _ owned => owned
  cases label with
  | walk =>
      have reads := invariant.walk_reads taken
      refine ⟨_, reads, ?_⟩
      have unowned := invariant.target_notMem after.walker.index
      rcases System.step_walk taken with ⟨_, _, same⟩
      subst same
      exact unowned
  | isr =>
      rcases System.step_isr taken with ⟨_, _, _, same⟩
      subst same
      exact (released nofun).of_subset rfl fun _ owned => owned
  | swap fbPtr =>
      rcases System.step_swap taken with ⟨_, same⟩
      subst same
      exact (released nofun).of_subset rfl fun _ owned => List.mem_of_mem_erase owned
  | enter waker =>
      rcases System.step_enter taken with ⟨_, _, same⟩
      subst same
      exact (released nofun).of_subset rfl fun _ owned => owned
  | store =>
      rcases System.step_store taken with ⟨_, _, _, _, _, _, same⟩
      subst same
      exact (released nofun).of_subset rfl fun _ owned => owned
  | arm =>
      rcases System.step_arm taken with ⟨_, _, _, _, _, _, ⟨_, same⟩ | ⟨_, same⟩⟩
      · subst same
        exact (released nofun).of_subset rfl fun _ owned => owned
      · subst same
        exact (released nofun).of_subset rfl fun _ owned => owned
  | load => exact polls_kept trivial
  | lock => exact polls_kept trivial
  | poll waker => exact polls_kept trivial
  | finish =>
      have reads := fresh rfl
      have unowned := (invariant.step taken).exclusive.shown_notMem_hand
      rcases System.step_finish taken with ⟨oldPtr, ready, same⟩
      subst same
      exact ⟨system.currentFbPtr, reads, unowned⟩
  | cancel =>
      rcases System.step_cancel taken with ⟨_, same⟩
      subst same
      exact (released nofun).of_subset rfl fun _ owned => owned

/-! ## Runs -/

theorem settled_of_cons {label : Label} {trace : List Label} (settled : Settled (label :: trace))
    (stays : label ≠ .walk) : label ≠ .finish ∧ Settled trace := by
  cases label with
  | walk => exact absurd rfl stays
  | finish => exact absurd settled id
  | _ => exact ⟨nofun, settled⟩

/-- The run form of the three invariants. -/
structure Following (waitCount : Nat) (chain : Chain I capacity) (trace : List Label)
    (system : System I capacity) : Prop where
  table : Invariant chain system
  draining : 2 ≤ waitCount -> Draining chain.offset system
  released : 2 ≤ waitCount ∨ Settled trace -> system.Released chain.offset

theorem Following.step {trace : List Label} {label : Label}
    (following : Following waitCount chain trace system)
    (taken : System.step profile waitCount system label = some after) :
    Following waitCount chain (label :: trace) after where
  table := following.table.step taken
  draining twice := (following.draining twice).step twice following.table taken
  released condition := by
    refine following.table.step_released taken (fun stays => following.released ?_) fun finish => ?_
    · rcases condition with twice | settled
      · exact Or.inl twice
      · exact Or.inr (settled_of_cons settled stays).2
    · have twice : 2 ≤ waitCount := by
        rcases condition with twice | settled
        · exact twice
        · rw [finish] at settled
          exact absurd settled id
      subst finish
      rcases System.step_finish taken with ⟨oldPtr, ready, _⟩
      exact (following.draining twice).fresh_of_ready ready

/-- The channel of a freshly launched driver reads from the displayed buffer. -/
theorem Launch.following {backend : Backend} {layout : Layout}
    (launch : Launch profile backend layout) :
    Exists fun chain : Chain backend.Item backend.capacity =>
      chain.offset = backend.offset layout ∧ Following waitCount chain [] launch.start := by
  rcases launch.invariant with ⟨chain, describes, invariant⟩
  refine ⟨chain, describes.offset_eq, invariant, fun _ => .of_not_waiting nofun, fun _ => ?_⟩
  rcases invariant.item_reads invariant.position with ⟨item, found, reads⟩
  refine ⟨launch.base, ?_, (List.nodup_cons.mp launch.distinct).1⟩
  have stored : launch.items[launch.position]? = some item := found
  have source : launch.start.walker.source = Descriptor.sar item := by
    simp only [Launch.start, System.started, stored, Option.map_some, Option.getD_some]
  rw [source]
  exact reads

/-- What a caller may rely on about the buffers it owns. -/
structure LetsGo (profile : Profile) (waitCount : Nat) (offset : Nat -> Addr) (trace : List Label)
    (system : System I capacity) : Prop where
  /-- No table entry refers to an owned buffer. -/
  table : forall i, i < system.descriptorCount -> Exists fun item => Exists fun buffer =>
    system.items[i]? = some item ∧ ReadsFrom offset i (Descriptor.sar item) buffer ∧
      buffer ∉ system.hand
  /-- Nor does the descriptor in flight, with two waits or more; with fewer it
  does not from the first channel step after a return on. -/
  in_flight : 2 ≤ waitCount ∨ Settled trace -> system.Released offset
  /-- With two waits or more, the channel is on the displayed buffer when a swap
  returns another one. -/
  returning : 2 ≤ waitCount -> forall after,
    System.step profile waitCount system .finish = some after ->
      after.Fresh offset ∧ Exists fun returned => after.hand = returned :: system.hand ∧
        returned ≠ after.currentFbPtr ∧ returned ∉ system.hand

theorem Following.letsGo {trace : List Label} (following : Following waitCount chain trace system) :
    LetsGo profile waitCount chain.offset trace system where
  table i active := by
    rcases following.table.item_reads (following.table.count_eq ▸ active) with ⟨item, found, reads⟩
    exact ⟨item, _, found, reads, following.table.target_notMem i⟩
  in_flight := following.released
  returning twice after taken := by
    have exclusive := (following.table.step taken).exclusive
    rcases System.step_finish taken with ⟨oldPtr, ready, same⟩
    subst same
    refine ⟨(following.draining twice).fresh_of_ready ready, oldPtr, rfl, ?_, ?_⟩
    · intro shown
      exact exclusive.shown_notMem_hand (List.mem_cons.mpr (Or.inl shown.symm))
    · exact (List.nodup_cons.mp exclusive.hand_nodup).1

/-- A GPDMA swap hands a buffer back only when the channel has let go of it.
Start either backend with any number of descriptors, the channel on any of them,
and an interrupt pending or not, and let the channel, the interrupt and the
display task take any steps in any order.  With `SWAP_WAIT_COUNT = 2` neither the
table nor the descriptor in flight ever refers to a buffer the caller owns.  With
1 or 0 the table never does, and the descriptor in flight at the return of a swap
is the only one that still may. -/
theorem swap_lets_go (profile : Profile) (waitCount : Nat) (backend : Backend) (layout : Layout)
    (launch : Launch profile backend layout) {trace : List Label}
    {system : System backend.Item backend.capacity}
    (run : Run (System.step profile waitCount) launch.start trace system) :
    LetsGo profile waitCount (backend.offset layout) trace system := by
  rcases launch.following with ⟨chain, offset, initially⟩
  have reached := run.invariant (fun steps state => Following waitCount chain steps state) initially
    fun _ _ _ _ following taken => following.step taken
  rw [← offset]
  exact reached.letsGo

theorem swap_lets_go_of_exchange :
    (Exists fun system => execute (System.step Profile.release (swapWaitCount ⟨false, false⟩))
        exampleLaunch.start exampleExchange = some system ∧ system.hand = [0x20000000] ∧
      LetsGo Profile.release 2 (Backend.linear.offset Layout.twoSegments) exampleExchange.reverse
        system) ∧
    Exists fun system => execute (System.step Profile.release (swapWaitCount ⟨false, false⟩))
        exampleLaunch2d.start exampleExchange2d = some system ∧ system.hand = [0x20000000] ∧
      LetsGo Profile.release 2 (Backend.twoD.offset Layout.twoSegments) exampleExchange2d.reverse
        system := by
  have linear : (execute (System.step Profile.release (swapWaitCount ⟨false, false⟩))
      exampleLaunch.start exampleExchange).map System.hand = some [0x20000000] := by decide +kernel
  have twoD : (execute (System.step Profile.release (swapWaitCount ⟨false, false⟩))
      exampleLaunch2d.start exampleExchange2d).map System.hand = some [0x20000000] := by
    decide +kernel
  rcases Option.map_eq_some_iff.mp linear with ⟨system, executed, hand⟩
  rcases Option.map_eq_some_iff.mp twoD with ⟨system2d, executed2d, hand2d⟩
  exact ⟨⟨system, executed, hand, swap_lets_go Profile.release 2 .linear Layout.twoSegments
      exampleLaunch (run_of_execute executed)⟩,
    system2d, executed2d, hand2d, swap_lets_go Profile.release 2 .twoD Layout.twoSegments
      exampleLaunch2d (run_of_execute executed2d)⟩

/-- One interrupt does not suffice: it may have been raised before the swap.  The
channel is still on the first segment of the buffer just returned. -/
example : (execute (System.step Profile.release (swapWaitCount ⟨true, false⟩)) exampleLaunch.start
    [.walk, .walk, .swap 0x20002000, .enter 7, .store, .store, .store, .arm, .load, .lock, .isr,
      .poll 8, .load, .finish]).map (fun system => (system.hand, system.walker.source)) =
    some ([0x20000000], 0x20000000) := by decide +kernel

end Gpdma
end Driver
end Hub75
