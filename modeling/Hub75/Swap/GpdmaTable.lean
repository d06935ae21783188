import Hub75.Driver.GpdmaSwap
import Hub75.Scan.Chain
import Hub75.Machine.Run
import Hub75.Machine.Custody

namespace Hub75
namespace Driver
namespace Gpdma

open Machine

/-!
# The descriptor table over a history of swaps

The patch loop adds a delta to every active source address and never rebuilds
the table.  An error in one delta would stay for ever, so the invariant speaks
about the whole table: it is the table of the displayed buffer, except inside
the patch loop, where the items from the front on still belong to the buffer
that is being replaced.

The invariant says nothing about the descriptor in flight and nothing about the
interrupt, and it holds for every wait count.  It concerns both backends, since
they differ in the chain only.
-/

variable {I : Type} [Descriptor I] {capacity : Nat} {profile : Profile} {waitCount : Nat}

namespace System

variable {system after : System I capacity}

/-! ## The effect of each step -/

theorem step_walk (taken : step profile waitCount system .walk = some after) :
    Exists fun item => system.items[system.nextIndex system.walker.index]? = some item ∧
      after = { system with
        walker := ⟨system.nextIndex system.walker.index, Descriptor.sar item,
          (system.nextIndex system.walker.index, Descriptor.sar item) :: system.walker.history⟩
        pending := system.pending ||
          decide (system.walker.index + 1 = system.descriptorCount) } := by
  simp only [step, walk] at taken
  split at taken
  · cases taken
  · next item found => exact ⟨item, found, (Option.some.inj taken).symm⟩

theorem step_isr (taken : step profile waitCount system .isr = some after) :
    system.pending = true ∧ Exists fun core => system.core.onFrame profile = .ok core ∧
      after = { system with core, pending := false } := by
  simp only [step] at taken
  split at taken
  · next pending =>
      split at taken
      · next core counted => exact ⟨pending, core, counted, (Option.some.inj taken).symm⟩
      · cases taken
  · cases taken

theorem step_swap {fbPtr : Addr} (taken : step profile waitCount system (.swap fbPtr) = some after) :
    (system.progress = .idle ∧ fbPtr ∈ system.hand) ∧
      after = { system with progress := .called fbPtr, hand := system.hand.erase fbPtr } := by
  simp only [step] at taken
  split at taken
  · next allowed => exact ⟨allowed, (Option.some.inj taken).symm⟩
  · cases taken

theorem step_enter {waker : Nat}
    (taken : step profile waitCount system (.enter waker) = some after) :
    Exists fun fbPtr => system.progress = .called fbPtr ∧
      after = { system with
        currentFbPtr := fbPtr
        progress := .patching system.currentFbPtr (fbPtr - system.currentFbPtr)
          (if fbPtr - system.currentFbPtr ≠ 0 then 0 else system.patchCount) waker } := by
  simp only [step] at taken
  split at taken
  · next fbPtr called =>
      split at taken
      · next delta subtracted =>
          rw [isizeSub_eq_ok subtracted] at taken
          exact ⟨fbPtr, called, (Option.some.inj taken).symm⟩
      · cases taken
  · cases taken

theorem step_store (taken : step profile waitCount system .store = some after) :
    Exists fun oldPtr => Exists fun delta => Exists fun next => Exists fun waker =>
      system.progress = .patching oldPtr delta next waker ∧ next < system.patchCount ∧
      after = { system with
        items := patchItem system.items delta next
        progress := .patching oldPtr delta (next + 1) waker } := by
  simp only [step] at taken
  split at taken
  · next oldPtr delta next waker patching =>
      split at taken
      · next more =>
          exact ⟨oldPtr, delta, next, waker, patching, more, (Option.some.inj taken).symm⟩
      · cases taken
  · cases taken

theorem step_arm (taken : step profile waitCount system .arm = some after) :
    Exists fun oldPtr => Exists fun delta => Exists fun next => Exists fun waker =>
      system.progress = .patching oldPtr delta next waker ∧ system.patchCount ≤ next ∧
      ((waitCount ≠ 0 ∧ after = { system with
          core := system.core.waitSwapArm waitCount
          progress := .waiting oldPtr (.started waker) }) ∨
        (waitCount = 0 ∧ after = { system with progress := .waiting oldPtr .ready })) := by
  simp only [step] at taken
  split at taken
  · next oldPtr delta next waker patching =>
      split at taken
      · cases taken
      · next done =>
          refine ⟨oldPtr, delta, next, waker, patching, Nat.le_of_not_lt done, ?_⟩
          split at taken
          · next waits => exact Or.inl ⟨waits, (Option.some.inj taken).symm⟩
          · next immediate =>
              exact Or.inr ⟨Decidable.of_not_not immediate, (Option.some.inj taken).symm⟩
  · cases taken

theorem step_load (taken : step profile waitCount system .load = some after) :
    Exists fun oldPtr => Exists fun waker => system.progress = .waiting oldPtr (.started waker) ∧
      after = { system with progress := .waiting oldPtr (system.core.cell.loadPhase waker) } := by
  simp only [step] at taken
  split at taken
  · next oldPtr waker started => exact ⟨oldPtr, waker, started, (Option.some.inj taken).symm⟩
  · cases taken

theorem step_lock (taken : step profile waitCount system .lock = some after) :
    Exists fun oldPtr => Exists fun waker => system.progress = .waiting oldPtr (.missed waker) ∧
      after = { system with
        core := system.core.waitSwapLock waker
        progress := .waiting oldPtr (system.core.cell.lockPhase waker) } := by
  simp only [step] at taken
  split at taken
  · next oldPtr waker missed => exact ⟨oldPtr, waker, missed, (Option.some.inj taken).symm⟩
  · cases taken

theorem step_poll {waker : Nat}
    (taken : step profile waitCount system (.poll waker) = some after) :
    Exists fun oldPtr => (Exists fun other => Exists fun mark =>
        system.progress = .waiting oldPtr (.asleep other mark)) ∧
      after = { system with progress := .waiting oldPtr (.started waker) } := by
  simp only [step] at taken
  split at taken
  · next oldPtr other mark asleep =>
      exact ⟨oldPtr, ⟨other, mark, asleep⟩, (Option.some.inj taken).symm⟩
  · cases taken

theorem step_finish (taken : step profile waitCount system .finish = some after) :
    Exists fun oldPtr => system.progress = .waiting oldPtr .ready ∧
      after = { system with progress := .idle, hand := oldPtr :: system.hand } := by
  simp only [step] at taken
  split at taken
  · next oldPtr ready => exact ⟨oldPtr, ready, (Option.some.inj taken).symm⟩
  · cases taken

theorem step_cancel (taken : step profile waitCount system .cancel = some after) :
    ((Exists fun fbPtr => system.progress = .called fbPtr) ∨
      (Exists fun oldPtr => Exists fun waker => Exists fun mark =>
        system.progress = .waiting oldPtr (.asleep waker mark))) ∧
      after = { system with progress := .idle } := by
  simp only [step] at taken
  split at taken
  · next fbPtr called => exact ⟨Or.inl ⟨fbPtr, called⟩, (Option.some.inj taken).symm⟩
  · next oldPtr waker mark asleep =>
      exact ⟨Or.inr ⟨oldPtr, waker, mark, asleep⟩, (Option.some.inj taken).symm⟩
  · cases taken

end System

/-- The steps of a poll. -/
def Label.Polls : Label -> Prop
  | .load => True
  | .lock => True
  | .poll _ => True
  | _ => False

/-- A poll step stays with its swap, touches at most the waker slot, and reports
readiness only with the flag up. -/
theorem System.step_polls {system after : System I capacity} {label : Label} (polls : label.Polls)
    (taken : System.step profile waitCount system label = some after) :
    Exists fun oldPtr => Exists fun phase => Exists fun next => Exists fun core =>
      system.progress = .waiting oldPtr phase ∧ core.swapDone = system.core.swapDone ∧
      core.swapWaits = system.core.swapWaits ∧ (next = .ready -> system.core.swapDone = true) ∧
      after = { system with core, progress := .waiting oldPtr next } := by
  cases label with
  | load =>
      rcases step_load taken with ⟨oldPtr, waker, started, same⟩
      exact ⟨oldPtr, _, _, system.core, started, rfl, rfl,
        fun ready => Cell.done_of_loadPhase ready, same⟩
  | lock =>
      rcases step_lock taken with ⟨oldPtr, waker, missed, same⟩
      exact ⟨oldPtr, _, _, system.core.waitSwapLock waker, missed,
        system.core.swapDone_waitSwapLock waker, system.core.swapWaits_waitSwapLock waker,
        fun ready => Cell.done_of_lockPhase ready, same⟩
  | poll waker =>
      rcases step_poll taken with ⟨oldPtr, ⟨other, mark, asleep⟩, same⟩
      refine ⟨oldPtr, _, _, system.core, asleep, rfl, rfl, ?_, same⟩
      intro impossible
      cases impossible
  | _ => exact absurd polls id

/-! ## Custody -/

/-- The pointer that `swap` will hand back. -/
def Progress.oldPtr : Progress -> Option Addr
  | .patching oldPtr _ _ _ => some oldPtr
  | .waiting oldPtr _ => some oldPtr
  | _ => none

/-- The buffer of a swap that has not been polled yet. -/
def Progress.fbPtr : Progress -> Option Addr
  | .called fbPtr => some fbPtr
  | _ => none

/-- Who holds which buffer.  The displayed buffer changes when the swap is
entered, so nothing is ever queued. -/
def System.custody (system : System I capacity) : Custody Addr where
  shown := system.currentFbPtr
  queued := none
  due := system.progress.oldPtr
  held := system.progress.fbPtr
  hand := system.hand

/-! ## The invariant -/

/-- The buffer that the table entry `i` belongs to. -/
def System.target (system : System I capacity) (i : Nat) : Addr :=
  match system.progress with
  | .patching oldPtr _ next _ => if i < next then system.currentFbPtr else oldPtr
  | _ => system.currentFbPtr

structure Invariant (chain : Chain I capacity) (system : System I capacity) : Prop where
  count_eq : system.descriptorCount = chain.count
  position : system.walker.index < chain.count
  items_eq : system.items = chain.aim system.target
  patching : forall oldPtr delta next waker,
    system.progress = .patching oldPtr delta next waker ->
      next ≤ chain.count ∧ delta = system.currentFbPtr - oldPtr
  exclusive : system.custody.Exclusive

variable {chain : Chain I capacity} {system after : System I capacity}

/-- Outside the patch loop the table belongs to the displayed buffer. -/
theorem Invariant.items_table (invariant : Invariant chain system)
    (quiet : forall oldPtr delta next waker, system.progress ≠ .patching oldPtr delta next waker) :
    system.items = chain.table system.currentFbPtr := by
  rw [invariant.items_eq]
  apply Chain.aim_congr
  intro i _
  unfold System.target
  split
  · next patching => exact absurd patching (quiet _ _ _ _)
  · rfl

theorem Invariant.patchCount_eq (invariant : Invariant chain system) :
    system.patchCount = chain.count := by
  unfold System.patchCount
  rw [invariant.count_eq, Nat.min_eq_left chain.count_le]

/-- Outside the patch loop, steps that leave the table and the displayed buffer
alone keep the table invariant. -/
theorem Invariant.of_quiet (invariant : Invariant chain system)
    (quiet : forall oldPtr delta next waker, system.progress ≠ .patching oldPtr delta next waker)
    (count : after.descriptorCount = system.descriptorCount)
    (walker : after.walker = system.walker) (items : after.items = system.items)
    (current : after.currentFbPtr = system.currentFbPtr)
    (quietAfter : forall oldPtr delta next waker,
      after.progress ≠ .patching oldPtr delta next waker)
    (exclusive : after.custody.Exclusive) : Invariant chain after where
  count_eq := count.trans invariant.count_eq
  position := by
    rw [walker]
    exact invariant.position
  items_eq := by
    rw [items, invariant.items_table quiet, ← current]
    apply Chain.aim_congr
    intro i _
    unfold System.target
    split
    · next patching => exact absurd patching (quietAfter _ _ _ _)
    · rfl
  patching oldPtr delta next waker patching := absurd patching (quietAfter oldPtr delta next waker)
  exclusive := exclusive

theorem Invariant.step_walk (invariant : Invariant chain system)
    (taken : System.step profile waitCount system .walk = some after) :
    Invariant chain after := by
  rcases System.step_walk taken with ⟨item, _, same⟩
  subst same
  refine { invariant with position := ?_ }
  have before := invariant.position
  simp only [System.nextIndex, invariant.count_eq]
  split
  · exact chain.count_pos
  · omega

theorem Invariant.step_enter {waker : Nat} (invariant : Invariant chain system)
    (taken : System.step profile waitCount system (.enter waker) = some after) :
    Invariant chain after := by
  rcases System.step_enter taken with ⟨fbPtr, called, same⟩
  have quiet : forall oldPtr delta next waker,
      system.progress ≠ .patching oldPtr delta next waker := by
    intro oldPtr delta next waker patching
    rw [called] at patching
    cases patching
  have items := invariant.items_table quiet
  have held : system.custody.held = some fbPtr := by
    unfold System.custody
    rw [called]
    rfl
  have moves : Custody.Moves system.custody after.custody := by
    refine (Relation.ReflTransGen.single (Custody.Move.queue held)).trans ?_
    rw [same]
    exact Relation.ReflTransGen.single (Custody.Move.flip rfl)
  have exclusive := moves.exclusive invariant.exclusive
  subst same
  refine ⟨invariant.count_eq, invariant.position, ?_, ?_, exclusive⟩
  · change system.items = _
    rw [items]
    apply Chain.aim_congr
    intro i active
    simp only [System.target, invariant.patchCount_eq]
    by_cases moved : fbPtr - system.currentFbPtr ≠ 0
    · simp only [if_pos moved, Nat.not_lt_zero, if_false]
    · -- A zero delta skips the loop: both buffers are the same one.
      have same : fbPtr = system.currentFbPtr :=
        sub_eq_zero_iff.mp (Decidable.of_not_not moved)
      rw [same]
      exact (ite_self _).symm
  · intro oldPtr delta next other patching
    injection patching with sameOld sameDelta sameNext
    subst sameOld
    subst sameDelta
    subst sameNext
    refine ⟨?_, rfl⟩
    rw [invariant.patchCount_eq]
    split
    · exact Nat.zero_le _
    · exact Nat.le_refl _

/-- A swap that is entered brings another buffer than the displayed one. -/
theorem Invariant.enter_fresh {waker : Nat} (invariant : Invariant chain system)
    (taken : System.step profile waitCount system (.enter waker) = some after) :
    after.currentFbPtr ≠ system.currentFbPtr := by
  have kept := (invariant.step_enter taken).exclusive
  rcases System.step_enter taken with ⟨fbPtr, _, same⟩
  have due : after.custody.due = some system.currentFbPtr := by
    rw [same]
    rfl
  exact (kept.due_fresh due).1.symm

theorem Invariant.step_store (invariant : Invariant chain system)
    (taken : System.step profile waitCount system .store = some after) :
    Invariant chain after := by
  rcases System.step_store taken with ⟨oldPtr, delta, next, waker, patching, more, same⟩
  have active : next < chain.count := invariant.patchCount_eq ▸ more
  rcases invariant.patching _ _ _ _ patching with ⟨_, delta_eq⟩
  have items : system.items = chain.mixed next system.currentFbPtr oldPtr := by
    rw [invariant.items_eq]
    apply Chain.aim_congr
    intro i _
    simp only [System.target, patching]
  have custody : after.custody = system.custody := by
    rw [same]
    simp only [System.custody, patching, Progress.oldPtr, Progress.fbPtr]
  have exclusive : after.custody.Exclusive := custody ▸ invariant.exclusive
  subst same
  refine ⟨invariant.count_eq, invariant.position, ?_, ?_, exclusive⟩
  · change patchItem system.items delta next = _
    rw [items, delta_eq, Chain.patchItem_mixed active]
    rfl
  · intro _ _ _ _ same
    injection same with sameOld sameDelta sameNext
    subst sameOld
    subst sameDelta
    subst sameNext
    exact ⟨active, delta_eq⟩

theorem Invariant.step_arm (invariant : Invariant chain system)
    (taken : System.step profile waitCount system .arm = some after) :
    Invariant chain after := by
  rcases System.step_arm taken with ⟨oldPtr, delta, next, waker, patching, done, effect⟩
  have passed : chain.count ≤ next := invariant.patchCount_eq ▸ done
  have items : system.items = chain.table system.currentFbPtr := by
    rw [invariant.items_eq]
    apply Chain.aim_congr
    intro i active
    simp only [System.target, patching, if_pos (Nat.lt_of_lt_of_le active passed)]
  have exclusive := invariant.exclusive
  simp only [System.custody, patching] at exclusive
  rcases effect with ⟨_, same⟩ | ⟨_, same⟩
  · subst same
    exact ⟨invariant.count_eq, invariant.position, items,
      (fun _ _ _ _ impossible => nomatch impossible), exclusive⟩
  · subst same
    exact ⟨invariant.count_eq, invariant.position, items,
      (fun _ _ _ _ impossible => nomatch impossible), exclusive⟩

/-- Polling, finishing and giving up leave the table alone. -/
theorem Invariant.step_waiting {oldPtr : Addr} {phase : Phase Nat}
    (invariant : Invariant chain system) (waiting : system.progress = .waiting oldPtr phase)
    {core : IsrCore} {progress : Progress} {hand : List Addr}
    (quiet : forall oldPtr delta next waker, progress ≠ .patching oldPtr delta next waker)
    (exclusive : { system with core, progress, hand : System I capacity }.custody.Exclusive) :
    Invariant chain { system with core, progress, hand } := by
  refine invariant.of_quiet ?_ rfl rfl rfl rfl quiet exclusive
  intro _ _ _ _ patching
  rw [waiting] at patching
  cases patching

theorem Invariant.step {label : Label} (invariant : Invariant chain system)
    (taken : System.step profile waitCount system label = some after) : Invariant chain after := by
  have polls_kept : label.Polls -> Invariant chain after := by
    intro polls
    rcases System.step_polls polls taken with
      ⟨oldPtr, phase, next, core, waiting, _, _, _, same⟩
    subst same
    refine invariant.step_waiting waiting (fun _ _ _ _ impossible => nomatch impossible) ?_
    have exclusive := invariant.exclusive
    simp only [System.custody, waiting] at exclusive
    exact exclusive
  cases label with
  | walk => exact invariant.step_walk taken
  | isr =>
      rcases System.step_isr taken with ⟨_, core, _, same⟩
      subst same
      exact { invariant with }
  | swap fbPtr =>
      rcases System.step_swap taken with ⟨⟨idle, owned⟩, same⟩
      have free : system.custody.held = none := by
        simp only [System.custody, idle, Progress.fbPtr]
      have exclusive := (Custody.Move.call free owned).exclusive invariant.exclusive
      have quiet : forall oldPtr delta next waker,
          system.progress ≠ .patching oldPtr delta next waker := by
        intro _ _ _ _ patching
        rw [idle] at patching
        cases patching
      subst same
      refine invariant.of_quiet quiet rfl rfl rfl rfl (fun _ _ _ _ impossible => nomatch impossible) ?_
      simp only [System.custody, idle] at exclusive
      exact exclusive
  | enter waker => exact invariant.step_enter taken
  | store => exact invariant.step_store taken
  | arm => exact invariant.step_arm taken
  | load => exact polls_kept trivial
  | lock => exact polls_kept trivial
  | poll waker => exact polls_kept trivial
  | finish =>
      rcases System.step_finish taken with ⟨oldPtr, ready, same⟩
      have due : system.custody.due = some oldPtr := by
        simp only [System.custody, ready, Progress.oldPtr]
      have exclusive := (Custody.Move.collect due).exclusive invariant.exclusive
      subst same
      refine invariant.step_waiting ready (fun _ _ _ _ impossible => nomatch impossible) ?_
      simp only [System.custody, ready] at exclusive
      exact exclusive
  | cancel =>
      rcases System.step_cancel taken with ⟨⟨fbPtr, called⟩ | ⟨oldPtr, waker, mark, asleep⟩, same⟩
      · have quiet : forall oldPtr delta next waker,
            system.progress ≠ .patching oldPtr delta next waker := by
          intro _ _ _ _ patching
          rw [called] at patching
          cases patching
        have exclusive := Custody.Move.abandon.exclusive invariant.exclusive
        subst same
        refine invariant.of_quiet quiet rfl rfl rfl rfl
          (fun _ _ _ _ impossible => nomatch impossible) ?_
        simp only [System.custody, called] at exclusive
        exact exclusive
      · have exclusive := Custody.Move.forget.exclusive invariant.exclusive
        subst same
        refine invariant.step_waiting asleep (fun _ _ _ _ impossible => nomatch impossible) ?_
        simp only [System.custody, asleep] at exclusive
        exact exclusive

theorem Invariant.initial {items : Vector I capacity} {base : Addr} {hand : List Addr}
    {position : Nat} {pending : Bool} (table : chain.table base = items)
    (inside : position < chain.count) (distinct : (base :: hand).Nodup) :
    Invariant chain (System.started items chain.count base hand position pending) where
  count_eq := rfl
  position := inside
  items_eq := table.symm
  patching _ _ _ _ impossible := nomatch impossible
  exclusive := distinct

theorem Invariant.run {start : System I capacity} {trace : List Label}
    (invariant : Invariant chain start)
    (run : Run (System.step profile waitCount) start trace system) : Invariant chain system :=
  run.invariant (fun _ reached => Invariant chain reached) invariant
    fun _ _ _ _ preserved taken => preserved.step taken

end Gpdma
end Driver
end Hub75
