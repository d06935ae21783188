import Hub75.Swap.PlainSafety
import Hub75.Swap.GpdmaRebuild
import Mathlib.Data.List.Perm.Subperm

namespace Hub75
namespace Driver

open Machine

/-!
# No buffer is lost by accident

Exclusive custody says that no buffer is in two places.  Here the buffers are
counted.  The only way to lose one is to drop the future of a swap, and every
dropped future loses exactly one, sooner or later: a GPDMA swap at once, and a plain
swap that is already queued when the interrupt applies it or the next swap
overwrites it.
-/

/-- The ledger of the buffers: which ones there are, and how many have been lost.
`owed` is the number of losses that are decided but have not happened yet. -/
structure Balanced (buffers : List Addr) (dropped owed : Nat) (custody : Custody Addr) : Prop where
  subperm : custody.tokens.Subperm buffers
  balance : custody.tokens.length + dropped = buffers.length + owed

/-- Without dropped futures every buffer is somewhere. -/
theorem Balanced.perm {buffers : List Addr} {owed : Nat} {custody : Custody Addr}
    (balanced : Balanced buffers 0 owed custody) : custody.tokens.Perm buffers := by
  refine balanced.subperm.perm_of_length_le ?_
  have balance := balanced.balance
  omega

/-! ## The plain backend -/

namespace Dma

variable {profile : Profile} {api : ChannelApi} {layout : Layout} {system after : System}
  {state : IsrCoreState} {buffers : List Addr} {trace : List Label}

/-- The custody of a whole system. -/
def System.custody (system : System) (state : IsrCoreState) : Custody Addr :=
  Dma.custody state.pointers system.core.swapDone system.phase system.held system.hand

/-- The futures dropped in this history. -/
def dropped : List Label -> Nat
  | [] => 0
  | .cancel :: trace => dropped trace + 1
  | _ :: trace => dropped trace

/-- A swap was abandoned while it was queued. -/
def System.owed (system : System) (state : IsrCoreState) : Nat :=
  if system.phase = .idle ∧ state.pendingDelta.isSome = true then 1 else 0

/-- Every step relocates or loses buffers, and does nothing else to them. -/
theorem Invariant.step_moves {label : Label} (invariant : Invariant layout system state)
    (taken : System.step profile api system label = some after) :
    Exists fun next => Invariant layout after next ∧
      Custody.Moves (system.custody state) (after.custody next) := by
  by_cases isr : label = .isr
  · subst isr
    rcases invariant.step_isr taken with ⟨next, preserved, interrupted⟩
    refine ⟨next, preserved, ?_⟩
    have task : after.phase = system.phase ∧ after.held = system.held ∧ after.hand = system.hand := by
      rcases System.step_isr taken with ⟨_, _, same⟩
      rw [same]
      exact ⟨rfl, rfl, rfl⟩
    unfold System.custody
    rw [task.1, task.2.1, task.2.2]
    rcases interrupted.branches with ⟨_, pointers, cell⟩ | ⟨_, pending, pointers, cell⟩
    · have done : after.core.swapDone = system.core.swapDone := congrArg Cell.done cell
      rw [pointers, done]
    · have done : after.core.swapDone = true := congrArg Cell.done cell
      rw [pointers, done]
      exact custody_flip pending _ _ _ _
  · by_cases enter : Exists fun waker => label = .enter waker
    · rcases enter with ⟨waker, same⟩
      subst same
      rcases invariant.step_enter taken with
        ⟨fbPtr, held, next, preserved, pointers, _, phase, hand, cell⟩
      refine ⟨next, preserved, ?_⟩
      have released : after.held = none := by
        rcases System.step_enter taken with ⟨_, _, _, _, same⟩
        rw [same]
      have done : after.core.swapDone = false := congrArg Cell.done cell
      unfold System.custody
      rw [pointers, done, phase, hand, released, held]
      exact custody_queue state.pointers _ _ _ _ waker
    · have notEnter : forall waker, label ≠ .enter waker := fun waker same => enter ⟨waker, same⟩
      rcases invariant.step_task taken isr notEnter with ⟨preserved, done⟩
      refine ⟨state, preserved, ?_⟩
      unfold System.custody
      rw [done]
      cases label with
      | isr => exact absurd rfl isr
      | enter waker => exact absurd rfl (notEnter waker)
      | swap fbPtr =>
          rcases System.step_swap taken with ⟨⟨free, _, owned⟩, same⟩
          rw [same]
          exact Relation.ReflTransGen.single (Custody.Move.call free owned)
      | load =>
          rcases System.step_load taken with ⟨waker, started, same⟩
          have live : system.phase ≠ .idle := by
            rw [started]
            nofun
          rw [same, custody_phase live Cell.loadPhase_ne_idle]
      | lock =>
          rcases System.step_lock taken with ⟨waker, missed, same⟩
          have live : system.phase ≠ .idle := by
            rw [missed]
            nofun
          rw [same, custody_phase live Cell.lockPhase_ne_idle]
      | poll waker =>
          rcases System.step_poll taken with ⟨⟨other, mark, asleep⟩, same⟩
          have live : system.phase ≠ .idle := by
            rw [asleep]
            nofun
          have stays : Phase.started waker ≠ .idle := nofun
          rw [same, custody_phase live stays]
      | finish =>
          rcases System.step_finish taken with ⟨ready, fbPtr, returned, same⟩
          have handed : fbPtr = state.returnedFbPtr := by
            simp only [IsrCore.swapInnerReturned, invariant.present, Except.ok.injEq] at returned
            exact returned.symm
          rw [same, handed, invariant.ready ready, ready]
          exact Relation.ReflTransGen.single (custody_collect state.pointers _ _)
      | cancel =>
          rcases System.step_cancel taken with ⟨_, same⟩ | ⟨_, _, same⟩
          · rw [same]
            exact Relation.ReflTransGen.single Custody.Move.abandon
          · rw [same]
            exact Relation.ReflTransGen.single (custody_forget _ _ _ _ _)

/-- A completed swap has left nothing pending. -/
theorem Invariant.absent_of_done (invariant : Invariant layout system state)
    (raised : system.core.swapDone = true) : state.pendingDelta.isSome = false := by
  apply Bool.eq_false_iff.mpr
  intro waiting
  exact Bool.false_ne_true ((invariant.unfinished waiting).symm.trans raised)

/-- How many buffers there are, place by place. -/
theorem length_custody (pointers : Pointers) (done : Bool) (phase : Phase Nat) (held : Option Addr)
    (hand : List Addr) :
    (Dma.custody pointers done phase held hand).tokens.length =
      (if pointers.delta.isSome = true then 1 else 0) +
        (if phase ≠ .idle ∧ done = true then 1 else 0) + (if held.isSome = true then 1 else 0) +
        hand.length + 1 := by
  have option (buffer : Option Addr) :
      buffer.toList.length = if buffer.isSome = true then 1 else 0 := by
    cases buffer <;> rfl
  rw [Custody.length_tokens, option, option, option]
  simp only [Dma.custody]
  congr 3
  · congr 1
    · split <;> rfl
    · split <;> rfl

/-- The ledger along a run.  A live swap that has not completed is queued. -/
structure Accounts (layout : Layout) (buffers : List Addr) (trace : List Label) (system : System)
    (state : IsrCoreState) : Prop where
  invariant : Invariant layout system state
  live : system.phase ≠ .idle -> system.core.swapDone = false -> state.pendingDelta.isSome = true
  subset : (system.custody state).tokens ⊆ buffers
  balance : (system.custody state).tokens.length + dropped trace =
    buffers.length + system.owed state

theorem Accounts.step_isr (accounts : Accounts layout buffers trace system state)
    (taken : System.step profile api system .isr = some after) :
    Exists fun next => Accounts layout buffers (.isr :: trace) after next := by
  rcases accounts.invariant.step_moves taken with ⟨next, preserved, moves⟩
  have subset := List.Subset.trans moves.tokens_subset accounts.subset
  have balance := accounts.balance
  have task : after.phase = system.phase ∧ after.held = system.held ∧ after.hand = system.hand := by
    rcases System.step_isr taken with ⟨_, _, same⟩
    rw [same]
    exact ⟨rfl, rfl, rfl⟩
  rcases accounts.invariant.step_isr taken with ⟨found, _, interrupted⟩
  cases Option.some.inj (interrupted.present.symm.trans preserved.present)
  rcases interrupted.branches with ⟨_, pointers, cell⟩ | ⟨_, pending, pointers, cell⟩
  · have done : after.core.swapDone = system.core.swapDone := congrArg Cell.done cell
    have delta : next.pendingDelta = state.pendingDelta := congrArg Pointers.delta pointers
    refine ⟨next, preserved, ?_, subset, ?_⟩
    · rw [task.1, done, delta]
      exact accounts.live
    · unfold System.custody System.owed at balance ⊢
      rw [task.1, task.2.1, task.2.2, done, pointers, delta]
      exact balance
  · have done : after.core.swapDone = true := congrArg Cell.done cell
    have delta : next.pendingDelta = none := congrArg Pointers.delta pointers
    have running : system.core.swapDone = false := accounts.invariant.unfinished pending
    refine ⟨next, preserved, ?_, subset, ?_⟩
    · rw [done]
      nofun
    · -- What was queued is shown, and what was shown is due, or lost when nobody waits.
      have queued : state.pointers.delta.isSome = true := pending
      have flipped : state.pointers.flip.delta.isSome = false := rfl
      unfold System.custody System.owed at balance ⊢
      rw [length_custody, running] at balance
      rw [length_custody, task.1, task.2.1, task.2.2, done, pointers, delta]
      simp only [queued, pending, flipped, dropped, Bool.false_eq_true, and_false, and_true, if_true,
        if_false, Option.isSome_none] at balance ⊢
      by_cases idle : system.phase = .idle
      · simp only [idle, ne_eq, not_true_eq_false, if_true, if_false] at balance ⊢
        omega
      · simp only [idle, ne_eq, not_false_eq_true, if_true, if_false] at balance ⊢
        omega

theorem Accounts.step_enter {waker : Nat} (accounts : Accounts layout buffers trace system state)
    (taken : System.step profile api system (.enter waker) = some after) :
    Exists fun next => Accounts layout buffers (.enter waker :: trace) after next := by
  rcases accounts.invariant.step_moves taken with ⟨next, preserved, moves⟩
  have subset := List.Subset.trans moves.tokens_subset accounts.subset
  have balance := accounts.balance
  rcases accounts.invariant.step_enter taken with
    ⟨fbPtr, held, found, kept, pointers, _, phase, hand, cell⟩
  cases Option.some.inj (kept.present.symm.trans preserved.present)
  have released : after.held = none := by
    rcases System.step_enter taken with ⟨_, _, _, _, same⟩
    rw [same]
  have done : after.core.swapDone = false := congrArg Cell.done cell
  have queued : next.pointers.delta.isSome = true := by
    rw [pointers]
    rfl
  have idle : system.phase = .idle := accounts.invariant.calling (by rw [held]; rfl)
  refine ⟨next, preserved, fun _ _ => queued, subset, ?_⟩
  -- What an abandoned swap has left in the queue is overwritten now.
  have pending : state.pointers.delta.isSome = state.pendingDelta.isSome := rfl
  unfold System.custody System.owed at balance ⊢
  rw [length_custody, idle, held, pending] at balance
  rw [length_custody, phase, hand, released, done]
  simp only [queued, dropped, ne_eq, not_true_eq_false, false_and, true_and, reduceCtorEq,
    not_false_eq_true, Bool.false_eq_true, and_false, if_true, if_false, Option.isSome_none,
    Option.isSome_some] at balance ⊢
  omega

theorem Accounts.step_task {label : Label} (accounts : Accounts layout buffers trace system state)
    (taken : System.step profile api system label = some after) (notIsr : label ≠ .isr)
    (notEnter : forall waker, label ≠ .enter waker) :
    Accounts layout buffers (label :: trace) after state := by
  rcases accounts.invariant.step_moves taken with ⟨next, preserved, moves⟩
  rcases accounts.invariant.step_task taken notIsr notEnter with ⟨kept, done⟩
  cases Option.some.inj (kept.present.symm.trans preserved.present)
  have subset := List.Subset.trans moves.tokens_subset accounts.subset
  have balance := accounts.balance
  have pending : state.pointers.delta.isSome = state.pendingDelta.isSome := rfl
  have polls : system.phase ≠ .idle -> after.phase ≠ .idle -> after.held = system.held ->
      after.hand = system.hand -> dropped (label :: trace) = dropped trace ->
      Accounts layout buffers (label :: trace) after state := by
    intro live stays held hand count
    refine ⟨preserved, fun _ running => accounts.live live (done.symm.trans running), subset, ?_⟩
    unfold System.custody System.owed at balance ⊢
    rw [done, held, hand, count, custody_phase live stays]
    simp only [live, stays, false_and, if_false] at balance ⊢
    exact balance
  cases label with
  | isr => exact absurd rfl notIsr
  | enter waker => exact absurd rfl (notEnter waker)
  | swap fbPtr =>
      rcases System.step_swap taken with ⟨⟨free, idle, owned⟩, same⟩
      subst same
      refine ⟨preserved, fun live => absurd idle live, subset, ?_⟩
      have erased := List.length_erase_of_mem owned
      have nonempty : 0 < system.hand.length := List.length_pos_of_mem owned
      unfold System.custody System.owed at balance ⊢
      rw [length_custody, idle, free] at balance
      rw [length_custody]
      simp only [idle, erased, dropped, Option.isSome_some, Option.isSome_none,
        Bool.false_eq_true, if_true, if_false] at balance ⊢
      omega
  | load =>
      rcases System.step_load taken with ⟨waker, started, same⟩
      subst same
      exact polls (by rw [started]; nofun) Cell.loadPhase_ne_idle rfl rfl rfl
  | lock =>
      rcases System.step_lock taken with ⟨waker, missed, same⟩
      subst same
      exact polls (by rw [missed]; nofun) Cell.lockPhase_ne_idle rfl rfl rfl
  | poll waker =>
      rcases System.step_poll taken with ⟨⟨other, mark, asleep⟩, same⟩
      subst same
      exact polls (by rw [asleep]; nofun) nofun rfl rfl rfl
  | finish =>
      rcases System.step_finish taken with ⟨ready, fbPtr, _, same⟩
      subst same
      have raised := accounts.invariant.ready ready
      have absent := accounts.invariant.absent_of_done raised
      refine ⟨preserved, fun impossible => absurd rfl impossible, subset, ?_⟩
      unfold System.custody System.owed at balance ⊢
      rw [length_custody, ready, raised, pending, absent] at balance
      rw [length_custody, raised, pending, absent]
      simp only [dropped, ne_eq, not_true_eq_false, reduceCtorEq, not_false_eq_true, and_self,
        false_and, and_false, Bool.false_eq_true, if_true, if_false, List.length_cons] at balance ⊢
      omega
  | cancel =>
      rcases System.step_cancel taken with ⟨held, same⟩ | ⟨free, ⟨waker, mark, asleep⟩, same⟩
      · subst same
        have idle := accounts.invariant.calling held
        refine ⟨preserved, fun live => absurd idle live, subset, ?_⟩
        unfold System.custody System.owed at balance ⊢
        rw [length_custody, held, idle] at balance
        rw [length_custody]
        simp only [idle, dropped, Option.isSome_none, Bool.false_eq_true, if_true, if_false]
          at balance ⊢
        omega
      · subst same
        have live : system.phase ≠ .idle := by
          rw [asleep]
          nofun
        refine ⟨preserved, fun impossible => absurd rfl impossible, subset, ?_⟩
        unfold System.custody System.owed at balance ⊢
        rw [length_custody, pending] at balance
        rw [length_custody, pending]
        -- The buffer is due already, or it is queued and the loss is still owed.
        cases raised : system.core.swapDone with
        | true =>
            have absent := accounts.invariant.absent_of_done raised
            simp only [raised, absent, live, dropped, ne_eq, not_true_eq_false, not_false_eq_true,
              and_self, and_false, false_and, Bool.false_eq_true, if_true, if_false] at balance ⊢
            omega
        | false =>
            have waiting := accounts.live live raised
            simp only [raised, waiting, live, dropped, ne_eq, not_true_eq_false, not_false_eq_true,
              and_self, and_false, false_and, Bool.false_eq_true, if_true, if_false] at balance ⊢
            omega

theorem Accounts.step {label : Label} (accounts : Accounts layout buffers trace system state)
    (taken : System.step profile api system label = some after) :
    Exists fun next => Accounts layout buffers (label :: trace) after next := by
  by_cases isr : label = .isr
  · subst isr
    exact accounts.step_isr taken
  · by_cases enter : Exists fun waker => label = .enter waker
    · rcases enter with ⟨waker, same⟩
      subst same
      exact accounts.step_enter taken
    · exact ⟨state, accounts.step_task taken isr fun waker same => enter ⟨waker, same⟩⟩

theorem Accounts.balanced (accounts : Accounts layout buffers trace system state) :
    Balanced buffers (dropped trace) (system.owed state) (system.custody state) where
  subperm := List.Nodup.subperm accounts.invariant.exclusive accounts.subset
  balance := accounts.balance

/-- Between two swaps the displayed buffer and the caller's are all there is. -/
theorem Accounts.all_present (accounts : Accounts layout buffers trace system state)
    (kept : dropped trace = 0) (free : system.held = none) (idle : system.phase = .idle) :
    (state.currentFbPtr :: system.hand).Perm buffers := by
  have balanced := accounts.balanced
  rw [kept] at balanced
  have complete := balanced.perm
  have nothing : state.pendingDelta.isSome = false := by
    have balance := balanced.balance
    rw [complete.length_eq] at balance
    unfold System.owed at balance
    cases waiting : state.pendingDelta.isSome with
    | false => rfl
    | true =>
        rw [if_pos ⟨idle, waiting⟩] at balance
        omega
  have unqueued : state.pointers.delta.isSome = false := nothing
  simp only [System.custody, Dma.custody, Custody.tokens, unqueued, free, idle, ne_eq,
    not_true_eq_false, false_and, Bool.false_eq_true, if_false, Option.toList,
    List.nil_append] at complete
  exact complete

theorem Accounts.run {core0 core : IsrCore} {state0 : IsrCoreState} {base : Addr} {hand : List Addr}
    (present : core0.state = some state0) (quiet : state0.channel.active = [])
    (started : core0.startFirstTransfer profile api (layout.instanceAt base) base = .ok core)
    (distinct : (base :: hand).Nodup)
    (run : Run (System.step profile api) (System.started core hand) trace system) :
    Exists fun state => Accounts layout (base :: hand) trace system state := by
  rcases Invariant.initial present quiet started distinct with ⟨first, invariant, _, pointers, _⟩
  have tokens : ((System.started core hand).custody first).tokens = base :: hand := by
    unfold System.custody
    rw [pointers]
    rfl
  have nothing : first.pendingDelta = none := congrArg Pointers.delta pointers
  have initially : Accounts layout (base :: hand) [] (System.started core hand) first := by
    refine ⟨invariant, fun live => absurd rfl live, fun _ member => tokens ▸ member, ?_⟩
    rw [tokens]
    simp only [System.owed, nothing, dropped, Option.isSome_none, Bool.false_eq_true, and_false,
      if_false]
  refine run.invariant (fun steps reached => Exists fun inner =>
    Accounts layout (base :: hand) steps reached inner) ⟨first, initially⟩ ?_
  intro _ _ _ _ held taken
  rcases held with ⟨inner, accounts⟩
  exact accounts.step taken

end Dma

/-! ## The GPDMA backends -/

namespace Gpdma

variable {I : Type} [Descriptor I] {capacity : Nat} {profile : Profile} {waitCount : Nat}
  {chain : Chain I capacity} {system after : System I capacity} {buffers : List Addr}
  {trace : List Label}

/-- The futures dropped in this history. -/
def dropped : List Label -> Nat
  | [] => 0
  | .cancel :: trace => dropped trace + 1
  | _ :: trace => dropped trace

/-- What one step does to the buffers: a dropped future loses one of them, and
every other step only relocates them. -/
theorem System.step_moves {label : Label} (trace : List Label)
    (taken : System.step profile waitCount system label = some after) :
    Custody.Moves system.custody after.custody ∧
      after.custody.tokens.length + dropped (label :: trace) =
        system.custody.tokens.length + dropped trace := by
  have unmoved : after.custody = system.custody ->
      dropped (label :: trace) = dropped trace ->
      Custody.Moves system.custody after.custody ∧
        after.custody.tokens.length + dropped (label :: trace) =
          system.custody.tokens.length + dropped trace := by
    intro same count
    rw [same, count]
    exact ⟨Relation.ReflTransGen.refl, rfl⟩
  have polls_kept : label.Polls -> after.custody = system.custody := by
    intro polls
    rcases System.step_polls polls taken with ⟨oldPtr, phase, next, core, waiting, _, _, _, same⟩
    rw [same]
    simp only [System.custody, waiting, Progress.oldPtr, Progress.fbPtr]
  cases label with
  | walk =>
      rcases System.step_walk taken with ⟨_, _, same⟩
      exact unmoved (by rw [same]; rfl) rfl
  | isr =>
      rcases System.step_isr taken with ⟨_, _, _, same⟩
      exact unmoved (by rw [same]; rfl) rfl
  | swap fbPtr =>
      rcases System.step_swap taken with ⟨⟨idle, owned⟩, same⟩
      have free : system.custody.held = none := by
        simp only [System.custody, idle, Progress.fbPtr]
      have called : after.custody = { system.custody with
          held := some fbPtr
          hand := system.custody.hand.erase fbPtr } := by
        rw [same]
        simp only [System.custody, idle, Progress.oldPtr, Progress.fbPtr]
      refine ⟨called ▸ Relation.ReflTransGen.single (Custody.Move.call free owned), ?_⟩
      have erased := List.length_erase_of_mem owned
      have nonempty : 0 < system.hand.length := List.length_pos_of_mem owned
      rw [same]
      simp only [Custody.length_tokens, System.custody, idle, erased, dropped, Progress.oldPtr,
        Progress.fbPtr, Option.toList, List.length_cons, List.length_nil]
      omega
  | enter waker =>
      rcases System.step_enter taken with ⟨fbPtr, called, same⟩
      have held : system.custody.held = some fbPtr := by
        simp only [System.custody, called, Progress.fbPtr]
      constructor
      · refine (Relation.ReflTransGen.single (Custody.Move.queue held)).trans ?_
        rw [same]
        exact Relation.ReflTransGen.single (Custody.Move.flip rfl)
      · rw [same]
        simp only [Custody.length_tokens, System.custody, called, dropped, Progress.oldPtr,
          Progress.fbPtr, Option.toList, List.length_cons, List.length_nil]
  | store =>
      rcases System.step_store taken with ⟨_, _, _, _, patching, _, same⟩
      refine unmoved ?_ rfl
      rw [same]
      simp only [System.custody, patching, Progress.oldPtr, Progress.fbPtr]
  | arm =>
      rcases System.step_arm taken with ⟨_, _, _, _, patching, _, ⟨_, same⟩ | ⟨_, same⟩⟩
      · refine unmoved ?_ rfl
        rw [same]
        simp only [System.custody, patching, Progress.oldPtr, Progress.fbPtr]
      · refine unmoved ?_ rfl
        rw [same]
        simp only [System.custody, patching, Progress.oldPtr, Progress.fbPtr]
  | load => exact unmoved (polls_kept trivial) rfl
  | lock => exact unmoved (polls_kept trivial) rfl
  | poll waker => exact unmoved (polls_kept trivial) rfl
  | finish =>
      rcases System.step_finish taken with ⟨oldPtr, ready, same⟩
      have due : system.custody.due = some oldPtr := by
        simp only [System.custody, ready, Progress.oldPtr]
      have collected : after.custody = { system.custody with
          due := none
          hand := oldPtr :: system.custody.hand } := by
        rw [same]
        simp only [System.custody, ready, Progress.oldPtr, Progress.fbPtr]
      refine ⟨collected ▸ Relation.ReflTransGen.single (Custody.Move.collect due), ?_⟩
      rw [same]
      simp only [Custody.length_tokens, System.custody, ready, dropped, Progress.oldPtr,
        Progress.fbPtr, Option.toList, List.length_cons, List.length_nil]
      omega
  | cancel =>
      rcases System.step_cancel taken with ⟨⟨fbPtr, called⟩ | ⟨oldPtr, waker, mark, asleep⟩, same⟩
      · have abandoned : after.custody = { system.custody with held := none } := by
          rw [same]
          simp only [System.custody, called, Progress.oldPtr, Progress.fbPtr]
        refine ⟨abandoned ▸ Relation.ReflTransGen.single Custody.Move.abandon, ?_⟩
        rw [same]
        simp only [Custody.length_tokens, System.custody, called, dropped, Progress.oldPtr,
          Progress.fbPtr, Option.toList, List.length_cons, List.length_nil]
        omega
      · have forgotten : after.custody = { system.custody with due := none } := by
          rw [same]
          simp only [System.custody, asleep, Progress.oldPtr, Progress.fbPtr]
        refine ⟨forgotten ▸ Relation.ReflTransGen.single Custody.Move.forget, ?_⟩
        rw [same]
        simp only [Custody.length_tokens, System.custody, asleep, dropped, Progress.oldPtr,
          Progress.fbPtr, Option.toList, List.length_cons, List.length_nil]
        omega

/-- The ledger along a run. -/
structure Accounts (chain : Chain I capacity) (buffers : List Addr) (trace : List Label)
    (system : System I capacity) : Prop where
  invariant : Invariant chain system
  subset : system.custody.tokens ⊆ buffers
  balance : system.custody.tokens.length + dropped trace = buffers.length

theorem Accounts.step {label : Label} (accounts : Accounts chain buffers trace system)
    (taken : System.step profile waitCount system label = some after) :
    Accounts chain buffers (label :: trace) after where
  invariant := accounts.invariant.step taken
  subset := List.Subset.trans (System.step_moves trace taken).1.tokens_subset accounts.subset
  balance := (System.step_moves trace taken).2.trans accounts.balance

theorem Accounts.run {start : System I capacity} (initially : Accounts chain buffers [] start)
    (run : Run (System.step profile waitCount) start trace system) :
    Accounts chain buffers trace system :=
  run.invariant (Accounts chain buffers) initially fun _ _ _ _ accounts taken => accounts.step taken

theorem Accounts.balanced (accounts : Accounts chain buffers trace system) :
    Balanced buffers (dropped trace) 0 system.custody where
  subperm := List.Nodup.subperm accounts.invariant.exclusive accounts.subset
  balance := accounts.balance

/-- Between two swaps the displayed buffer and the caller's are all there is. -/
theorem Accounts.all_present (accounts : Accounts chain buffers trace system)
    (kept : dropped trace = 0) (idle : system.progress = .idle) :
    (system.currentFbPtr :: system.hand).Perm buffers := by
  have balanced := accounts.balanced
  rw [kept] at balanced
  have perm := balanced.perm
  simp only [System.custody, Custody.tokens, idle, Progress.oldPtr, Progress.fbPtr, Option.toList,
    List.nil_append] at perm
  exact perm

theorem Launch.accounts {backend : Backend} {layout : Layout}
    (launch : Launch profile backend layout) :
    Exists fun chain : Chain backend.Item backend.capacity =>
      Accounts chain (launch.base :: launch.hand) [] launch.start := by
  rcases launch.invariant with ⟨chain, _, invariant⟩
  exact ⟨chain, invariant, List.Subset.refl _, rfl⟩

end Gpdma

/-! ## All backends -/

/-- Every buffer is accounted for, in every run of every backend: the ones that are
in some place are distinct buffers of the start, and the missing ones are as many as
futures have been dropped.  In the plain backend a buffer of a dropped future can
still be queued.  If no future was dropped, the caller owns between two swaps
everything that is not displayed. -/
theorem buffers_accounted (profile : Profile) (api : Dma.ChannelApi) (layout : Layout) :
    (forall (core0 core : Dma.IsrCore) (state0 : Dma.IsrCoreState) (base : Addr) (hand : List Addr)
        (trace : List Dma.Label) (system : Dma.System),
      core0.state = some state0 -> state0.channel.active = [] ->
      core0.startFirstTransfer profile api (layout.instanceAt base) base = .ok core ->
      (base :: hand).Nodup ->
      Run (Dma.System.step profile api) (Dma.System.started core hand) trace system ->
        Exists fun state => system.core.state = some state ∧
          Balanced (base :: hand) (Dma.dropped trace) (system.owed state) (system.custody state) ∧
          (Dma.dropped trace = 0 -> system.held = none -> system.phase = .idle ->
            (state.currentFbPtr :: system.hand).Perm (base :: hand))) ∧
    (forall (waitCount : Nat) (backend : Gpdma.Backend)
        (launch : Gpdma.Launch profile backend layout) (trace : List Gpdma.Label)
        (system : Gpdma.System backend.Item backend.capacity),
      Run (Gpdma.System.step profile waitCount) launch.start trace system ->
        Balanced (launch.base :: launch.hand) (Gpdma.dropped trace) 0 system.custody ∧
          (Gpdma.dropped trace = 0 -> system.progress = .idle ->
            (system.currentFbPtr :: system.hand).Perm (launch.base :: launch.hand))) := by
  constructor
  · intro core0 core state0 base hand trace system present quiet started distinct run
    rcases Dma.Accounts.run present quiet started distinct run with ⟨state, accounts⟩
    exact ⟨state, accounts.invariant.present, accounts.balanced, accounts.all_present⟩
  · intro waitCount backend launch trace system run
    rcases launch.accounts with ⟨chain, initially⟩
    have accounts := initially.run run
    exact ⟨accounts.balanced, accounts.all_present⟩

/-- A swap that is dropped while it waits, and the next one: the buffer of the first
swap is lost when the second one overwrites it. -/
theorem buffers_accounted_of_dropped :
    (Exists fun system => execute (Dma.System.step Profile.release Dma.assertingApi)
        (Dma.System.started Dma.startedCore [0x20002000, 0x20004000])
        [.swap 0x20002000, .enter 7, .load, .lock, .cancel, .swap 0x20004000, .enter 8] =
          some system ∧
      Exists fun state => system.core.state = some state ∧
        Balanced [0x20000000, 0x20002000, 0x20004000] 1 (system.owed state)
          (system.custody state)) ∧
    (Exists fun system => execute (Gpdma.System.step Profile.release 2) Gpdma.exampleLaunch.start
        Gpdma.exampleExchange = some system ∧ system.hand = [0x20000000] ∧
      Balanced [0x20000000, 0x20002000] 0 0 system.custody) := by
  constructor
  · have runs : ((execute (Dma.System.step Profile.release Dma.assertingApi)
        (Dma.System.started Dma.startedCore [0x20002000, 0x20004000])
        [.swap 0x20002000, .enter 7, .load, .lock, .cancel, .swap 0x20004000, .enter 8]).map
          Dma.System.hand) = some [] := by decide +kernel
    rcases Option.map_eq_some_iff.mp runs with ⟨system, executed, _⟩
    rcases (buffers_accounted Profile.release Dma.assertingApi Layout.twoSegments).1 Dma.initialisedCore
        Dma.startedCore _ 0x20000000 [0x20002000, 0x20004000] _ system rfl rfl rfl (by decide)
        (run_of_execute executed) with ⟨state, present, balanced, _⟩
    exact ⟨system, executed, state, present, balanced⟩
  · have runs : (execute (Gpdma.System.step Profile.release 2) Gpdma.exampleLaunch.start
        Gpdma.exampleExchange).map Gpdma.System.hand = some [0x20000000] := by decide +kernel
    rcases Option.map_eq_some_iff.mp runs with ⟨system, executed, hand⟩
    exact ⟨system, executed, hand, ((buffers_accounted Profile.release Dma.assertingApi
      Layout.twoSegments).2 2 .linear Gpdma.exampleLaunch _ system (run_of_execute executed)).1⟩

end Driver
end Hub75
