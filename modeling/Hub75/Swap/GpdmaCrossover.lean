import Hub75.Swap.GpdmaRelease
import Hub75.Machine.Overtaking

namespace Hub75
namespace Driver
namespace Gpdma

open Machine

/-!
# When the channel crosses over to the new buffer

The patch loop of `swap` and the channel go round the same table.  The module
documentation puts the loop in a critical section, but `swap` enters none, so the
task can be preempted between two stores for as long as the channel needs for
several descriptors.

Between two calls of `swap` the stores and the loads form a schedule as in
`Machine.Overtaking`: the stores are the writes, the loads are the reads, and the
ring is the circle of active items.  `Crossing` says that the table, the channel
and the loads are determined by that schedule alone.
-/

variable {I : Type} [Descriptor I] {capacity : Nat} {profile : Profile} {waitCount : Nat}
  {chain : Chain I capacity} {before entered system after : System I capacity}
  {trace : List Label}

/-! ## The schedule of a swap -/

/-- The part a step plays in the schedule. -/
def Label.event : Label -> Option RingEvent
  | .store => some .write
  | .walk => some .read
  | _ => none

/-- The schedule of a trace, newest event first. -/
def schedule (trace : List Label) : List RingEvent := trace.filterMap Label.event

/-- The load of item `look.1`, from the new buffer or from the old one. -/
def loadOf (offset : Nat -> Addr) (new old : Addr) (look : Nat × Bool) : Nat × Addr :=
  (look.1, (if look.2 then new else old) + offset look.1)

/-- From the entry of a swap, which replaces `old` by `new`, to the next one. -/
structure Crossing (chain : Chain I capacity) (position : Nat) (new old : Addr)
    (earlier : List (Nat × Addr)) (trace : List Label) (system : System I capacity) : Prop where
  items_eq : system.items = chain.mixed (written (schedule trace)) new old
  index_eq : system.walker.index = readCell chain.count position (schedule trace)
  history_eq : system.walker.history =
    (looks chain.count position (schedule trace)).map (loadOf chain.offset new old) ++ earlier
  /-- The patch loop has made as many stores as the schedule has writes. -/
  patching : forall oldPtr delta next waker, system.progress = .patching oldPtr delta next waker ->
    next = written (schedule trace) ∧ delta = new - old

variable {position : Nat} {new old : Addr} {earlier : List (Nat × Addr)}

/-- The entry starts the schedule. -/
theorem Crossing.initial {waker : Nat} (invariant : Invariant chain before)
    (taken : System.step profile waitCount before (.enter waker) = some entered) :
    entered.currentFbPtr ≠ before.currentFbPtr ∧
      Crossing chain before.walker.index entered.currentFbPtr before.currentFbPtr
        entered.walker.history [] entered := by
  have distinct := invariant.enter_fresh taken
  have moved : entered.currentFbPtr - before.currentFbPtr ≠ 0 := sub_eq_zero_iff.not.mpr distinct
  rcases System.step_enter taken with ⟨fbPtr, called, same⟩
  refine ⟨distinct, ?_⟩
  subst same
  refine ⟨?_, (Nat.mod_eq_of_lt invariant.position).symm, rfl, ?_⟩
  · change before.items = chain.mixed 0 fbPtr before.currentFbPtr
    rw [Chain.mixed_zero]
    apply invariant.items_table
    intro _ _ _ _ patching
    rw [called] at patching
    cases patching
  · intro _ _ _ _ patching
    injection patching with _ sameDelta sameNext
    rw [if_pos moved] at sameNext
    exact ⟨sameNext.symm, sameDelta.symm⟩

/-- Steps that are not in the schedule and do not enter the patch loop. -/
theorem Crossing.of_unscheduled {label : Label}
    (crossing : Crossing chain position new old earlier trace system)
    (unscheduled : label.event = none) (items : after.items = system.items)
    (walker : after.walker = system.walker)
    (patching : forall oldPtr delta next waker,
      after.progress = .patching oldPtr delta next waker -> system.progress = after.progress) :
    Crossing chain position new old earlier (label :: trace) after := by
  have silent : schedule (label :: trace) = schedule trace := List.filterMap_cons_none unscheduled
  constructor
  · rw [silent, items]
    exact crossing.items_eq
  · rw [silent, walker]
    exact crossing.index_eq
  · rw [silent, walker]
    exact crossing.history_eq
  · intro oldPtr delta next waker inside
    rw [silent]
    have stays := patching oldPtr delta next waker inside
    exact crossing.patching oldPtr delta next waker (stays.trans inside)

/-- A load reads the next item, with what the stores made so far have left there. -/
theorem Crossing.step_walk (crossing : Crossing chain position new old earlier trace system)
    (count : system.descriptorCount = chain.count)
    (taken : System.step profile waitCount system .walk = some after) :
    Crossing chain position new old earlier (.walk :: trace) after := by
  rcases System.step_walk taken with ⟨item, found, same⟩
  have moved : system.nextIndex system.walker.index =
      readCell chain.count position (schedule (.walk :: trace)) := by
    unfold System.nextIndex
    rw [count, crossing.index_eq]
    exact (readCell_read chain.count_pos _).symm
  have active : system.nextIndex system.walker.index < chain.count := by
    rw [moved]
    exact readCell_lt chain.count_pos _
  have loaded : (system.nextIndex system.walker.index, Descriptor.sar item) =
      loadOf chain.offset new old (readCell chain.count position (schedule (.walk :: trace)),
        decide (readCell chain.count position (schedule (.walk :: trace)) <
          written (schedule trace))) := by
    have current : Exists fun stored =>
        (chain.mixed (written (schedule trace)) new old)[system.nextIndex system.walker.index]? =
          some stored ∧ Descriptor.sar stored =
            (if system.nextIndex system.walker.index < written (schedule trace) then new else old) +
              chain.offset (system.nextIndex system.walker.index) := Chain.aim_active _ active
    rcases current with ⟨stored, read, source⟩
    rw [crossing.items_eq] at found
    cases Option.some.inj (found.symm.trans read)
    rw [source, moved]
    simp only [loadOf, decide_eq_true_eq]
  subst same
  refine ⟨crossing.items_eq, moved, ?_, crossing.patching⟩
  change _ :: system.walker.history = _
  rw [crossing.history_eq, loaded]
  rfl

theorem Crossing.step_store (crossing : Crossing chain position new old earlier trace system)
    (patchCount : system.patchCount = chain.count)
    (taken : System.step profile waitCount system .store = some after) :
    Crossing chain position new old earlier (.store :: trace) after := by
  rcases System.step_store taken with ⟨oldPtr, delta, next, waker, patching, more, same⟩
  rcases crossing.patching _ _ _ _ patching with ⟨front, delta_eq⟩
  subst same
  refine ⟨?_, crossing.index_eq, crossing.history_eq, ?_⟩
  · have active : written (schedule trace) < chain.count := by
      rw [← front, ← patchCount]
      exact more
    change patchItem system.items delta next = _
    rw [crossing.items_eq, delta_eq, front, Chain.patchItem_mixed active]
    rfl
  · intro _ _ _ _ inside
    injection inside with _ sameDelta sameNext
    refine ⟨sameNext.symm.trans ?_, sameDelta.symm.trans delta_eq⟩
    exact congrArg (· + 1) front

theorem Crossing.step {label : Label}
    (crossing : Crossing chain position new old earlier trace system)
    (invariant : Invariant chain system)
    (taken : System.step profile waitCount system label = some after)
    (notEnter : forall waker, label ≠ .enter waker) :
    Crossing chain position new old earlier (label :: trace) after := by
  have polls_kept : label.Polls -> label.event = none ->
      Crossing chain position new old earlier (label :: trace) after := by
    intro polls unscheduled
    rcases System.step_polls polls taken with ⟨_, _, _, _, _, _, _, _, same⟩
    subst same
    exact crossing.of_unscheduled unscheduled rfl rfl fun _ _ _ _ impossible => nomatch impossible
  cases label with
  | walk => exact crossing.step_walk invariant.count_eq taken
  | isr =>
      rcases System.step_isr taken with ⟨_, _, _, same⟩
      subst same
      exact crossing.of_unscheduled rfl rfl rfl fun _ _ _ _ _ => rfl
  | swap fbPtr =>
      rcases System.step_swap taken with ⟨_, same⟩
      subst same
      exact crossing.of_unscheduled rfl rfl rfl fun _ _ _ _ impossible => nomatch impossible
  | enter waker => exact absurd rfl (notEnter waker)
  | store => exact crossing.step_store invariant.patchCount_eq taken
  | arm =>
      rcases System.step_arm taken with ⟨_, _, _, _, _, _, ⟨_, same⟩ | ⟨_, same⟩⟩
      · subst same
        exact crossing.of_unscheduled rfl rfl rfl fun _ _ _ _ impossible => nomatch impossible
      · subst same
        exact crossing.of_unscheduled rfl rfl rfl fun _ _ _ _ impossible => nomatch impossible
  | load => exact polls_kept trivial rfl
  | lock => exact polls_kept trivial rfl
  | poll waker => exact polls_kept trivial rfl
  | finish =>
      rcases System.step_finish taken with ⟨_, _, same⟩
      subst same
      exact crossing.of_unscheduled rfl rfl rfl fun _ _ _ _ impossible => nomatch impossible
  | cancel =>
      rcases System.step_cancel taken with ⟨_, same⟩
      subst same
      exact crossing.of_unscheduled rfl rfl rfl fun _ _ _ _ impossible => nomatch impossible

theorem Crossing.run {waker : Nat} (invariant : Invariant chain before)
    (enter : System.step profile waitCount before (.enter waker) = some entered)
    (run : Run (System.step profile waitCount) entered trace system)
    (sameSwap : forall other, Label.enter other ∉ trace) :
    Crossing chain before.walker.index entered.currentFbPtr before.currentFbPtr
      entered.walker.history trace system := by
  have kept := run.invariant (fun steps reached => Invariant chain reached ∧
      ((forall other, Label.enter other ∉ steps) ->
        Crossing chain before.walker.index entered.currentFbPtr before.currentFbPtr
          entered.walker.history steps reached))
    ⟨invariant.step enter, fun _ => (Crossing.initial invariant enter).2⟩ <| by
      intro steps state label next inductionHypothesis taken
      rcases inductionHypothesis with ⟨table, crossing⟩
      refine ⟨table.step taken, fun absent => ?_⟩
      have earlierAbsent : forall other, Label.enter other ∉ steps :=
        fun other member => absent other (List.mem_cons_of_mem _ member)
      refine (crossing earlierAbsent).step table taken fun other same => absent other ?_
      rw [same]
      exact List.mem_cons_self
  exact kept.2 sameSwap

/-! ## Switching over once -/

/-- The loads, newest first, leave the old buffer for the new one and do not come
back, so they are old ones followed by new ones. -/
structure SwitchesOver (offset : Nat -> Addr) (new old : Addr) (loads : List (Nat × Addr)) :
    Prop where
  never_back : loads.Pairwise fun later earlier =>
    ReadsFrom offset earlier.1 earlier.2 new -> ¬ ReadsFrom offset later.1 later.2 old
  split : Exists fun fresh => Exists fun stale => loads = fresh ++ stale ∧
    (forall load, load ∈ fresh -> ReadsFrom offset load.1 load.2 new) ∧
    forall load, load ∈ stale -> ReadsFrom offset load.1 load.2 old

theorem readsFrom_new {offset : Nat -> Addr} (distinct : new ≠ old) (look : Nat × Bool) :
    ReadsFrom offset (loadOf offset new old look).1 (loadOf offset new old look).2 new ↔
      look.2 = true := by
  rcases look with ⟨i, seen⟩
  cases seen with
  | true => exact iff_of_true rfl rfl
  | false =>
      refine iff_of_false (fun same => distinct ?_) Bool.false_ne_true
      exact ((BitVec.add_left_inj _).mp same).symm

theorem readsFrom_old {offset : Nat -> Addr} (distinct : new ≠ old) (look : Nat × Bool) :
    ReadsFrom offset (loadOf offset new old look).1 (loadOf offset new old look).2 old ↔
      look.2 = false := by
  rcases look with ⟨i, seen⟩
  cases seen with
  | true =>
      refine iff_of_false (fun same => distinct ?_) Bool.true_eq_false.mp
      exact (BitVec.add_left_inj _).mp same
  | false => exact iff_of_true rfl rfl

theorem switchesOver_iff {offset : Nat -> Addr} (distinct : new ≠ old) (seen : List (Nat × Bool)) :
    SwitchesOver offset new old (seen.map (loadOf offset new old)) ↔ SwitchesOnce seen := by
  have pairwise : (seen.map (loadOf offset new old)).Pairwise (fun later earlier =>
      ReadsFrom offset earlier.1 earlier.2 new -> ¬ ReadsFrom offset later.1 later.2 old) ↔
      SwitchesOnce seen := by
    simp only [SwitchesOnce, List.pairwise_map, readsFrom_new distinct, readsFrom_old distinct,
      Bool.not_eq_false]
  constructor
  · exact fun switches => pairwise.mp switches.never_back
  · intro once
    refine ⟨pairwise.mpr once, ?_⟩
    rcases once.split with ⟨fresh, stale, same, allNew, allOld⟩
    refine ⟨fresh.map (loadOf offset new old), stale.map (loadOf offset new old), ?_, ?_, ?_⟩
    · rw [same, List.map_append]
    · exact List.forall_mem_map.mpr fun look member =>
        (readsFrom_new distinct look).mpr (allNew look member)
    · exact List.forall_mem_map.mpr fun look member =>
        (readsFrom_old distinct look).mpr (allOld look member)

/-- A GPDMA swap switches the panel over once exactly when the channel never
overtakes the patch loop.  Launch either backend, take any reachable state in
which a swap is entered, and follow any interleaving until the next swap is
entered.  The loads made since then switch over once if and only if the channel
never loaded the item patched last and then its successor between two stores of
the loop.  The entry itself records no load. -/
theorem swap_switches_over_iff (profile : Profile) (waitCount : Nat) (backend : Backend)
    (layout : Layout) (launch : Launch profile backend layout) {past trace : List Label}
    {before entered system : System backend.Item backend.capacity} {waker : Nat}
    (reached : Run (System.step profile waitCount) launch.start past before)
    (enter : System.step profile waitCount before (.enter waker) = some entered)
    (run : Run (System.step profile waitCount) entered trace system)
    (sameSwap : forall other, Label.enter other ∉ trace) :
    Exists fun loads => system.walker.history = loads ++ before.walker.history ∧
      (SwitchesOver (backend.offset layout) entered.currentFbPtr before.currentFbPtr loads ↔
        ¬ Overtaken before.descriptorCount before.walker.index (schedule trace)) := by
  rcases launch.invariant with ⟨chain, describes, initially⟩
  have invariant := initially.run reached
  have crossing := Crossing.run invariant enter run sameSwap
  have distinct := (Crossing.initial invariant enter).1
  have quiet : entered.walker = before.walker := by
    rcases System.step_enter enter with ⟨_, _, same⟩
    rw [same]
  refine ⟨_, quiet ▸ crossing.history_eq, ?_⟩
  rw [invariant.count_eq, ← describes.offset_eq, switchesOver_iff distinct]
  exact switchesOnce_iff chain.count_pos _

/-! ## Two schedules -/

section

variable {backend : Backend} {launch : Launch Profile.release backend Layout.twoSegments}

/-- The states before and after the entry of a swap to the second buffer of the example, and the
one after the given steps. -/
def exampleSwap (launch : Launch Profile.release backend Layout.twoSegments)
    (steps : List Label) : Option (System backend.Item backend.capacity ×
    System backend.Item backend.capacity × System backend.Item backend.capacity) :=
  (execute (System.step Profile.release 2) launch.start [.swap 0x20002000]).bind fun before =>
    (System.step Profile.release 2 before (.enter 7)).bind fun entered =>
      (execute (System.step Profile.release 2) entered steps).map fun system =>
        (before, entered, system)

/-- The runs of an example, with what is known of the state in which the swap is entered. -/
theorem exampleSwap_runs {steps : List Label} {count position : Nat}
    (runs : (exampleSwap launch steps).map (fun states =>
      (states.1.walker.history, states.1.descriptorCount, states.1.walker.index)) =
        some ([], count, position)) :
    Exists fun before => Exists fun entered => Exists fun system =>
      exampleSwap launch steps = some (before, entered, system) ∧
        execute (System.step Profile.release 2) launch.start [.swap 0x20002000] = some before ∧
        System.step Profile.release 2 before (.enter 7) = some entered ∧
        execute (System.step Profile.release 2) entered steps = some system ∧
        before.walker.history = [] ∧ before.descriptorCount = count ∧
        before.walker.index = position := by
  rcases Option.map_eq_some_iff.mp runs with ⟨⟨before, entered, system⟩, executed, summary⟩
  rcases Option.bind_eq_some_iff.mp executed with ⟨first, reached, continued⟩
  rcases Option.bind_eq_some_iff.mp continued with ⟨second, enter, continued⟩
  rcases Option.map_eq_some_iff.mp continued with ⟨third, followed, same⟩
  cases same
  exact ⟨before, entered, system, executed, reached, enter, followed, congrArg Prod.fst summary,
    congrArg (·.2.1) summary, congrArg (·.2.2) summary⟩

/-- The swap returns to the old buffer when its last two loads are one of the new buffer and then
one of the old. -/
theorem exampleSwap_goes_back {steps : List Label} {new old : Addr} {latest earlier : Nat × Addr}
    {rest : List (Nat × Addr)}
    (runs : (exampleSwap launch steps).map (fun states => (states.1.walker.history,
      states.1.currentFbPtr, states.2.1.currentFbPtr, states.2.2.walker.history)) =
        some ([], old, new, latest :: earlier :: rest))
    (fresh : ReadsFrom (backend.offset Layout.twoSegments) earlier.1 earlier.2 new)
    (stale : ReadsFrom (backend.offset Layout.twoSegments) latest.1 latest.2 old) :
    Exists fun before => Exists fun entered => Exists fun system =>
      exampleSwap launch steps = some (before, entered, system) ∧ before.walker.history = [] ∧
        ¬ SwitchesOver (backend.offset Layout.twoSegments) entered.currentFbPtr
          before.currentFbPtr system.walker.history := by
  rcases Option.map_eq_some_iff.mp runs with ⟨⟨before, entered, system⟩, executed, summary⟩
  have empty : before.walker.history = [] := congrArg Prod.fst summary
  have oldPtr : before.currentFbPtr = old := congrArg (·.2.1) summary
  have newPtr : entered.currentFbPtr = new := congrArg (·.2.2.1) summary
  have loads : system.walker.history = latest :: earlier :: rest := congrArg (·.2.2.2) summary
  refine ⟨before, entered, system, executed, empty, fun switches => ?_⟩
  have never := switches.never_back
  rw [oldPtr, newPtr, loads] at never
  exact (List.pairwise_cons.mp never).1 earlier List.mem_cons_self fresh stale

end

/-- The channel keeps pace with the patch loop. -/
theorem swap_switches_over_of_even_pace :
    (Exists fun before => Exists fun entered => Exists fun system =>
      exampleSwap exampleLaunch [.store, .walk, .store, .walk, .store, .arm, .walk] =
        some (before, entered, system) ∧ before.walker.history = [] ∧
      SwitchesOver (Backend.linear.offset Layout.twoSegments) entered.currentFbPtr
        before.currentFbPtr system.walker.history) ∧
    Exists fun before => Exists fun entered => Exists fun system =>
      exampleSwap exampleLaunch2d [.store, .walk, .store, .walk, .arm, .walk] =
        some (before, entered, system) ∧ before.walker.history = [] ∧
      SwitchesOver (Backend.twoD.offset Layout.twoSegments) entered.currentFbPtr
        before.currentFbPtr system.walker.history := by
  constructor
  · have runs : (exampleSwap exampleLaunch [.store, .walk, .store, .walk, .store, .arm,
        .walk]).map (fun states =>
          (states.1.walker.history, states.1.descriptorCount, states.1.walker.index)) =
        some ([], 3, 1) := by decide +kernel
    rcases exampleSwap_runs runs with
      ⟨before, entered, system, executed, reached, enter, followed, empty, count, index⟩
    refine ⟨before, entered, system, executed, empty, ?_⟩
    rcases swap_switches_over_iff Profile.release 2 .linear Layout.twoSegments exampleLaunch
        (run_of_execute reached) enter (run_of_execute followed) (by simp) with
      ⟨loads, history, switches⟩
    rw [empty, List.append_nil] at history
    rw [history]
    apply switches.mpr
    rw [count, index]
    decide
  · have runs : (exampleSwap exampleLaunch2d [.store, .walk, .store, .walk, .arm, .walk]).map
        (fun states =>
          (states.1.walker.history, states.1.descriptorCount, states.1.walker.index)) =
        some ([], 2, 1) := by decide +kernel
    rcases exampleSwap_runs runs with
      ⟨before, entered, system, executed, reached, enter, followed, empty, count, index⟩
    refine ⟨before, entered, system, executed, empty, ?_⟩
    rcases swap_switches_over_iff Profile.release 2 .twoD Layout.twoSegments exampleLaunch2d
        (run_of_execute reached) enter (run_of_execute followed) (by simp) with
      ⟨loads, history, switches⟩
    rw [empty, List.append_nil] at history
    rw [history]
    apply switches.mpr
    rw [count, index]
    decide

/-- Preempted between its first two stores, the patch loop is overtaken: the channel
loads item 2 of the old buffer, item 0 of the new one, and item 1 of the old one.  The shorter 2D
table is overtaken in the same way. -/
theorem swap_switches_back :
    (Exists fun before => Exists fun entered => Exists fun system =>
      exampleSwap exampleLaunch [.store, .walk, .walk, .walk, .store, .store] =
        some (before, entered, system) ∧ before.walker.history = [] ∧
      ¬ SwitchesOver (Backend.linear.offset Layout.twoSegments) entered.currentFbPtr
        before.currentFbPtr system.walker.history) ∧
    Exists fun before => Exists fun entered => Exists fun system =>
      exampleSwap exampleLaunch2d [.store, .walk, .walk, .store] =
        some (before, entered, system) ∧ before.walker.history = [] ∧
      ¬ SwitchesOver (Backend.twoD.offset Layout.twoSegments) entered.currentFbPtr
        before.currentFbPtr system.walker.history := by
  constructor
  · have runs : (exampleSwap exampleLaunch [.store, .walk, .walk, .walk, .store, .store]).map
        (fun states => (states.1.walker.history, states.1.currentFbPtr, states.2.1.currentFbPtr,
          states.2.2.walker.history)) = some ([], 0x20000000, 0x20002000,
        [(1, 0x20000040), (0, 0x20002000), (2, 0x20000040)]) := by decide +kernel
    exact exampleSwap_goes_back runs (by decide +kernel) (by decide +kernel)
  · have runs : (exampleSwap exampleLaunch2d [.store, .walk, .walk, .store]).map
        (fun states => (states.1.walker.history, states.1.currentFbPtr, states.2.1.currentFbPtr,
          states.2.2.walker.history)) = some ([], 0x20000000, 0x20002000,
        [(1, 0x20000040), (0, 0x20002000)]) := by decide +kernel
    exact exampleSwap_goes_back runs (by decide +kernel) (by decide +kernel)

end Gpdma
end Driver
end Hub75
