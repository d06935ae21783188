import Hub75.Swap.GpdmaTable
import Hub75.Scan.Registers

namespace Hub75
namespace Driver
namespace Gpdma

open Machine

/-!
# Patching equals rebuilding

`Launch` is a driver of either backend as initialisation leaves it, and the runs
from there are all interleavings of the channel, the interrupt and the task.
The first part follows one swap from its first poll to its return, and another one its
patch loop store by store; they are combined with the table invariant.

Building again serves only as the specification: the driver never does it.  It
is stated for the release profile, in which no debug assertion on the alignment
of the new buffer can interfere; what a build writes does not depend on it.
-/

variable {I : Type} [Descriptor I] {capacity : Nat} {profile : Profile} {waitCount : Nat}
  {chain : Chain I capacity} {system after : System I capacity}

/-! ## What a swap returns -/

/-- The swap in progress, if there still is one, replaces the buffer `found`. -/
def Replacing (found : Addr) (progress : Progress) : Prop :=
  forall oldPtr, progress.oldPtr = some oldPtr -> oldPtr = found

theorem Replacing.step {found : Addr} {label : Label} (replacing : Replacing found system.progress)
    (taken : System.step profile waitCount system label = some after)
    (notEnter : forall waker, label ≠ .enter waker) : Replacing found after.progress := by
  have polls_kept : label.Polls -> Replacing found after.progress := by
    intro polls
    rcases System.step_polls polls taken with
      ⟨oldPtr, phase, next, core, waiting, _, _, _, same⟩
    subst same
    rw [waiting] at replacing
    exact replacing
  cases label with
  | walk =>
      rcases System.step_walk taken with ⟨_, _, same⟩
      exact same ▸ replacing
  | isr =>
      rcases System.step_isr taken with ⟨_, _, _, same⟩
      exact same ▸ replacing
  | swap fbPtr =>
      rcases System.step_swap taken with ⟨_, same⟩
      rw [same]
      exact fun _ impossible => nomatch impossible
  | enter waker => exact absurd rfl (notEnter waker)
  | store =>
      rcases System.step_store taken with ⟨_, _, _, _, patching, _, same⟩
      rw [patching] at replacing
      rw [same]
      exact replacing
  | arm =>
      rcases System.step_arm taken with ⟨_, _, _, _, patching, _, ⟨_, same⟩ | ⟨_, same⟩⟩
      · rw [patching] at replacing
        rw [same]
        exact replacing
      · rw [patching] at replacing
        rw [same]
        exact replacing
  | load => exact polls_kept trivial
  | lock => exact polls_kept trivial
  | poll waker => exact polls_kept trivial
  | finish =>
      rcases System.step_finish taken with ⟨_, _, same⟩
      rw [same]
      exact fun _ impossible => nomatch impossible
  | cancel =>
      rcases System.step_cancel taken with ⟨_, same⟩
      rw [same]
      exact fun _ impossible => nomatch impossible

/-- The swap begun by one `enter` returns the buffer that was displayed then. -/
theorem System.returns_displaced {waker : Nat} {entered later finished : System I capacity}
    {trace : List Label} (enter : System.step profile waitCount system (.enter waker) = some entered)
    (run : Run (System.step profile waitCount) entered trace later)
    (sameSwap : forall other, Label.enter other ∉ trace)
    (finish : System.step profile waitCount later .finish = some finished) :
    finished.hand = system.currentFbPtr :: later.hand := by
  have begun : Replacing system.currentFbPtr entered.progress := by
    rcases step_enter enter with ⟨_, _, same⟩
    rw [same]
    exact fun _ same => (Option.some.inj same).symm
  have kept := run.invariant (fun steps reached => (forall other, Label.enter other ∉ steps) ->
      Replacing system.currentFbPtr reached.progress) (fun _ => begun) <| by
    intro earlier before label following inductionHypothesis taken absent
    refine Replacing.step (inductionHypothesis fun other member =>
      absent other (List.mem_cons_of_mem _ member)) taken fun other same => absent other ?_
    rw [same]
    exact List.mem_cons_self
  rcases step_finish finish with ⟨oldPtr, ready, same⟩
  have displaced : oldPtr = system.currentFbPtr := by
    apply kept sameSwap oldPtr
    rw [ready]
    rfl
  rw [same, displaced]

/-! ## Patching equals rebuilding -/

/-- What holds of the table and of the buffers in every state of a run. -/
structure Rebuilt (profile : Profile) (waitCount : Nat)
    (build : Addr -> Except Panic (Vector I capacity × Nat)) (items0 : Vector I capacity)
    (system : System I capacity) : Prop where
  /-- Outside the patch loop the table is what a build for the displayed buffer
  would write. -/
  table : (forall oldPtr delta next waker,
      system.progress ≠ .patching oldPtr delta next waker) ->
    build system.currentFbPtr = .ok (system.items, system.descriptorCount)
  untouched : forall i, system.descriptorCount ≤ i -> system.items[i]? = items0[i]?
  /-- The displayed buffer and the buffers the caller owns are all distinct. -/
  distinct : (system.currentFbPtr :: system.hand).Nodup
  /-- A swap returns the buffer that was displayed just before it, which the
  caller does not own already. -/
  returns : forall waker entered later finished steps,
    System.step profile waitCount system (.enter waker) = some entered ->
    Run (System.step profile waitCount) entered steps later ->
    (forall other, Label.enter other ∉ steps) ->
    System.step profile waitCount later .finish = some finished ->
      finished.hand = system.currentFbPtr :: later.hand ∧ system.currentFbPtr ∉ later.hand

theorem Invariant.distinct (invariant : Invariant chain system) :
    (system.currentFbPtr :: system.hand).Nodup :=
  List.nodup_cons.mpr ⟨invariant.exclusive.shown_notMem_hand, invariant.exclusive.hand_nodup⟩

theorem Invariant.rebuilt {offset : Nat -> Addr}
    {build : Addr -> Except Panic (Vector I capacity × Nat)} {items0 items : Vector I capacity}
    {count : Nat} {base : Addr} (describes : Describes chain offset build items count base)
    (beyond : forall i, count ≤ i -> items[i]? = items0[i]?)
    (invariant : Invariant chain system) :
    Rebuilt profile waitCount build items0 system where
  table quiet := by
    rw [invariant.items_table quiet, invariant.count_eq, describes.count_eq]
    exact describes.rebuild_eq system.currentFbPtr
  untouched i inactive := by
    have outside : chain.count ≤ i := invariant.count_eq ▸ inactive
    have same := beyond i (describes.count_eq ▸ outside)
    rw [← describes.table_eq] at same
    rw [invariant.items_eq, Chain.aim_inactive _ outside, ← same]
    exact (Chain.aim_inactive _ outside).symm
  distinct := invariant.distinct
  returns _ entered later finished _ enter run sameSwap finish := by
    have handed := System.returns_displaced enter run sameSwap finish
    have fresh := (((invariant.step enter).run run).step finish).exclusive.hand_nodup
    have nodup : finished.hand.Nodup := fresh
    rw [handed] at nodup
    exact ⟨handed, (List.nodup_cons.mp nodup).1⟩

/-! ## The stores of one patch loop -/

/-- How far the loop of a swap entered in `before` has come: its stores so far are the first ones of
the patch function, on the items as they were at the entry. -/
structure Patched (before : System I capacity) (stores : Nat) (system : System I capacity) :
    Prop where
  count_eq : system.descriptorCount = before.descriptorCount
  patching : forall oldPtr delta next waker,
    system.progress = .patching oldPtr delta next waker ->
      delta = system.currentFbPtr - before.currentFbPtr ∧ next = stores ∧
      stores ≤ before.patchCount ∧ system.items = patchItems before.items delta stores

theorem Patched.entered {waker : Nat}
    (enter : System.step profile waitCount system (.enter waker) = some after)
    (fresh : after.currentFbPtr ≠ system.currentFbPtr) : Patched system 0 after := by
  rcases System.step_enter enter with ⟨fbPtr, _, same⟩
  subst same
  constructor
  · rfl
  · intro oldPtr delta next other patching
    injection patching with _ sameDelta sameNext
    rw [if_pos (sub_eq_zero_iff.not.mpr fresh)] at sameNext
    subst sameDelta
    subst sameNext
    exact ⟨rfl, rfl, Nat.zero_le _, rfl⟩

/-- Outside the loop there is nothing to follow. -/
theorem Patched.of_quiet {before : System I capacity} {stores later : Nat}
    (patched : Patched before stores system)
    (count : after.descriptorCount = system.descriptorCount)
    (quiet : forall oldPtr delta next waker, after.progress ≠ .patching oldPtr delta next waker) :
    Patched before later after where
  count_eq := count.trans patched.count_eq
  patching oldPtr delta next waker patching := absurd patching (quiet oldPtr delta next waker)

theorem Patched.step_store {before : System I capacity} {stores : Nat}
    (patched : Patched before stores system)
    (taken : System.step profile waitCount system .store = some after) :
    Patched before (stores + 1) after := by
  rcases System.step_store taken with ⟨oldPtr, delta, next, waker, patching, more, same⟩
  rcases patched.patching oldPtr delta next waker patching with ⟨delta_eq, next_eq, _, items⟩
  have sameCount : system.patchCount = before.patchCount := by
    unfold System.patchCount
    rw [patched.count_eq]
  subst next_eq
  subst same
  refine ⟨patched.count_eq, ?_⟩
  intro _ _ _ _ same
  injection same with _ sameDelta sameNext
  subst sameDelta
  refine ⟨delta_eq, sameNext.symm, sameCount ▸ more, ?_⟩
  change patchItem system.items delta next = _
  rw [items]
  rfl

theorem Patched.step {before : System I capacity} {stores : Nat} {label : Label}
    (patched : Patched before stores system)
    (taken : System.step profile waitCount system label = some after)
    (notEnter : forall waker, label ≠ .enter waker) :
    Patched before (if label = .store then stores + 1 else stores) after := by
  have polls_kept : label.Polls ->
      Patched before (if label = .store then stores + 1 else stores) after := by
    intro polls
    rcases System.step_polls polls taken with ⟨_, _, _, _, _, _, _, _, same⟩
    subst same
    exact patched.of_quiet rfl fun _ _ _ _ impossible => by cases impossible
  cases label with
  | walk =>
      rcases System.step_walk taken with ⟨_, _, same⟩
      subst same
      exact { patched with }
  | isr =>
      rcases System.step_isr taken with ⟨_, _, _, same⟩
      subst same
      exact { patched with }
  | swap fbPtr =>
      rcases System.step_swap taken with ⟨_, same⟩
      subst same
      exact patched.of_quiet rfl fun _ _ _ _ impossible => by cases impossible
  | enter waker => exact absurd rfl (notEnter waker)
  | store => exact patched.step_store taken
  | arm =>
      rcases System.step_arm taken with ⟨_, _, _, _, _, _, ⟨_, same⟩ | ⟨_, same⟩⟩
      · subst same
        exact patched.of_quiet rfl fun _ _ _ _ impossible => by cases impossible
      · subst same
        exact patched.of_quiet rfl fun _ _ _ _ impossible => by cases impossible
  | load => exact polls_kept trivial
  | lock => exact polls_kept trivial
  | poll waker => exact polls_kept trivial
  | finish =>
      rcases System.step_finish taken with ⟨_, _, same⟩
      subst same
      exact patched.of_quiet rfl fun _ _ _ _ impossible => by cases impossible
  | cancel =>
      rcases System.step_cancel taken with ⟨_, same⟩
      subst same
      exact patched.of_quiet rfl fun _ _ _ _ impossible => by cases impossible

/-- The loop as far as any run has brought it. -/
theorem Patched.run {waker : Nat} {entered later : System I capacity} {trace : List Label}
    (enter : System.step profile waitCount system (.enter waker) = some entered)
    (fresh : entered.currentFbPtr ≠ system.currentFbPtr)
    (run : Run (System.step profile waitCount) entered trace later)
    (sameSwap : forall other, Label.enter other ∉ trace) :
    Patched system (trace.count .store) later := by
  have followed := run.invariant (fun steps reached =>
      (forall other, Label.enter other ∉ steps) -> Patched system (steps.count .store) reached)
    (fun _ => Patched.entered enter fresh) <| by
    intro earlier before label following inductionHypothesis taken absent
    have patched := inductionHypothesis fun other member =>
      absent other (List.mem_cons_of_mem _ member)
    have stepped := patched.step taken fun other same => absent other <| by
      rw [same]
      exact List.mem_cons_self
    by_cases store : label = .store
    · rw [if_pos store] at stepped
      rw [store, List.count_cons_self]
      exact stepped
    · rw [if_neg store] at stepped
      rw [List.count_cons_of_ne store]
      exact stepped
  exact followed sameSwap

/-! ## Launched drivers -/

/-- A driver of either backend after initialisation: its table was built for the
buffer at `base`, while the caller owns the buffers of `hand`.  The channel may
be anywhere in the circle, and an interrupt may be pending already. -/
structure Launch (profile : Profile) (backend : Backend) (layout : Layout) where
  api : ItemApi backend.Config backend.Item
  reading : Reading backend.Item
  lawful : Lawful api reading backend.plan
  address : Addr
  items0 : Vector backend.Item backend.capacity
  base : Addr
  odrAddr : Addr
  wordSize : WordSize
  request : Nat
  items : Vector backend.Item backend.capacity
  count : Nat
  built : backend.build profile api address items0 (layout.instanceAt base) odrAddr wordSize
    request = .ok (items, count)
  hand : List Addr
  distinct : (base :: hand).Nodup
  position : Nat
  position_lt : position < count
  pending : Bool

namespace Launch

variable {backend : Backend} {layout : Layout}

/-- The state in which the task, the interrupt and the channel start. -/
def start (launch : Launch profile backend layout) : System backend.Item backend.capacity :=
  System.started launch.items launch.count launch.base launch.hand launch.position launch.pending

/-- What the builder would write into the same table for another instance. -/
def rebuild (launch : Launch profile backend layout) (other : Addr) :
    Except Panic (Vector backend.Item backend.capacity × Nat) :=
  backend.build Profile.release launch.api launch.address launch.items0 (layout.instanceAt other)
    launch.odrAddr launch.wordSize launch.request

/-- The invariant holds from the launch on. -/
theorem invariant (launch : Launch profile backend layout) :
    Exists fun chain => Describes chain (backend.offset layout) launch.rebuild launch.items
      launch.count launch.base ∧ Invariant chain launch.start := by
  have nonempty : 0 < launch.count := Nat.lt_of_le_of_lt (Nat.zero_le _) launch.position_lt
  rcases Backend.build_chain launch.lawful nonempty launch.built with ⟨chain, describes⟩
  refine ⟨chain, describes, ?_⟩
  have inside : launch.position < chain.count := describes.count_eq.symm ▸ launch.position_lt
  have initially : Invariant chain (System.started launch.items chain.count launch.base launch.hand
      launch.position launch.pending) := Invariant.initial describes.table_eq inside launch.distinct
  rw [describes.count_eq] at initially
  exact initially

end Launch

/-- In the GPDMA backends patching equals rebuilding over any history of swaps.
Let the channel, the interrupt and the display task take any steps in any order,
with swaps to any buffers, completed or cancelled.  Whenever no swap is inside
its patch loop, the table is field for field the one the builder would write for
the displayed buffer; the items beyond the active ones are never touched; and
every completed swap returns the buffer that was displayed just before it. -/
theorem patching_equals_rebuilding (profile : Profile) (waitCount : Nat) (backend : Backend)
    (layout : Layout) (launch : Launch profile backend layout) {trace : List Label}
    {system : System backend.Item backend.capacity}
    (run : Run (System.step profile waitCount) launch.start trace system) :
    Rebuilt profile waitCount launch.rebuild launch.items0 system := by
  rcases launch.invariant with ⟨chain, describes, initially⟩
  exact (initially.run run).rebuilt describes fun _ inactive =>
    Backend.build_untouched launch.built inactive

/-- The patch loop carries out the patch function of the source, whatever happens between its
stores.  From the entry of a swap to the arming of its wait every active item is stored once.  The
table is then what the function makes of the table at the entry, and the builder would have written
it for the new buffer. -/
theorem patch_loop_applies_delta (profile : Profile) (waitCount : Nat) (backend : Backend)
    (layout : Layout) (launch : Launch profile backend layout) {past trace : List Label}
    {before entered later armed : System backend.Item backend.capacity} {waker : Nat}
    (reached : Run (System.step profile waitCount) launch.start past before)
    (enter : System.step profile waitCount before (.enter waker) = some entered)
    (run : Run (System.step profile waitCount) entered trace later)
    (sameSwap : forall other, Label.enter other ∉ trace)
    (arm : System.step profile waitCount later .arm = some armed) :
    armed.items = backend.applyDelta before.items before.descriptorCount
        (armed.currentFbPtr - before.currentFbPtr) ∧
      launch.rebuild armed.currentFbPtr = .ok (armed.items, before.descriptorCount) ∧
      trace.count .store = before.descriptorCount := by
  rcases launch.invariant with ⟨chain, describes, initially⟩
  have invariant := initially.run reached
  have patched := Patched.run enter (invariant.enter_fresh enter) run sameSwap
  have quiet : forall oldPtr delta next waker,
      before.progress ≠ .patching oldPtr delta next waker := by
    intro oldPtr delta next other patching
    rcases System.step_enter enter with ⟨_, called, _⟩
    rw [patching] at called
    cases called
  rcases System.step_arm arm with ⟨oldPtr, delta, next, other, patching, done, effect⟩
  have kept : armed.items = later.items ∧ armed.currentFbPtr = later.currentFbPtr := by
    rcases effect with ⟨_, same⟩ | ⟨_, same⟩ <;> exact same ▸ ⟨rfl, rfl⟩
  rcases patched.patching oldPtr delta next other patching with ⟨delta_eq, next_eq, bound, items⟩
  have sameCount : later.patchCount = before.patchCount := by
    unfold System.patchCount
    rw [patched.count_eq]
  have stores : trace.count .store = before.patchCount :=
    Nat.le_antisymm bound (sameCount ▸ next_eq ▸ done)
  have applied : armed.items = backend.applyDelta before.items before.descriptorCount
      (armed.currentFbPtr - before.currentFbPtr) := by
    rw [kept.1, kept.2, items, stores, delta_eq, Backend.applyDelta_eq]
    rfl
  refine ⟨applied, ?_, ?_⟩
  · rw [applied, invariant.items_table quiet, invariant.count_eq, Backend.applyDelta_table,
      describes.count_eq]
    exact describes.rebuild_eq armed.currentFbPtr
  · rw [stores, invariant.patchCount_eq, invariant.count_eq]

/-! ## Executable launches -/

/-- The linear table of two segments, which are shown once and twice, in a table
at `0x20010000` for the buffer at `0x20000000`. -/
def exampleBuild : Except Panic (Vector LinearItem maxDescriptors × Nat) :=
  buildItemChain Profile.release Registers.linearApi 0x20010000
    (Vector.replicate maxDescriptors zeroedLinearItem) (Layout.twoSegments.instanceAt 0x20000000)
    0x40020815 .oneByte 5

def exampleItems : Vector LinearItem maxDescriptors :=
  (exampleBuild.toOption.map Prod.fst).getD (Vector.replicate maxDescriptors zeroedLinearItem)

/-- The 2D table of the same segments, at the same place. -/
def exampleBuild2d : Except Panic (Vector TwoDItem maxSegments × Nat) :=
  Gpdma2d.buildItemChain2d Profile.release Registers.twoDApi 0x20010000
    (Vector.replicate maxSegments zeroedTwoDItem) (Layout.twoSegments.instanceAt 0x20000000)
    0x40020815 .oneByte 5

def exampleItems2d : Vector TwoDItem maxSegments :=
  (exampleBuild2d.toOption.map Prod.fst).getD (Vector.replicate maxSegments zeroedTwoDItem)

/-- A build is determined by its table and its count. -/
theorem eq_ok_of_count {α : Type} {build : Except Panic (α × Nat)} {fallback : α} {count : Nat}
    (counted : build.toOption.map Prod.snd = some count) :
    build = .ok ((build.toOption.map Prod.fst).getD fallback, count) := by
  cases build with
  | error panic => cases counted
  | ok result =>
      cases counted
      rfl

theorem exampleBuild_eq : exampleBuild = .ok (exampleItems, 3) :=
  eq_ok_of_count (by decide +kernel)

theorem exampleBuild2d_eq : exampleBuild2d = .ok (exampleItems2d, 2) :=
  eq_ok_of_count (by decide +kernel)

/-- The linear table, launched with the channel on its second item. -/
def exampleLaunch : Launch Profile.release .linear Layout.twoSegments where
  api := Registers.linearApi
  reading := Registers.linearReading
  lawful := Registers.linear_lawful
  address := 0x20010000
  items0 := Vector.replicate maxDescriptors zeroedLinearItem
  base := 0x20000000
  odrAddr := 0x40020815
  wordSize := .oneByte
  request := 5
  items := exampleItems
  count := 3
  built := exampleBuild_eq
  hand := [0x20002000]
  distinct := by decide
  position := 1
  position_lt := by decide
  pending := false

/-- The 2D table, launched in the same way. -/
def exampleLaunch2d : Launch Profile.release .twoD Layout.twoSegments where
  api := Registers.twoDApi
  reading := Registers.twoDReading
  lawful := Registers.twoD_lawful
  address := 0x20010000
  items0 := Vector.replicate maxSegments zeroedTwoDItem
  base := 0x20000000
  odrAddr := 0x40020815
  wordSize := .oneByte
  request := 5
  items := exampleItems2d
  count := 2
  built := exampleBuild2d_eq
  hand := [0x20002000]
  distinct := by decide
  position := 1
  position_lt := by decide
  pending := false

/-- The channel moves while the table is patched, and again while the swap waits
for two interrupts. -/
def exampleExchange : List Label :=
  [.swap 0x20002000, .enter 7, .store, .walk, .store, .store, .arm, .load, .lock, .walk, .isr, .walk,
    .walk, .walk, .isr, .poll 8, .load, .finish]

/-- The same on the shorter table. -/
def exampleExchange2d : List Label :=
  [.swap 0x20002000, .enter 7, .store, .walk, .store, .arm, .load, .lock, .isr, .walk, .walk, .isr,
    .poll 8, .load, .finish]

theorem patching_equals_rebuilding_of_exchange :
    (Exists fun system => execute (System.step Profile.release 2) exampleLaunch.start
        exampleExchange = some system ∧ system.hand = [0x20000000] ∧
      Rebuilt Profile.release 2 exampleLaunch.rebuild exampleLaunch.items0 system) ∧
    Exists fun system => execute (System.step Profile.release 2) exampleLaunch2d.start
        exampleExchange2d = some system ∧ system.hand = [0x20000000] ∧
      Rebuilt Profile.release 2 exampleLaunch2d.rebuild exampleLaunch2d.items0 system := by
  have linear : (execute (System.step Profile.release 2) exampleLaunch.start exampleExchange).map
      System.hand = some [0x20000000] := by decide +kernel
  have twoD : (execute (System.step Profile.release 2) exampleLaunch2d.start exampleExchange2d).map
      System.hand = some [0x20000000] := by decide +kernel
  rcases Option.map_eq_some_iff.mp linear with ⟨system, executed, hand⟩
  rcases Option.map_eq_some_iff.mp twoD with ⟨system2d, executed2d, hand2d⟩
  exact ⟨⟨system, executed, hand, patching_equals_rebuilding Profile.release 2 .linear
      Layout.twoSegments exampleLaunch (run_of_execute executed)⟩,
    system2d, executed2d, hand2d, patching_equals_rebuilding Profile.release 2 .twoD
      Layout.twoSegments exampleLaunch2d (run_of_execute executed2d)⟩

/-- The channel loads the item that has just been stored, and the interrupt comes before the next
store. -/
theorem patch_loop_applies_delta_of_exchange :
    Exists fun before => Exists fun entered => Exists fun later => Exists fun armed =>
      execute (System.step Profile.release 2) exampleLaunch2d.start [.swap 0x20002000] =
        some before ∧
      System.step Profile.release 2 before (.enter 7) = some entered ∧
      execute (System.step Profile.release 2) entered [.store, .walk, .isr, .store] =
        some later ∧
      System.step Profile.release 2 later .arm = some armed ∧
      armed.items = Backend.twoD.applyDelta before.items 2 0x2000 ∧
      exampleLaunch2d.rebuild 0x20002000 = .ok (armed.items, 2) := by
  have runs : ((execute (System.step Profile.release 2) exampleLaunch2d.start
      [.swap 0x20002000]).bind fun before =>
        (System.step Profile.release 2 before (.enter 7)).bind fun entered =>
          (execute (System.step Profile.release 2) entered [.store, .walk, .isr, .store]).bind
            fun later => (System.step Profile.release 2 later .arm).map fun armed =>
              (before.descriptorCount, before.currentFbPtr, armed.currentFbPtr)) =
      some (2, 0x20000000, 0x20002000) := by decide +kernel
  rcases Option.bind_eq_some_iff.mp runs with ⟨before, reached, runs⟩
  rcases Option.bind_eq_some_iff.mp runs with ⟨entered, enter, runs⟩
  rcases Option.bind_eq_some_iff.mp runs with ⟨later, continued, runs⟩
  rcases Option.map_eq_some_iff.mp runs with ⟨armed, arm, summary⟩
  have count : before.descriptorCount = 2 := congrArg Prod.fst summary
  have old : before.currentFbPtr = 0x20000000 := congrArg (·.2.1) summary
  have new : armed.currentFbPtr = 0x20002000 := congrArg (·.2.2) summary
  rcases patch_loop_applies_delta Profile.release 2 .twoD Layout.twoSegments exampleLaunch2d
      (run_of_execute reached) enter (run_of_execute continued) (by simp) arm with
    ⟨applied, rebuilt, _⟩
  rw [count, old, new] at applied
  rw [count, new] at rebuilt
  exact ⟨before, entered, later, armed, reached, enter, continued, arm, applied, rebuilt⟩

end Gpdma
end Driver
end Hub75
