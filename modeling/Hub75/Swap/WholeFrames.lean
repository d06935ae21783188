import Hub75.Swap.FrameCount
import Hub75.Swap.GpdmaRelease

namespace Hub75
namespace Driver
namespace Gpdma

open Machine

/-!
# What a swap has put on the panel when it returns

The wait of a GPDMA swap is there for the buffer that is handed back.  Here it is asked what
it does for the buffer that was brought.  While the wait lasts the table is the new one, so
the channel loads the new buffer, item after item round the circle.  `shows_before_return`
counts the whole frames among these loads.  Two interrupts make one whole frame,
unless the first of them was already pending when the wait was armed; then there may be
none.
-/

variable {I : Type} [Descriptor I] {capacity : Nat} {profile : Profile} {waitCount : Nat}
  {system after : System I capacity}

/-- No swap is inside its patch loop. -/
def System.Unpatching (system : System I capacity) : Prop :=
  forall oldPtr delta next waker, system.progress ≠ .patching oldPtr delta next waker

omit [Descriptor I] in
theorem System.Unpatching.target_eq (unpatching : system.Unpatching) (i : Nat) :
    system.target i = system.currentFbPtr := by
  unfold System.target
  split
  · next patching => exact absurd patching (unpatching _ _ _ _)
  · rfl

/-- Until the next swap is entered, the displayed buffer stays and nothing is patched. -/
theorem System.Unpatching.step {label : Label} (unpatching : system.Unpatching)
    (taken : System.step profile waitCount system label = some after)
    (notEnter : forall waker, label ≠ .enter waker) :
    after.Unpatching ∧ after.currentFbPtr = system.currentFbPtr ∧ label ≠ .arm ∧
      (label ≠ .walk -> after.walker = system.walker) := by
  have polls_kept : label.Polls -> after.Unpatching ∧ after.currentFbPtr = system.currentFbPtr ∧
      after.walker = system.walker := by
    intro polls
    rcases System.step_polls polls taken with ⟨_, _, _, _, _, _, _, _, same⟩
    subst same
    exact ⟨nofun, rfl, rfl⟩
  cases label with
  | walk =>
      rcases System.step_walk taken with ⟨_, _, same⟩
      subst same
      exact ⟨unpatching, rfl, nofun, fun impossible => absurd rfl impossible⟩
  | isr =>
      rcases System.step_isr taken with ⟨_, _, _, same⟩
      subst same
      exact ⟨unpatching, rfl, nofun, fun _ => rfl⟩
  | swap fbPtr =>
      rcases System.step_swap taken with ⟨_, same⟩
      subst same
      exact ⟨nofun, rfl, nofun, fun _ => rfl⟩
  | enter waker => exact absurd rfl (notEnter waker)
  | store =>
      rcases System.step_store taken with ⟨_, _, _, _, patching, _, _⟩
      exact absurd patching (unpatching _ _ _ _)
  | arm =>
      rcases System.step_arm taken with ⟨_, _, _, _, patching, _, _⟩
      exact absurd patching (unpatching _ _ _ _)
  | load =>
      rcases polls_kept trivial with ⟨unpatching, current, walker⟩
      exact ⟨unpatching, current, nofun, fun _ => walker⟩
  | lock =>
      rcases polls_kept trivial with ⟨unpatching, current, walker⟩
      exact ⟨unpatching, current, nofun, fun _ => walker⟩
  | poll waker =>
      rcases polls_kept trivial with ⟨unpatching, current, walker⟩
      exact ⟨unpatching, current, nofun, fun _ => walker⟩
  | finish =>
      rcases System.step_finish taken with ⟨_, _, same⟩
      subst same
      exact ⟨nofun, rfl, nofun, fun _ => rfl⟩
  | cancel =>
      rcases System.step_cancel taken with ⟨_, same⟩
      subst same
      exact ⟨nofun, rfl, nofun, fun _ => rfl⟩

/-! ## The loads since a wait was armed -/

theorem walks_cons_of_ne {label : Label} (notWalk : label ≠ .walk) (trace : List Label) :
    walks (label :: trace) = walks trace := by
  cases label with
  | walk => exact absurd rfl notWalk
  | _ => rfl

theorem walks_append (later earlier : List Label) :
    walks (later ++ earlier) = walks later + walks earlier := by
  induction later with
  | nil => exact (Nat.zero_add _).symm
  | cons label later inductionHypothesis =>
      by_cases walk : label = .walk
      · subst walk
        change walks (later ++ earlier) + 1 = walks later + 1 + walks earlier
        omega
      · rw [List.cons_append, walks_cons_of_ne walk, walks_cons_of_ne walk, inductionHypothesis]

/-- What the channel records when it loads item `i` of the table for `buffer`. -/
def loaded (offset : Nat -> Addr) (buffer : Addr) (i : Nat) : Nat × Addr :=
  (i, buffer + offset i)

/-- Since a wait was armed, the channel has loaded the displayed buffer only, in the order of
the table. -/
structure Loading (offset : Nat -> Addr) (count place : Nat) (later : List Label)
    (system : System I capacity) : Prop where
  unpatching : system.Unpatching
  sameWait : Label.arm ∉ later
  history : Exists fun older => system.walker.history =
    (stretch (loaded offset system.currentFbPtr) count (place + 1) (walks later)).reverse ++ older

theorem Loading.step_walk {chain : Chain I capacity} {count place : Nat} {later : List Label}
    (loading : Loading chain.offset count place later system) (invariant : Invariant chain system)
    (taken : System.step profile waitCount system .walk = some after)
    (index : after.walker.index = (place + 1 + walks later) % count) :
    Loading chain.offset count place (.walk :: later) after := by
  have reads := invariant.walk_reads taken
  rcases loading.unpatching.step taken nofun with ⟨unpatching, current, _⟩
  refine ⟨unpatching, List.not_mem_cons_of_ne_of_not_mem nofun loading.sameWait, ?_⟩
  rw [loading.unpatching.target_eq] at reads
  rcases loading.history with ⟨older, recorded⟩
  refine ⟨older, ?_⟩
  change _ = (stretch _ count (place + 1) (walks later + 1)).reverse ++ older
  rw [stretch_succ, List.reverse_append, List.reverse_singleton, List.singleton_append,
    List.cons_append, current, ← recorded, ← index]
  rcases System.step_walk taken with ⟨item, _, same⟩
  rw [same] at reads ⊢
  exact congrArg (fun source => (system.nextIndex system.walker.index, source) ::
    system.walker.history) reads

theorem Loading.step {chain : Chain I capacity} {count place : Nat} {later : List Label}
    {label : Label} (loading : Loading chain.offset count place later system)
    (invariant : Invariant chain system)
    (taken : System.step profile waitCount system label = some after)
    (notEnter : forall waker, label ≠ .enter waker)
    (index : label = .walk -> after.walker.index = (place + 1 + walks later) % count) :
    Loading chain.offset count place (label :: later) after := by
  by_cases walk : label = .walk
  · subst walk
    exact loading.step_walk invariant taken (index rfl)
  · rcases loading.unpatching.step taken notEnter with ⟨unpatching, current, notArm, walker⟩
    refine ⟨unpatching, List.not_mem_cons_of_ne_of_not_mem notArm.symm loading.sameWait, ?_⟩
    rw [walker walk, current, walks_cons_of_ne walk]
    exact loading.history

/-! ## Runs -/

section

variable {backend : Backend} {layout : Layout}

theorem Launch.loading (launch : Launch profile backend layout) {later earlier : List Label}
    {system : System backend.Item backend.capacity}
    (run : Run (System.step profile waitCount) launch.start (later ++ .arm :: earlier) system)
    (sameSwap : forall waker, Label.enter waker ∉ later) :
    Loading (backend.offset layout) launch.count (launch.position + walks earlier) later system := by
  rcases launch.invariant with ⟨chain, describes, invariant⟩
  rw [← describes.offset_eq]
  induction later generalizing system with
  | nil =>
      cases run with
      | snoc _ taken =>
          rcases System.step_arm taken with ⟨_, _, _, _, _, _, ⟨_, same⟩ | ⟨_, same⟩⟩
          · subst same
            exact ⟨nofun, List.not_mem_nil, _, rfl⟩
          · subst same
            exact ⟨nofun, List.not_mem_nil, _, rfl⟩
  | cons label later inductionHypothesis =>
      have counting := launch.counting run
      cases run with
      | snoc past taken =>
          have loading := inductionHypothesis past fun waker member =>
            sameSwap waker (List.mem_cons_of_mem label member)
          refine loading.step (invariant.run past) taken (fun waker same => ?_) fun walk => ?_
          · exact sameSwap waker (same ▸ List.mem_cons_self)
          · subst walk
            have walked : launch.position + walks (.walk :: (later ++ .arm :: earlier)) =
                launch.position + walks earlier + 1 + walks later := by
              change launch.position + (walks (later ++ .arm :: earlier) + 1) = _
              rw [walks_append]
              change launch.position + (walks later + walks earlier + 1) = _
              omega
            rw [← walked]
            exact counting.index

/-- A swap returns only after its wait is over. -/
theorem Launch.done_of_finish (launch : Launch profile backend layout) (positive : 0 < waitCount)
    {trace : List Label} {system after : System backend.Item backend.capacity}
    (run : Run (System.step profile waitCount) launch.start trace system)
    (taken : System.step profile waitCount system .finish = some after) :
    system.core.swapDone = true := by
  rcases System.step_finish taken with ⟨oldPtr, ready, _⟩
  rcases System.run_future positive.ne' run with ⟨events, reached⟩
  have initially : Handshake waitCount [] launch.start.future := ⟨rfl, Sound.of_awake rfl nofun nofun⟩
  have handshake := reached.invariant (fun steps waiter => Handshake waitCount steps waiter)
    initially fun _ _ _ _ held moved => held.step positive moved
  have phase : system.future.phase = .ready := by
    unfold System.future
    rw [ready]
  exact handshake.sound.flag.trans (handshake.sound.ready phase)

end

/-- What the channel loads in one frame of the picture in `buffer`. -/
def frameLoads (offset : Nat -> Addr) (count : Nat) (buffer : Addr) : List (Nat × Addr) :=
  (List.range count).map (loaded offset buffer)

/-- A GPDMA swap shows what it was given before it returns.  From the arming of its wait until
the next swap is entered, the channel loads the items of the table in their order, all of
them from the new buffer.  When the wait is over these loads contain one whole frame
for every interrupt but the first, and one less if the first was pending when the wait
was armed; and the channel has left the last of these frames.  The swap does not return
earlier. -/
theorem shows_before_return (profile : Profile) {waitCount : Nat} (positive : 0 < waitCount)
    (backend : Backend) (layout : Layout) (launch : Launch profile backend layout)
    {later earlier : List Label} {system : System backend.Item backend.capacity}
    (run : Run (System.step profile waitCount) launch.start (later ++ .arm :: earlier) system)
    (sameSwap : forall waker, Label.enter waker ∉ later) :
    (system.walker.history.take (walks later)).reverse =
        stretch (loaded (backend.offset layout) system.currentFbPtr) launch.count
          (launch.position + walks earlier + 1) (walks later) ∧
      (system.core.swapDone = true -> Exists fun frames =>
        waitCount ≤ frames + 1 +
            (flag launch.count launch.position launch.pending earlier).toNat ∧
          Exists fun before => Exists fun after => (0 < frames -> after ≠ []) ∧
            (system.walker.history.take (walks later)).reverse = before ++
              (List.replicate frames (frameLoads (backend.offset layout) launch.count
                system.currentFbPtr)).flatten ++ after) ∧
      (forall after, System.step profile waitCount system .finish = some after ->
        system.core.swapDone = true) := by
  have loading := launch.loading run sameSwap
  have nonempty : 0 < launch.count := Nat.lt_of_le_of_lt (Nat.zero_le _) launch.position_lt
  have loads : (system.walker.history.take (walks later)).reverse =
      stretch (loaded (backend.offset layout) system.currentFbPtr) launch.count
        (launch.position + walks earlier + 1) (walks later) := by
    rcases loading.history with ⟨older, recorded⟩
    rw [recorded, List.take_left' (by rw [List.length_reverse, length_stretch]),
      List.reverse_reverse]
  refine ⟨loads, fun done => ?_, fun after taken => launch.done_of_finish positive run taken⟩
  have served_enough := (System.waits_after positive run rfl loading.sameWait).2.mp done
  have ended := launch.frames_waited run served_enough
  have armed : framesEnded launch.count launch.position earlier =
      (launch.position + walks earlier) / launch.count := rfl
  have now : framesEnded launch.count launch.position (later ++ .arm :: earlier) =
      (launch.position + walks earlier + walks later) / launch.count := by
    unfold framesEnded
    rw [walks_append, Nat.add_comm (walks later), ← Nat.add_assoc]
    rfl
  rcases Nat.lt_or_ge (framesEnded launch.count launch.position earlier)
    (framesEnded launch.count launch.position (later ++ .arm :: earlier)) with passes | none
  · rcases exists_turns (loaded (backend.offset layout) system.currentFbPtr) nonempty armed now
      passes with ⟨before, after, goes_on, whole⟩
    refine ⟨_, ?_, before, after, fun _ => goes_on, loads.trans whole⟩
    omega
  · refine ⟨0, by omega, (system.walker.history.take (walks later)).reverse, [],
      fun impossible => absurd impossible (Nat.lt_irrefl 0), ?_⟩
    rw [List.replicate_zero, List.flatten_nil, List.append_nil, List.append_nil]

/-- Between the two interrupts of its wait the swap shows one whole frame. -/
theorem shows_before_return_of_exchange :
    Exists fun system => execute (System.step Profile.release 2) exampleLaunch.start
        [.swap 0x20002000, .enter 7, .store, .store, .store, .arm, .walk, .walk, .isr, .walk, .walk,
          .walk, .isr] = some system ∧
      Exists fun frames => 2 ≤ frames + 1 + (flag 3 1 false
          [.store, .store, .store, .enter 7, .swap 0x20002000]).toNat ∧
        Exists fun before => Exists fun after => (0 < frames -> after ≠ []) ∧
          (system.walker.history.take 5).reverse = before ++
            (List.replicate frames (frameLoads (linearOffset Layout.twoSegments) 3
              system.currentFbPtr)).flatten ++ after := by
  have runs : (execute (System.step Profile.release 2) exampleLaunch.start
      [.swap 0x20002000, .enter 7, .store, .store, .store, .arm, .walk, .walk, .isr, .walk, .walk,
        .walk, .isr]).map (fun system => system.core.swapDone) = some true := by decide +kernel
  rcases Option.map_eq_some_iff.mp runs with ⟨system, executed, done⟩
  have run : Run (System.step Profile.release 2) exampleLaunch.start
      ([.isr, .walk, .walk, .walk, .isr, .walk, .walk] ++ .arm ::
        [.store, .store, .store, .enter 7, .swap 0x20002000]) system := run_of_execute executed
  exact ⟨system, executed, (shows_before_return Profile.release (Nat.succ_pos 1) .linear
    Layout.twoSegments exampleLaunch run (by simp)).2.1 done⟩

/-- With the interrupt of the frame before still pending, two interrupts may show none: the
frame during which the table was patched began with the old buffer. -/
example : (execute (System.step Profile.release 2) exampleLaunch.start
    [.walk, .walk, .swap 0x20002000, .enter 7, .walk, .store, .store, .store, .arm, .isr, .walk,
      .walk, .isr, .load, .finish]).map (fun system => (system.hand, system.walker.history)) =
    some ([0x20000000], [(0, 0x20002000), (2, 0x20002040), (1, 0x20000040), (0, 0x20000000),
      (2, 0x20000040)]) := by decide +kernel

end Gpdma
end Driver
end Hub75
