import Hub75.Swap.Completion
import Hub75.Swap.GpdmaRebuild
import Hub75.Scan.Links

namespace Hub75
namespace Driver

open Machine

/-!
# Counted frames

Both cores count frames in a 32-bit word that wraps around, and an application
subtracts two readings to get a refresh rate.  In the plain backend the interrupt
counts the frame boundaries itself, and a swap completes at one of them, so the same
count tells how long a swap takes.  The GPDMA backends count interrupts instead.  An
interrupt that is not served before the next frame ends is merged with that frame's,
so their count can fall behind; by how much is read off the history.
-/

/-- The wrapping difference of two counter readings is the number of counts between
them, as long as there are fewer than `2 ^ 32`. -/
theorem toNat_counter_sub {earlier later : Nat} (ordered : earlier ≤ later)
    (fits : later - earlier < 2 ^ 32) :
    (BitVec.ofNat 32 later - BitVec.ofNat 32 earlier).toNat = later - earlier := by
  have split : BitVec.ofNat 32 later =
      BitVec.ofNat 32 (later - earlier) + BitVec.ofNat 32 earlier := by
    rw [← BitVec.ofNat_add, Nat.sub_add_cancel ordered]
  rw [split, BitVec.add_sub_cancel, BitVec.toNat_ofNat, Nat.mod_eq_of_lt fits]

/-! ## The plain backend -/

namespace Dma

variable {profile : Profile} {api : ChannelApi} {layout : Layout} {state : IsrCoreState}

variable {system next : System} {trace : List Label}

/-- Steps of the task count no frame. -/
theorem System.step_task_counts {label : Label} (present : system.core.state = some state)
    (taken : System.step profile api system label = some next) (notIsr : label ≠ .isr) :
    next.core.frameCount = system.core.frameCount ∧
      Exists fun state' => next.core.state = some state' ∧ state'.port = state.port := by
  cases label with
  | isr => exact absurd rfl notIsr
  | swap fbPtr =>
      rcases System.step_swap taken with ⟨_, same⟩
      subst same
      exact ⟨rfl, state, present, rfl⟩
  | enter waker =>
      rcases System.step_enter taken with ⟨_, _, core, queued, same⟩
      subst same
      have stored := swapInnerQueue_cases present queued
      subst stored
      exact ⟨rfl, _, rfl, rfl⟩
  | load =>
      rcases System.step_load taken with ⟨_, _, same⟩
      subst same
      exact ⟨rfl, state, present, rfl⟩
  | lock =>
      rcases System.step_lock taken with ⟨waker, _, same⟩
      subst same
      refine ⟨?_, state, (system.core.state_swapInnerLock waker).trans present, rfl⟩
      change (system.core.swapInnerLock waker).frameCount = _
      unfold IsrCore.swapInnerLock
      split <;> rfl
  | poll waker =>
      rcases System.step_poll taken with ⟨_, same⟩
      subst same
      exact ⟨rfl, state, present, rfl⟩
  | finish =>
      rcases System.step_finish taken with ⟨_, _, _, same⟩
      subst same
      exact ⟨rfl, state, present, rfl⟩
  | cancel =>
      rcases System.step_cancel taken with ⟨_, same⟩ | ⟨_, _, same⟩
      · subst same
        exact ⟨rfl, state, present, rfl⟩
      · subst same
        exact ⟨rfl, state, present, rfl⟩

/-- The frame counter counts every `frame`th interrupt. -/
structure Counting (layout : Layout) (trace : List Label) (system : System)
    (state : IsrCoreState) : Prop where
  handshake : Handshake layout trace system state
  count : system.core.frameCount = BitVec.ofNat 32 (interrupts trace / frameLength layout)

theorem frameLength_pos (nonempty : 0 < layout.count) : 0 < frameLength layout :=
  Nat.lt_of_le_of_lt (Nat.zero_le _)
    (Cursor.valid_origin nonempty layout.passes_pos).position_lt

theorem interrupts_cons_of_ne {label : Label} (notIsr : label ≠ .isr) (trace : List Label) :
    interrupts (label :: trace) = interrupts trace := by
  cases label with
  | isr => exact absurd rfl notIsr
  | _ => rfl

/-- The cursor wraps around at every `frame`th interrupt. -/
theorem Handshake.boundary_iff (handshake : Handshake layout trace system state) :
    (state.bcm.cursor.advance layout.passes layout.count).2 = true ↔
      frameLength layout ∣ interrupts trace + 1 := by
  have cursor := handshake.invariant.streaming.cursor
  rw [cursor.advance_wraps_iff_position layout.passes_pos, cursor.advance_position layout.passes_pos,
    handshake.position, Nat.dvd_iff_mod_eq_zero]
  unfold frameLength
  rw [Nat.mod_add_mod]

theorem Counting.step {label : Label} (counting : Counting layout trace system state)
    (taken : System.step profile api system label = some next) :
    Exists fun state' => Counting layout (label :: trace) next state' := by
  rcases counting.handshake.step taken with ⟨state', handshake⟩
  refine ⟨state', handshake, ?_⟩
  by_cases isr : label = .isr
  · subst isr
    rcases System.step_isr taken with ⟨core, completed, same⟩
    rcases onDmaComplete_counts counting.handshake.invariant.present
      counting.handshake.invariant.streaming completed with ⟨_, _, _, count⟩
    have counted : interrupts (.isr :: trace) / frameLength layout =
        interrupts trace / frameLength layout +
          if frameLength layout ∣ interrupts trace + 1 then 1 else 0 :=
      Nat.succ_div
    subst same
    change core.frameCount = _
    rw [count, counting.count, counted, BitVec.ofNat_add]
    simp only [counting.handshake.boundary_iff]
    split <;> rfl
  · rw [interrupts_cons_of_ne isr]
    exact (System.step_task_counts counting.handshake.invariant.present taken isr).1.trans
      counting.count

theorem Counting.initial {core0 core : IsrCore} {state0 : IsrCoreState} {base : Addr}
    {hand : List Addr} (present : core0.state = some state0) (quiet : state0.channel.active = [])
    (started : core0.startFirstTransfer profile api (layout.instanceAt base) base = .ok core)
    (distinct : (base :: hand).Nodup) :
    Exists fun state => Counting layout [] (System.started core hand) state := by
  rcases Handshake.initial present quiet started distinct with ⟨state, handshake⟩
  refine ⟨state, handshake, ?_⟩
  rcases startFirstTransfer_port started present with ⟨_, _, _, zero⟩
  change core.frameCount = _
  rw [zero, interrupts, Nat.zero_div]
  rfl

theorem Counting.run {start : System} {first : IsrCoreState} {past : List Label}
    (counting : Counting layout past start first)
    (run : Run (System.step profile api) start trace system) :
    Exists fun state => Counting layout (trace ++ past) system state := by
  refine run.invariant (fun steps reached =>
    Exists fun state => Counting layout (steps ++ past) reached state) ⟨first, counting⟩ ?_
  intro _ _ _ _ held taken
  rcases held with ⟨state, counted⟩
  exact counted.step taken

/-! ## How long a swap takes -/

theorem interrupts_append (later earlier : List Label) :
    interrupts (later ++ earlier) = interrupts later + interrupts earlier := by
  induction later with
  | nil => exact (Nat.zero_add _).symm
  | cons label later inductionHypothesis =>
      by_cases isr : label = .isr
      · subst isr
        change interrupts (later ++ earlier) + 1 = interrupts later + 1 + interrupts earlier
        omega
      · rw [List.cons_append, interrupts_cons_of_ne isr, interrupts_cons_of_ne isr,
          inductionHypothesis]

/-- The number of interrupts from a place in the history to the end of the frame. -/
def frameRest (frame : Nat) (trace : List Label) : Nat := frame - interrupts trace % frame

/-- The first frame boundary after `past` comes with the interrupt number `frame - past % frame`. -/
theorem boundary_reached_iff {frame past since : Nat} (positive : 0 < frame) :
    frame - past % frame ≤ since + 1 ↔
      frame - past % frame ≤ since ∨ (since + past + 1) % frame = 0 := by
  have below := Nat.mod_lt past positive
  have whole := Nat.div_add_mod past frame
  constructor
  · intro reached
    by_cases before : frame - past % frame ≤ since
    · exact Or.inl before
    · right
      have sum : since + past + 1 = frame * (past / frame + 1) := by
        rw [Nat.mul_succ]
        omega
      rw [sum, Nat.mul_mod_right]
  · rintro (before | boundary)
    · omega
    · by_contra early
      have small : since + 1 + past % frame < frame := by omega
      have rest : (since + past + 1) % frame = since + 1 + past % frame := by
        have sum : since + past + 1 = since + 1 + past % frame + frame * (past / frame) := by omega
        rw [sum, Nat.add_mul_mod_self_left, Nat.mod_eq_of_lt small]
      omega

/-- A swap completes exactly with the interrupt that ends the frame in which it was
queued. -/
theorem completed_iff {frame : Nat} (positive : 0 < frame) (waker : Nat) (earlier : List Label)
    {later : List Label} (sameSwap : forall other, Label.enter other ∉ later) :
    armed (later ++ .enter waker :: earlier) = true ∧
      (completed frame (later ++ .enter waker :: earlier) = true ↔
        frameRest frame earlier ≤ interrupts later) := by
  induction later with
  | nil =>
      have below := Nat.mod_lt (interrupts earlier) positive
      refine ⟨rfl, iff_of_false Bool.false_ne_true ?_⟩
      change ¬ frame - interrupts earlier % frame ≤ 0
      omega
  | cons label later inductionHypothesis =>
      have before := inductionHypothesis fun other member =>
        sameSwap other (List.mem_cons_of_mem _ member)
      have count : interrupts (later ++ .enter waker :: earlier) =
          interrupts later + interrupts earlier := interrupts_append _ _
      cases label with
      | isr =>
          refine ⟨before.1, ?_⟩
          change (completed frame (later ++ .enter waker :: earlier) ||
            (armed (later ++ .enter waker :: earlier) &&
              decide ((interrupts (later ++ .enter waker :: earlier) + 1) % frame = 0))) = true ↔
            frame - interrupts earlier % frame ≤ interrupts later + 1
          rw [Bool.or_eq_true, before.2, before.1, Bool.true_and, decide_eq_true_eq, count]
          exact (boundary_reached_iff positive).symm
      | enter other => exact absurd List.mem_cons_self (sameSwap other)
      | _ => exact before

/-- The plain driver counts frames exactly, in every run and whatever the swaps do.
The counter is the number of whole frames among the transfers completed since the
start, modulo `2 ^ 32`, and the cursor stands on the rest of them.  The wrapping
difference of two readings is the number of frames completed between them, unless
these are `2 ^ 32` or more. -/
theorem frame_count_exact (profile : Profile) (layout : Layout) {core0 core : IsrCore}
    {state0 : IsrCoreState} {base : Addr} {hand : List Addr} (present : core0.state = some state0)
    (quiet : state0.channel.active = [])
    (started : core0.startFirstTransfer profile api (layout.instanceAt base) base = .ok core)
    (distinct : (base :: hand).Nodup) {trace : List Label} {system : System}
    (run : Run (System.step profile api) (System.started core hand) trace system) :
    system.core.frameCount = BitVec.ofNat 32 (interrupts trace / frameLength layout) ∧
      (Exists fun state => system.core.state = some state ∧
        state.bcm.cursor.position layout.passes = interrupts trace % frameLength layout) ∧
      forall later finish, Run (System.step profile api) system later finish ->
        interrupts (later ++ trace) / frameLength layout -
            interrupts trace / frameLength layout < 2 ^ 32 ->
          (finish.core.frameCount - system.core.frameCount).toNat =
            interrupts (later ++ trace) / frameLength layout -
              interrupts trace / frameLength layout := by
  rcases Counting.initial present quiet started distinct with ⟨_, initially⟩
  rcases initially.run run with ⟨state, counting⟩
  rw [List.append_nil] at counting
  refine ⟨counting.count, ⟨state, counting.handshake.invariant.present,
    counting.handshake.position⟩, fun later finish continued fits => ?_⟩
  rcases counting.run continued with ⟨_, counted⟩
  have ordered : interrupts trace / frameLength layout ≤
      interrupts (later ++ trace) / frameLength layout := by
    apply Nat.div_le_div_right
    rw [interrupts_append]
    exact Nat.le_add_left _ _
  rw [counted.count, counting.count]
  exact toNat_counter_sub ordered fits

/-- Four interrupts complete one frame of three transfers. -/
theorem frame_count_exact_of_four :
    Exists fun system => execute (System.step Profile.release assertingApi)
        (System.started startedCore []) [.isr, .isr, .isr, .isr] = some system ∧
      system.core.frameCount = BitVec.ofNat 32 (4 / frameLength Layout.twoSegments) := by
  have runs : ((execute (System.step Profile.release assertingApi) (System.started startedCore [])
      [.isr, .isr, .isr, .isr]).map System.hand) = some [] := by decide +kernel
  rcases Option.map_eq_some_iff.mp runs with ⟨system, executed, _⟩
  exact ⟨system, executed, (frame_count_exact Profile.release Layout.twoSegments
    (show initialisedCore.state = some _ from rfl) rfl
    (show initialisedCore.startFirstTransfer Profile.release assertingApi
      (Layout.twoSegments.instanceAt 0x20000000) 0x20000000 = .ok startedCore from rfl)
    (by decide) (run_of_execute executed)).1⟩

/-- A plain swap takes exactly until the end of the frame in which it was queued: it is
completed by that interrupt, not before and not after, and so by one of the next
`frame` interrupts.  Polls, later calls and dropped futures make no difference as
long as no other swap is queued. -/
theorem swap_latency (profile : Profile) (layout : Layout) {core0 core : IsrCore}
    {state0 : IsrCoreState} {base : Addr} {hand : List Addr} (present : core0.state = some state0)
    (quiet : state0.channel.active = [])
    (started : core0.startFirstTransfer profile api (layout.instanceAt base) base = .ok core)
    (distinct : (base :: hand).Nodup) {earlier later : List Label} {waker : Nat} {system : System}
    (run : Run (System.step profile api) (System.started core hand)
      (later ++ .enter waker :: earlier) system)
    (sameSwap : forall other, Label.enter other ∉ later) :
    (system.core.swapDone = true ↔
        frameRest (frameLength layout) earlier ≤ interrupts later) ∧
      0 < frameRest (frameLength layout) earlier ∧
      frameRest (frameLength layout) earlier ≤ frameLength layout := by
  rcases Counting.initial present quiet started distinct with ⟨_, initially⟩
  rcases initially.run run with ⟨state, counting⟩
  rw [List.append_nil] at counting
  have positive := frameLength_pos counting.handshake.invariant.streaming.nonempty
  have below := Nat.mod_lt (interrupts earlier) positive
  refine ⟨?_, Nat.sub_pos_of_lt below, Nat.sub_le _ _⟩
  have flag : system.core.swapDone =
      completed (frameLength layout) (later ++ .enter waker :: earlier) :=
    counting.handshake.sound.flag
  rw [flag]
  exact (completed_iff positive waker earlier sameSwap).2

/-- Queued after the first of three transfers, a swap takes two interrupts. -/
theorem swap_latency_of_two :
    Exists fun system => execute (System.step Profile.release assertingApi)
        (System.started startedCore [0x20002000])
        [.isr, .swap 0x20002000, .enter 7, .load, .lock, .isr, .isr] = some system ∧
      (system.core.swapDone = true ↔ frameRest (frameLength Layout.twoSegments)
        [.swap 0x20002000, .isr] ≤ 2) := by
  have runs : ((execute (System.step Profile.release assertingApi)
      (System.started startedCore [0x20002000])
      [.isr, .swap 0x20002000, .enter 7, .load, .lock, .isr, .isr]).map System.hand) =
        some [] := by decide +kernel
  rcases Option.map_eq_some_iff.mp runs with ⟨system, executed, _⟩
  have run : Run (System.step Profile.release assertingApi) (System.started startedCore [0x20002000])
      ([.isr, .isr, .lock, .load] ++ .enter 7 :: [.swap 0x20002000, .isr]) system :=
    run_of_execute executed
  exact ⟨system, executed, (swap_latency Profile.release Layout.twoSegments
    (show initialisedCore.state = some _ from rfl) rfl
    (show initialisedCore.startFirstTransfer Profile.release assertingApi
      (Layout.twoSegments.instanceAt 0x20000000) 0x20000000 = .ok startedCore from rfl)
    (by decide) run (by simp)).1⟩

end Dma

/-! ## The GPDMA backends -/

namespace Gpdma

variable {I : Type} [Descriptor I] {capacity : Nat} {profile : Profile} {waitCount : Nat}
  {chain : Chain I capacity} {system after : System I capacity} {trace : List Label}

/-- The number of descriptors ended in this history. -/
def walks : List Label -> Nat
  | [] => 0
  | .walk :: trace => walks trace + 1
  | _ :: trace => walks trace

/-- The number of interrupts served. -/
def served : List Label -> Nat
  | [] => 0
  | .isr :: trace => served trace + 1
  | _ :: trace => served trace

/-- The channel has the terminal descriptor in flight. -/
def atTerminal (count position : Nat) (trace : List Label) : Prop :=
  (position + walks trace) % count + 1 = count

instance (count position : Nat) (trace : List Label) : Decidable (atTerminal count position trace) :=
  inferInstanceAs (Decidable (_ = _))

/-- The pending flag. -/
def flag (count position : Nat) (pending : Bool) : List Label -> Bool
  | [] => pending
  | .walk :: trace => flag count position pending trace || decide (atTerminal count position trace)
  | .isr :: _ => false
  | _ :: trace => flag count position pending trace

/-- The number of frames that ended while the interrupt of the frame before was still
pending. -/
def merged (count position : Nat) (pending : Bool) : List Label -> Nat
  | [] => 0
  | .walk :: trace => merged count position pending trace +
      if flag count position pending trace = true ∧ atTerminal count position trace then 1 else 0
  | _ :: trace => merged count position pending trace

/-- The number of frames ended since the launch. -/
def framesEnded (count position : Nat) (trace : List Label) : Nat :=
  (position + walks trace) / count

/-- Every frame that has ended has been counted, is pending, or was merged. -/
structure Counting (count position : Nat) (pending : Bool) (trace : List Label)
    (system : System I capacity) : Prop where
  index : system.walker.index = (position + walks trace) % count
  pending_eq : system.pending = flag count position pending trace
  frameCount : system.core.frameCount = BitVec.ofNat 32 (served trace)
  frames : served trace + (flag count position pending trace).toNat +
    merged count position pending trace = framesEnded count position trace + pending.toNat

variable {count position : Nat} {pending : Bool}

theorem framesEnded_walk (count position : Nat) (trace : List Label) (positive : 0 < count) :
    framesEnded count position (.walk :: trace) = framesEnded count position trace +
      if atTerminal count position trace then 1 else 0 := by
  have counted : framesEnded count position (.walk :: trace) =
      framesEnded count position trace +
        if count ∣ position + walks trace + 1 then 1 else 0 := Nat.succ_div
  have same : count ∣ position + walks trace + 1 ↔ atTerminal count position trace := by
    have below := Nat.mod_lt (position + walks trace) positive
    have split := Nat.div_add_mod (position + walks trace) count
    unfold atTerminal
    constructor
    · rintro ⟨frames, sum⟩
      by_contra inner
      have rest : (position + walks trace + 1) % count = (position + walks trace) % count + 1 := by
        rw [← Nat.mod_add_mod, Nat.mod_eq_of_lt (by omega)]
      rw [sum, Nat.mul_mod_right] at rest
      omega
    · intro terminal
      refine ⟨(position + walks trace) / count + 1, ?_⟩
      rw [Nat.mul_succ]
      omega
  rw [counted]
  simp only [same]

theorem Counting.step_walk (counting : Counting count position pending trace system)
    (positive : 0 < count) (counts : system.descriptorCount = count)
    (taken : System.step profile waitCount system .walk = some after) :
    Counting count position pending (.walk :: trace) after := by
  rcases System.step_walk taken with ⟨_, _, same⟩
  have terminal : decide (system.walker.index + 1 = system.descriptorCount) =
      decide (atTerminal count position trace) := by
    rw [counting.index, counts]
    rfl
  subst same
  refine ⟨?_, ?_, counting.frameCount, ?_⟩
  · change system.nextIndex system.walker.index = (position + walks trace + 1) % count
    rw [← nextSlot_mod positive, ← counting.index]
    unfold System.nextIndex nextSlot
    rw [counts]
  · change (system.pending || decide (system.walker.index + 1 = system.descriptorCount)) = _
    rw [terminal, counting.pending_eq]
    rfl
  · have frames := counting.frames
    rw [framesEnded_walk count position trace positive]
    simp only [served, flag, merged]
    by_cases ends : atTerminal count position trace
    · cases up : flag count position pending trace with
      | false =>
          simp only [up, ends, decide_true, Bool.false_or, Bool.false_eq_true, false_and, if_true,
            if_false, Bool.toNat_false, Bool.toNat_true] at frames ⊢
          omega
      | true =>
          simp only [up, ends, decide_true, Bool.true_or, and_self, if_true, Bool.toNat_true]
            at frames ⊢
          omega
    · simp only [ends, decide_false, Bool.or_false, and_false, if_false] at frames ⊢
      omega

theorem Counting.step_isr (counting : Counting count position pending trace system)
    (taken : System.step profile waitCount system .isr = some after) :
    Counting count position pending (.isr :: trace) after := by
  rcases System.step_isr taken with ⟨raised, core, counted, same⟩
  have frames := counting.frames
  rw [← counting.pending_eq, raised] at frames
  have count_eq : core.frameCount = system.core.frameCount + 1 := by
    simp only [IsrCore.onFrame] at counted
    split at counted
    · rcases bind_eq_ok.mp counted with ⟨waits, _, returned⟩
      split at returned
      · exact (congrArg IsrCore.frameCount (Except.ok.inj returned)).symm
      · exact (congrArg IsrCore.frameCount (Except.ok.inj returned)).symm
    · exact (congrArg IsrCore.frameCount (Except.ok.inj counted)).symm
  subst same
  refine ⟨counting.index, rfl, ?_, ?_⟩
  · change core.frameCount = BitVec.ofNat 32 (served trace + 1)
    rw [count_eq, counting.frameCount, BitVec.ofNat_add]
    rfl
  · change served trace + 1 + 0 + merged count position pending trace = _
    change _ = framesEnded count position trace + pending.toNat
    rw [Bool.toNat_true] at frames
    omega

theorem Counting.step {label : Label} (counting : Counting count position pending trace system)
    (positive : 0 < count) (counts : system.descriptorCount = count)
    (taken : System.step profile waitCount system label = some after) :
    Counting count position pending (label :: trace) after := by
  have quiet : after.walker = system.walker -> after.pending = system.pending ->
      after.core.frameCount = system.core.frameCount -> label ≠ .walk -> label ≠ .isr ->
      Counting count position pending (label :: trace) after := by
    intro walker pending_eq frameCount notWalk notIsr
    have silent : walks (label :: trace) = walks trace ∧ served (label :: trace) = served trace ∧
        flag count position pending (label :: trace) = flag count position pending trace ∧
        merged count position pending (label :: trace) = merged count position pending trace := by
      cases label with
      | walk => exact absurd rfl notWalk
      | isr => exact absurd rfl notIsr
      | _ => exact ⟨rfl, rfl, rfl, rfl⟩
    rcases silent with ⟨walks_eq, served_eq, flag_eq, merged_eq⟩
    refine ⟨?_, ?_, ?_, ?_⟩
    · rw [walker, walks_eq]
      exact counting.index
    · rw [pending_eq, flag_eq]
      exact counting.pending_eq
    · rw [frameCount, served_eq]
      exact counting.frameCount
    · have frames := counting.frames
      unfold framesEnded at frames ⊢
      rw [served_eq, flag_eq, merged_eq, walks_eq]
      exact frames
  cases label with
  | walk => exact counting.step_walk positive counts taken
  | isr => exact counting.step_isr taken
  | swap fbPtr =>
      rcases System.step_swap taken with ⟨_, same⟩
      subst same
      exact quiet rfl rfl rfl nofun nofun
  | enter waker =>
      rcases System.step_enter taken with ⟨_, _, same⟩
      subst same
      exact quiet rfl rfl rfl nofun nofun
  | store =>
      rcases System.step_store taken with ⟨_, _, _, _, _, _, same⟩
      subst same
      exact quiet rfl rfl rfl nofun nofun
  | arm =>
      rcases System.step_arm taken with ⟨_, _, _, _, _, _, ⟨_, same⟩ | ⟨_, same⟩⟩
      · subst same
        exact quiet rfl rfl rfl nofun nofun
      · subst same
        exact quiet rfl rfl rfl nofun nofun
  | load =>
      rcases System.step_load taken with ⟨_, _, _, same⟩
      subst same
      exact quiet rfl rfl rfl nofun nofun
  | lock =>
      rcases System.step_lock taken with ⟨_, waker, _, same⟩
      subst same
      refine quiet rfl rfl ?_ nofun nofun
      change (system.core.waitSwapLock waker).frameCount = _
      unfold IsrCore.waitSwapLock
      split <;> rfl
  | poll waker =>
      rcases System.step_poll taken with ⟨_, _, same⟩
      subst same
      exact quiet rfl rfl rfl nofun nofun
  | finish =>
      rcases System.step_finish taken with ⟨_, _, same⟩
      subst same
      exact quiet rfl rfl rfl nofun nofun
  | cancel =>
      rcases System.step_cancel taken with ⟨_, same⟩
      subst same
      exact quiet rfl rfl rfl nofun nofun

theorem Launch.counting {backend : Backend} {layout : Layout}
    (launch : Launch profile backend layout) {system : System backend.Item backend.capacity}
    (run : Run (System.step profile waitCount) launch.start trace system) :
    Counting launch.count launch.position launch.pending trace system := by
  have positive : 0 < launch.count := Nat.lt_of_le_of_lt (Nat.zero_le _) launch.position_lt
  rcases launch.invariant with ⟨chain, describes, invariant⟩
  have kept := run.invariant (fun steps reached => Invariant chain reached ∧
      Counting launch.count launch.position launch.pending steps reached)
    ⟨invariant, ?_⟩ ?_
  · exact kept.2
  · refine ⟨(Nat.mod_eq_of_lt launch.position_lt).symm, rfl, rfl, ?_⟩
    have none_ended : launch.position / launch.count = 0 := Nat.div_eq_of_lt launch.position_lt
    simp only [served, flag, merged, framesEnded, walks, Nat.add_zero, none_ended]
  · rintro steps before label next ⟨table, counting⟩ taken
    exact ⟨table.step taken,
      counting.step positive (table.count_eq.trans describes.count_eq) taken⟩

/-- The GPDMA counter is exact up to merged interrupts.  In every run of either backend it is
the number of interrupts served, modulo `2 ^ 32`; and every frame that has ended has been
counted, has its interrupt pending, or ended while the interrupt of the frame before was
pending still. -/
theorem frames_accounted (profile : Profile) (waitCount : Nat) (backend : Backend) (layout : Layout)
    (launch : Launch profile backend layout) {trace : List Label}
    {system : System backend.Item backend.capacity}
    (run : Run (System.step profile waitCount) launch.start trace system) :
    system.core.frameCount = BitVec.ofNat 32 (served trace) ∧
      served trace + system.pending.toNat +
          merged launch.count launch.position launch.pending trace =
        framesEnded launch.count launch.position trace + launch.pending.toNat := by
  have counting := launch.counting run
  rw [counting.pending_eq]
  exact ⟨counting.frameCount, counting.frames⟩

/-- Two frames end before the first interrupt is served. -/
theorem frames_accounted_of_merged :
    Exists fun system => execute (System.step Profile.release 2) exampleLaunch.start
        [.walk, .walk, .walk, .walk, .walk, .isr] = some system ∧
      system.core.frameCount = 1 ∧
      served [.isr, .walk, .walk, .walk, .walk, .walk] + system.pending.toNat +
          merged 3 1 false [.isr, .walk, .walk, .walk, .walk, .walk] =
        framesEnded 3 1 [.isr, .walk, .walk, .walk, .walk, .walk] + false.toNat := by
  have runs : (execute (System.step Profile.release 2) exampleLaunch.start
      [.walk, .walk, .walk, .walk, .walk, .isr]).map System.hand = some [0x20002000] := by
    decide +kernel
  rcases Option.map_eq_some_iff.mp runs with ⟨system, executed, _⟩
  have accounted := frames_accounted Profile.release 2 .linear Layout.twoSegments exampleLaunch
    (run_of_execute executed)
  exact ⟨system, executed, accounted.1, accounted.2⟩

/-! ## How long a GPDMA swap waits -/

/-- Only the interrupt counts, and only the start of a wait sets the counter. -/
theorem System.step_counts {label : Label}
    (taken : System.step profile waitCount system label = some after) (notArm : label ≠ .arm)
    (notIsr : label ≠ .isr) :
    after.core.swapWaits = system.core.swapWaits ∧ after.core.swapDone = system.core.swapDone := by
  have polls_kept : label.Polls -> after.core.swapWaits = system.core.swapWaits ∧
      after.core.swapDone = system.core.swapDone := by
    intro polls
    rcases System.step_polls polls taken with ⟨_, _, _, _, _, done, waits, _, same⟩
    subst same
    exact ⟨waits, done⟩
  cases label with
  | walk =>
      rcases System.step_walk taken with ⟨_, _, same⟩
      exact same ▸ ⟨rfl, rfl⟩
  | isr => exact absurd rfl notIsr
  | swap fbPtr =>
      rcases System.step_swap taken with ⟨_, same⟩
      exact same ▸ ⟨rfl, rfl⟩
  | enter waker =>
      rcases System.step_enter taken with ⟨_, _, same⟩
      exact same ▸ ⟨rfl, rfl⟩
  | store =>
      rcases System.step_store taken with ⟨_, _, _, _, _, _, same⟩
      exact same ▸ ⟨rfl, rfl⟩
  | arm => exact absurd rfl notArm
  | load => exact polls_kept trivial
  | lock => exact polls_kept trivial
  | poll waker => exact polls_kept trivial
  | finish =>
      rcases System.step_finish taken with ⟨_, _, same⟩
      exact same ▸ ⟨rfl, rfl⟩
  | cancel =>
      rcases System.step_cancel taken with ⟨_, same⟩
      exact same ▸ ⟨rfl, rfl⟩

theorem served_cons_of_ne {label : Label} (notIsr : label ≠ .isr) (trace : List Label) :
    served (label :: trace) = served trace := by
  cases label with
  | isr => exact absurd rfl notIsr
  | _ => rfl

theorem served_append (later earlier : List Label) :
    served (later ++ earlier) = served later + served earlier := by
  induction later with
  | nil => exact (Nat.zero_add _).symm
  | cons label later inductionHypothesis =>
      by_cases isr : label = .isr
      · subst isr
        change served (later ++ earlier) + 1 = served later + 1 + served earlier
        omega
      · rw [List.cons_append, served_cons_of_ne isr, served_cons_of_ne isr, inductionHypothesis]

/-- Since its arming the wait has lost one count to every interrupt. -/
theorem System.waits_after {start : System I capacity} (positive : 0 < waitCount)
    (run : Run (System.step profile waitCount) start trace system) {later earlier : List Label}
    (armed : trace = later ++ .arm :: earlier) (sameWait : Label.arm ∉ later) :
    system.core.swapWaits = waitCount - served later ∧
      (system.core.swapDone = true ↔ waitCount ≤ served later) := by
  induction run generalizing later with
  | refl => exact absurd armed (by simp)
  | @snoc past before after label _ taken inductionHypothesis =>
      cases later with
      | nil =>
          rw [List.nil_append, List.cons.injEq] at armed
          rw [armed.1] at taken
          rcases System.step_arm taken with ⟨_, _, _, _, _, _, ⟨_, same⟩ | ⟨none, _⟩⟩
          · subst same
            exact ⟨rfl, iff_of_false Bool.false_ne_true (Nat.not_le.mpr positive)⟩
          · exact absurd none positive.ne'
      | cons first later =>
          rw [List.cons_append, List.cons.injEq] at armed
          have notArm : label ≠ .arm := fun same => sameWait (same ▸ armed.1 ▸ List.mem_cons_self)
          have before := inductionHypothesis armed.2 fun member =>
            sameWait (List.mem_cons_of_mem first member)
          rw [← armed.1]
          by_cases isr : label = .isr
          · subst isr
            rcases System.step_isr taken with ⟨_, core, counted, same⟩
            subst same
            change core.swapWaits = waitCount - (served later + 1) ∧
              (core.swapDone = true ↔ waitCount ≤ served later + 1)
            rcases IsrCore.onFrame_cases counted with
              ⟨unarmed, left, cell⟩ | ⟨last, left, cell⟩ | ⟨more, left, cell⟩
            · have done : core.swapDone = _ := congrArg Cell.done cell
              rw [done]
              exact ⟨by omega, before.2.trans (by omega)⟩
            · have done : core.swapDone = true := congrArg Cell.done cell
              exact ⟨by omega, iff_of_true done (by omega)⟩
            · have done : core.swapDone = _ := congrArg Cell.done cell
              rw [done]
              exact ⟨by omega, before.2.trans (by omega)⟩
          · rw [served_cons_of_ne isr, (System.step_counts taken notArm isr).1,
              (System.step_counts taken notArm isr).2]
            exact before

theorem merged_le_append (later earlier : List Label) :
    merged count position pending earlier ≤ merged count position pending (later ++ earlier) := by
  induction later with
  | nil => exact Nat.le_refl _
  | cons label later inductionHypothesis =>
      cases label with
      | walk => exact Nat.le_add_right_of_le inductionHypothesis
      | _ => exact inductionHypothesis

/-- The frames that have ended since a wait was armed are the interrupts served since, and the
merged ones, up to those that were pending at the beginning and at the end. -/
theorem Launch.frames_since {backend : Backend} {layout : Layout}
    (launch : Launch profile backend layout) {later earlier : List Label}
    {system : System backend.Item backend.capacity}
    (run : Run (System.step profile waitCount) launch.start (later ++ .arm :: earlier) system) :
    framesEnded launch.count launch.position (later ++ .arm :: earlier) +
        merged launch.count launch.position launch.pending earlier +
        (flag launch.count launch.position launch.pending earlier).toNat =
      framesEnded launch.count launch.position earlier + served later +
        merged launch.count launch.position launch.pending (later ++ .arm :: earlier) +
        system.pending.toNat := by
  have now := launch.counting run
  rcases run.earlier with ⟨armed, started⟩
  cases started with
  | snoc past _ =>
      have before := launch.counting past
      have split : served (later ++ .arm :: earlier) = served later + served earlier :=
        served_append later (.arm :: earlier)
      have frames := now.frames
      have frames_before := before.frames
      rw [split, ← now.pending_eq] at frames
      omega

/-- A wait of `waitCount` interrupts takes as many ends of a frame, less one that was pending when
it was armed. -/
theorem Launch.frames_waited {backend : Backend} {layout : Layout}
    (launch : Launch profile backend layout) {later earlier : List Label}
    {system : System backend.Item backend.capacity}
    (run : Run (System.step profile waitCount) launch.start (later ++ .arm :: earlier) system)
    (enough : waitCount ≤ served later) :
    waitCount ≤ framesEnded launch.count launch.position (later ++ .arm :: earlier) -
        framesEnded launch.count launch.position earlier +
        (flag launch.count launch.position launch.pending earlier).toNat := by
  have frames := launch.frames_since run
  have ordered : merged launch.count launch.position launch.pending earlier ≤
      merged launch.count launch.position launch.pending (later ++ .arm :: earlier) :=
    merged_le_append later (.arm :: earlier)
  omega

/-- The wait of a GPDMA swap is over with the interrupt number `waitCount` after its arming,
not before and not after, in every run of either backend.  The frames that have ended
meanwhile are these interrupts, give or take one that was pending when the wait was armed,
one that is pending now, and the ones that were merged.  So two interrupts take at least
one whole end of a frame, and one interrupt may take none. -/
theorem wait_latency (profile : Profile) {waitCount : Nat} (positive : 0 < waitCount)
    (backend : Backend) (layout : Layout) (launch : Launch profile backend layout)
    {later earlier : List Label} {system : System backend.Item backend.capacity}
    (run : Run (System.step profile waitCount) launch.start (later ++ .arm :: earlier) system)
    (sameWait : Label.arm ∉ later) :
    (system.core.swapDone = true ↔ waitCount ≤ served later) ∧
      framesEnded launch.count launch.position (later ++ .arm :: earlier) +
          merged launch.count launch.position launch.pending earlier +
          (flag launch.count launch.position launch.pending earlier).toNat =
        framesEnded launch.count launch.position earlier + served later +
          merged launch.count launch.position launch.pending (later ++ .arm :: earlier) +
          system.pending.toNat ∧
      (system.core.swapDone = true -> waitCount ≤
        framesEnded launch.count launch.position (later ++ .arm :: earlier) -
          framesEnded launch.count launch.position earlier +
          (flag launch.count launch.position launch.pending earlier).toNat) := by
  have waited := System.waits_after positive run rfl sameWait
  refine ⟨waited.2, launch.frames_since run, fun done => ?_⟩
  exact launch.frames_waited run (waited.2.mp done)

/-- The wait is armed while the interrupt of the frame before is pending, and is over after the
end of one more frame. -/
theorem wait_latency_of_pending :
    Exists fun system => execute (System.step Profile.release 2) exampleLaunch.start
        [.swap 0x20002000, .enter 7, .store, .store, .walk, .walk, .store, .arm, .isr, .walk, .walk,
          .walk, .isr] = some system ∧
      (system.core.swapDone = true ↔ 2 ≤ served [.isr, .walk, .walk, .walk, .isr]) := by
  have runs : (execute (System.step Profile.release 2) exampleLaunch.start
      [.swap 0x20002000, .enter 7, .store, .store, .walk, .walk, .store, .arm, .isr, .walk, .walk,
        .walk, .isr]).map System.hand = some [] := by decide +kernel
  rcases Option.map_eq_some_iff.mp runs with ⟨system, executed, _⟩
  have run : Run (System.step Profile.release 2) exampleLaunch.start
      ([.isr, .walk, .walk, .walk, .isr] ++ .arm :: [.store, .walk, .walk, .store, .store, .enter 7,
        .swap 0x20002000]) system := run_of_execute executed
  exact ⟨system, executed, (wait_latency Profile.release (Nat.succ_pos 1) .linear Layout.twoSegments
    exampleLaunch run (by simp)).1⟩

end Gpdma
end Driver
end Hub75
