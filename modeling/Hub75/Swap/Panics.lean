import Hub75.Swap.Delta
import Hub75.Swap.PlainExchange
import Hub75.Swap.GpdmaLiveness

namespace Hub75
namespace Driver

open Machine

/-!
# What can still panic once the driver runs

Three checks are left after the start.  With debug assertions the plain backend asserts at
every kick that the next block suits the word size of its port.  In every build the
`write_raw` that it then calls asserts that it can count the words of the block.  With
overflow checks every backend can panic in the subtraction of two addresses with which a
swap begins.

The conditions on the caller's buffers below are exactly what keeps a driver from
panicking in every run.  That they are needed is shown with runs: as long as nothing
panics, every buffer can be brought to the display and streamed to its last segment, and
any other buffer can be offered while it is displayed.
-/

/-- The subtraction of a swap panics out of reach only, and there only with overflow
checks. -/
theorem isizeSub_ok_iff {profile : Profile} {old new : Addr} :
    (Exists fun delta => isizeSub profile new old = .ok delta) ↔
      (profile.overflowChecks = true -> WithinReach old new) := by
  constructor
  · intro computed checked
    exact (isizeSub_checked_iff checked).mp computed
  · intro reach
    cases checked : profile.overflowChecks with
    | true => exact ⟨_, isizeSub_ok profile (reach checked)⟩
    | false =>
        unfold isizeSub
        rw [checked]
        split
        · exact ⟨_, rfl⟩
        · exact ⟨_, rfl⟩

/-- Any two of the buffers are within reach of each other, if the build checks it. -/
def Reaching (profile : Profile) (buffers : List Addr) : Prop :=
  profile.overflowChecks = true ->
    forall old, old ∈ buffers -> forall new, new ∈ buffers -> WithinReach old new

/-- The caller of an exchange owns every buffer afterwards but the one that is displayed. -/
theorem mem_exchanged {base wanted other : Addr} {hand : List Addr} (listed : other ∈ base :: hand)
    (different : other ≠ wanted) : other ∈ base :: hand.erase wanted := by
  rcases List.mem_cons.mp listed with same | kept
  · rw [same]
    exact List.mem_cons_self
  · exact List.mem_cons_of_mem _ ((List.mem_erase_of_ne different).mpr kept)

/-! ## The plain backend -/

namespace Dma

variable {profile : Profile} {api : ChannelApi} {layout : Layout} {core0 core : IsrCore}
  {state0 state : IsrCoreState} {system : System} {base : Addr} {hand : List Addr}
  {wordSize : WordSize} {trace : List Label}

/-- Nothing that can run in this state panics: neither the interrupt, nor the first
critical section of a swap that was called, nor the last one of a swap that is over. -/
structure Proceeds (profile : Profile) (api : ChannelApi) (system : System) : Prop where
  interrupt : Exists fun core => system.core.onDmaComplete profile api = .ok core
  queue : forall fbPtr, system.held = some fbPtr ->
    Exists fun core => system.core.swapInnerQueue profile fbPtr = .ok core
  collect : system.phase = .ready ->
    Exists fun fbPtr => system.core.swapInnerReturned = .ok fbPtr

theorem Standing.proceeds (lawful : api.Lawful)
    (standing : Standing profile layout base hand wordSize trace system state)
    (suits : forall buffer, buffer ∈ base :: hand -> Suits profile wordSize layout buffer)
    (reaching : Reaching profile (base :: hand)) : Proceeds profile api system := by
  have invariant := standing.accounts.invariant
  constructor
  · exact standing.interrupt lawful fun buffer displayable => suits buffer displayable.mem
  · intro fbPtr held
    apply (swapInnerQueue_ok_iff invariant.present).mpr
    apply isizeSub_ok_iff.mpr
    intro checked
    have token : (system.custody state).held = some fbPtr := held
    exact reaching checked _ standing.shown.mem _
      (standing.accounts.subset (Custody.held_mem_tokens token))
  · intro _
    unfold IsrCore.swapInnerReturned
    rw [invariant.present]
    exact ⟨_, rfl⟩

/-- As long as nothing panics, a driver at rest has every delta computed that its caller can
ask for. -/
theorem Resting.computed {start : System} {shown wanted : Addr} {others : List Addr} {k : Nat}
    (safe : forall system, Reachable (System.step profile api) start system ->
      Proceeds profile api system)
    (reached : Reachable (System.step profile api) start system)
    (resting : Resting layout shown others k system state) (owned : wanted ∈ others) :
    Exists fun delta => isizeSub profile wanted shown = .ok delta := by
  have member : wanted ∈ system.hand := resting.hand_eq.symm ▸ owned
  have called : System.step profile api system (.swap wanted) = some
      { system with held := some wanted, hand := system.hand.erase wanted } :=
    if_pos ⟨resting.free, resting.idle, member⟩
  have queues := (safe _ (reached.snoc called)).queue wanted rfl
  rw [← resting.shown_eq]
  exact (swapInnerQueue_ok_iff resting.invariant.present).mp queues

/-- A started plain driver panics in no run, whatever the caller does, exactly when every
segment of every buffer can be streamed to the port, and any two buffers are within reach of
each other.  To be streamed a segment passes the source checks, which are void without debug
assertions, and has a number of words that `write_raw` accepts.  The second condition is void
without overflow checks. -/
theorem never_panics_iff (profile : Profile) {api : ChannelApi} (lawful : api.Lawful)
    (layout : Layout) {core0 core : IsrCore} {state0 : IsrCoreState} {base : Addr}
    {hand : List Addr} (present : core0.state = some state0)
    (quiet : state0.channel.active = [])
    (started : core0.startFirstTransfer profile api (layout.instanceAt base) base = .ok core)
    (distinct : (base :: hand).Nodup) :
    (forall system, Reachable (System.step profile api) (System.started core hand) system ->
        Proceeds profile api system) ↔
      (forall buffer, buffer ∈ base :: hand -> Suits profile state0.wordSize layout buffer) ∧
        Reaching profile (base :: hand) := by
  constructor
  · intro safe
    have unbroken : Unbroken profile api (System.started core hand) :=
      fun system reached => (safe system reached).interrupt
    rcases Resting.initial present quiet started distinct with ⟨first, resting⟩
    have begun : Reachable (System.step profile api) (System.started core hand)
        (System.started core hand) := ⟨[], Run.refl⟩
    have displayable : forall buffer, buffer ∈ base :: hand ->
        Displayable profile (base :: hand) base buffer := by
      intro buffer member
      rcases List.mem_cons.mp member with same | owned
      · rw [same]
        exact Relation.ReflTransGen.refl
      · exact Relation.ReflTransGen.single ⟨member, resting.computed safe begun owned⟩
    constructor
    · intro buffer member
      exact (unbroken_iff lawful present quiet started distinct).mp unbroken buffer
        (displayable buffer member)
    · intro checked old oldMember new newMember
      by_cases same : new = old
      · rw [same]
        exact Or.inl Iff.rfl
      · -- While the old buffer is displayed, the caller owns all the others.
        rcases (displayable old oldMember).rests unbroken resting with
          ⟨system, reached, state, others, rests, complete⟩
        exact isizeSub_ok_iff.mp (rests.computed safe reached (complete new newMember same)) checked
  · rintro ⟨suits, reaching⟩ system ⟨trace, run⟩
    rcases Standing.run present quiet started distinct run with ⟨state, standing⟩
    exact standing.proceeds lawful suits reaching

/-- The core as `Hub75::new` initialises it, on a whole port. -/
def halfwordCore : IsrCore :=
  IsrCore.new.initState ⟨⟨[]⟩, none, 5, 0x40020814, .twoBytes, BcmState.new, 0, none, 0, 0⟩

/-- That core after `start_first_transfer` in a build with all checks. -/
def startedHalfwords : IsrCore :=
  match halfwordCore.startFirstTransfer ⟨true, true⟩ assertingApi
    (Layout.twoSegments.instanceAt 0x20000000) 0x20000000 with
  | .ok core => core
  | .error _ => halfwordCore

/-- In a build with all checks, two aligned buffers never panic, and a second buffer at an
odd address does in some run. -/
theorem never_panics_iff_of_halfwords :
    (forall system, Reachable (System.step ⟨true, true⟩ assertingApi)
        (System.started startedHalfwords [0x20002000]) system ->
          Proceeds ⟨true, true⟩ assertingApi system) ∧
      ¬ forall system, Reachable (System.step ⟨true, true⟩ assertingApi)
        (System.started startedHalfwords [0x20002001]) system ->
          Proceeds ⟨true, true⟩ assertingApi system := by
  constructor
  · apply (never_panics_iff ⟨true, true⟩ assertingApi_lawful Layout.twoSegments
      (show halfwordCore.state = some _ from rfl) rfl
      (show halfwordCore.startFirstTransfer ⟨true, true⟩ assertingApi
        (Layout.twoSegments.instanceAt 0x20000000) 0x20000000 = .ok startedHalfwords from rfl)
      (by decide)).mpr
    have countable : 0 < 64 / WordSize.twoBytes.bytes ∧
        64 / WordSize.twoBytes.bytes ≤ maxElements := by decide
    constructor
    · refine List.forall_mem_cons.mpr ⟨?_, List.forall_mem_singleton.mpr ?_⟩
      · have aligned : forall i, i < 2 ->
            ((0x20000000 : Addr) + Layout.twoSegments.offset i).toNat % 2 = 0 ∧
              Layout.twoSegments.len i % 2 = 0 := by decide
        exact fun i inside => ⟨fun _ _ => aligned i inside, countable⟩
      · have aligned : forall i, i < 2 ->
            ((0x20002000 : Addr) + Layout.twoSegments.offset i).toNat % 2 = 0 ∧
              Layout.twoSegments.len i % 2 = 0 := by decide
        exact fun i inside => ⟨fun _ _ => aligned i inside, countable⟩
    · intro _
      refine List.forall_mem_cons.mpr ⟨?_, List.forall_mem_singleton.mpr ?_⟩
      · exact List.forall_mem_cons.mpr ⟨by decide, List.forall_mem_singleton.mpr (by decide)⟩
      · exact List.forall_mem_cons.mpr ⟨by decide, List.forall_mem_singleton.mpr (by decide)⟩
  · intro safe
    have conditions := (never_panics_iff ⟨true, true⟩ assertingApi_lawful Layout.twoSegments
      (show halfwordCore.state = some _ from rfl) rfl
      (show halfwordCore.startFirstTransfer ⟨true, true⟩ assertingApi
        (Layout.twoSegments.instanceAt 0x20000000) 0x20000000 = .ok startedHalfwords from rfl)
      (by decide)).mp safe
    have odd := ((conditions.1 0x20002001 (by decide) 0 (by decide)).1 rfl rfl).1
    exact absurd odd (by decide)

end Dma

/-! ## The GPDMA backends -/

namespace Gpdma

variable {I : Type} [Descriptor I] {capacity : Nat} {profile : Profile} {waitCount : Nat}
  {chain : Chain I capacity} {start system after : System I capacity} {buffers hand : List Addr}
  {shown wanted oldPtr : Addr}

/-- Nothing that can run in this state panics: neither the interrupt nor the beginning of
a swap that was called. -/
structure Proceeds (profile : Profile) (system : System I capacity) : Prop where
  interrupt : Exists fun core => system.core.onFrame profile = .ok core
  enter : forall fbPtr, system.progress = .called fbPtr ->
    Exists fun delta => isizeSub profile fbPtr system.currentFbPtr = .ok delta

/-- The counter of the interrupt never underflows, so only the delta is left. -/
theorem Accounts.proceeds {trace : List Label} (accounts : Accounts chain buffers trace system)
    (reaching : Reaching profile buffers) : Proceeds profile system := by
  constructor
  · rcases IsrCore.onFrame_counted profile system.core with ⟨core, counted, _⟩
    exact ⟨core, counted⟩
  · intro fbPtr called
    apply isizeSub_ok_iff.mpr
    intro checked
    have held : system.custody.held = some fbPtr := by
      simp only [System.custody, called, Progress.fbPtr]
    refine reaching checked _ (accounts.subset List.mem_cons_self) _ (accounts.subset ?_)
    simp only [Custody.tokens, held, Option.toList, List.mem_cons, List.mem_append, true_or,
      or_true]

/-- The buffer at `shown` is displayed, the caller owns `hand`, and the task is as far as
`progress` says. -/
structure Displays (chain : Chain I capacity) (shown : Addr) (hand : List Addr)
    (progress : Progress) (system : System I capacity) : Prop where
  invariant : Invariant chain system
  shown_eq : system.currentFbPtr = shown
  hand_eq : system.hand = hand
  progress_eq : system.progress = progress

variable {progress : Progress}

/-- The channel goes on until an interrupt is pending. -/
theorem Displays.raises (reached : Reachable (System.step profile waitCount) start system)
    (displays : Displays chain shown hand progress system) :
    Exists fun later => Reachable (System.step profile waitCount) start later ∧
      Displays chain shown hand progress later ∧ later.pending = true ∧
      later.core = system.core := by
  have inside := displays.invariant.position
  have distance : Exists fun n => system.walker.index + n + 1 = chain.count :=
    ⟨chain.count - 1 - system.walker.index, by omega⟩
  rcases distance with ⟨n, distance⟩
  induction n generalizing system with
  | zero =>
      rcases displays.invariant.walks with ⟨after, taken⟩
      rcases System.step_walk taken with ⟨_, _, same⟩
      have preserved := displays.invariant.step_walk taken
      have terminal : system.walker.index + 1 = system.descriptorCount :=
        distance.trans displays.invariant.count_eq.symm
      subst same
      refine ⟨_, reached.snoc taken, ⟨preserved, displays.shown_eq, displays.hand_eq,
        displays.progress_eq⟩, ?_, rfl⟩
      simp only [terminal, decide_true, Bool.or_true]
  | succ n inductionHypothesis =>
      rcases displays.invariant.walks with ⟨after, taken⟩
      rcases System.step_walk taken with ⟨_, _, same⟩
      have preserved := displays.invariant.step_walk taken
      have next : system.nextIndex system.walker.index = system.walker.index + 1 := by
        unfold System.nextIndex
        rw [displays.invariant.count_eq, if_neg (by omega)]
      subst same
      have closer : system.nextIndex system.walker.index + n + 1 = chain.count := by omega
      have further := inductionHypothesis (reached.snoc taken)
        ⟨preserved, displays.shown_eq, displays.hand_eq, displays.progress_eq⟩
        preserved.position closer
      exact further

/-- Interrupts count the wait of the task down to its end. -/
theorem Displays.counts_down {waker : Nat}
    (reached : Reachable (System.step profile waitCount) start system)
    (displays : Displays chain shown hand (.waiting oldPtr (.started waker)) system)
    (waits : system.core.swapWaits = 0 -> system.core.swapDone = true) :
    Exists fun later => Reachable (System.step profile waitCount) start later ∧
      Displays chain shown hand (.waiting oldPtr (.started waker)) later ∧
      later.core.swapDone = true := by
  generalize left : system.core.swapWaits = n at waits
  induction n generalizing system with
  | zero => exact ⟨system, reached, displays, waits rfl⟩
  | succ n inductionHypothesis =>
      rcases displays.raises reached with ⟨raised, reaches, waiting, pending, core⟩
      rcases IsrCore.onFrame_counted profile raised.core with ⟨counted, served, effect⟩
      have taken : System.step profile waitCount raised .isr =
          some { raised with core := counted, pending := false } := by
        simp only [System.step, pending, if_true, served]
      have preserved := waiting.invariant.step taken
      have count : raised.core.swapWaits = n + 1 := by
        rw [core]
        exact left
      refine inductionHypothesis (reaches.snoc taken) ⟨preserved, waiting.shown_eq,
        waiting.hand_eq, waiting.progress_eq⟩ ?_ ?_
      · change counted.swapWaits = n
        rcases effect with ⟨none, _⟩ | ⟨_, gone, _⟩ | ⟨_, fewer, _⟩ <;> omega
      · intro last
        rcases effect with ⟨none, _⟩ | ⟨_, _, cell⟩ | ⟨more, _⟩
        · omega
        · exact congrArg Cell.done cell
        · omega

/-- The patch loop runs to its end. -/
theorem Displays.stores {delta : Addr} {next waker : Nat}
    (reached : Reachable (System.step profile waitCount) start system)
    (displays : Displays chain shown hand (.patching oldPtr delta next waker) system) :
    Exists fun later => Reachable (System.step profile waitCount) start later ∧
      Exists fun last => Displays chain shown hand (.patching oldPtr delta last waker) later ∧
        later.patchCount ≤ last := by
  generalize left : chain.count - next = n
  induction n generalizing system next with
  | zero =>
      refine ⟨system, reached, next, displays, ?_⟩
      rw [displays.invariant.patchCount_eq]
      omega
  | succ n inductionHypothesis =>
      have more : next < system.patchCount := by
        rw [displays.invariant.patchCount_eq]
        omega
      have taken : System.step profile waitCount system .store = some { system with
          items := patchItem system.items delta next
          progress := .patching oldPtr delta (next + 1) waker } := by
        simp only [System.step, displays.progress_eq, if_pos more]
      have preserved := displays.invariant.step taken
      exact inductionHypothesis (reached.snoc taken) ⟨preserved, displays.shown_eq,
        displays.hand_eq, rfl⟩ (by omega)

/-- The wait after the patch loop can come to its end. -/
theorem Displays.readied {delta : Addr} {next waker : Nat}
    (reached : Reachable (System.step profile waitCount) start system)
    (displays : Displays chain shown hand (.patching oldPtr delta next waker) system)
    (last : system.patchCount ≤ next) :
    Exists fun later => Reachable (System.step profile waitCount) start later ∧
      Displays chain shown hand (.waiting oldPtr .ready) later := by
  by_cases waits : waitCount ≠ 0
  · have taken : System.step profile waitCount system .arm = some { system with
        core := system.core.waitSwapArm waitCount
        progress := .waiting oldPtr (.started waker) } := by
      simp only [System.step, displays.progress_eq, if_neg (Nat.not_lt_of_le last), if_pos waits]
    have preserved := displays.invariant.step taken
    have armed : Displays chain shown hand (.waiting oldPtr (.started waker)) { system with
        core := system.core.waitSwapArm waitCount
        progress := .waiting oldPtr (.started waker) } :=
      ⟨preserved, displays.shown_eq, displays.hand_eq, rfl⟩
    rcases armed.counts_down (reached.snoc taken) fun none => absurd none waits with
      ⟨later, reaches, waiting, done⟩
    have loaded : System.step profile waitCount later .load =
        some { later with progress := .waiting oldPtr .ready } := by
      have raised : later.core.cell.done = true := done
      simp only [System.step, waiting.progress_eq, Cell.loadPhase, raised, if_true]
    exact ⟨_, reaches.snoc loaded, waiting.invariant.step loaded, waiting.shown_eq,
      waiting.hand_eq, rfl⟩
  · have taken : System.step profile waitCount system .arm =
        some { system with progress := .waiting oldPtr .ready } := by
      simp only [System.step, displays.progress_eq, if_neg (Nat.not_lt_of_le last), if_neg waits]
    exact ⟨_, reached.snoc taken, displays.invariant.step taken, displays.shown_eq,
      displays.hand_eq, rfl⟩

/-- A buffer of the caller can be brought to the display, in exchange for the displayed
one. -/
theorem Displays.exchange
    (safe : forall system, Reachable (System.step profile waitCount) start system ->
      Proceeds profile system)
    (reached : Reachable (System.step profile waitCount) start system)
    (displays : Displays chain shown hand .idle system) (owned : wanted ∈ hand) :
    Exists fun later => Reachable (System.step profile waitCount) start later ∧
      Displays chain wanted (shown :: hand.erase wanted) .idle later := by
  have member : wanted ∈ system.hand := displays.hand_eq.symm ▸ owned
  have called : System.step profile waitCount system (.swap wanted) = some
      { system with progress := .called wanted, hand := system.hand.erase wanted } :=
    if_pos ⟨displays.progress_eq, member⟩
  have offered := reached.snoc called
  have calling := displays.invariant.step called
  rcases (safe _ offered).enter wanted rfl with ⟨delta, subtracted⟩
  have subtracts : isizeSub profile wanted system.currentFbPtr = .ok delta := subtracted
  have entered : Exists fun next => System.step profile waitCount
      { system with progress := .called wanted, hand := system.hand.erase wanted } (.enter 0) =
        some { system with
          currentFbPtr := wanted
          progress := .patching system.currentFbPtr delta next 0
          hand := system.hand.erase wanted } := by
    simp only [System.step, subtracts]
    exact ⟨_, rfl⟩
  rcases entered with ⟨next, entered⟩
  have patching : Displays chain wanted (hand.erase wanted) (.patching shown delta next 0)
      { system with
        currentFbPtr := wanted
        progress := .patching system.currentFbPtr delta next 0
        hand := system.hand.erase wanted } := by
    refine ⟨calling.step entered, rfl, ?_, ?_⟩
    · rw [displays.hand_eq]
    · rw [displays.shown_eq]
  rcases patching.stores (offered.snoc entered) with ⟨patched, reaches, last, stored, done⟩
  rcases stored.readied reaches done with ⟨later, arrived, ready⟩
  have finished : System.step profile waitCount later .finish =
      some { later with progress := .idle, hand := shown :: later.hand } := by
    simp only [System.step, ready.progress_eq]
  refine ⟨_, arrived.snoc finished, ready.invariant.step finished, ready.shown_eq, ?_, rfl⟩
  rw [ready.hand_eq]

/-- A launched GPDMA driver panics in no run, whatever the caller does, exactly when any
two of its buffers are within reach of each other or the build does not check it.  The
buffers that come after the first one are not asked for their alignment any more. -/
theorem launched_never_panics_iff (profile : Profile) (waitCount : Nat) (backend : Backend)
    (layout : Layout) (launch : Launch profile backend layout) :
    (forall system, Reachable (System.step profile waitCount) launch.start system ->
        Proceeds profile system) ↔ Reaching profile (launch.base :: launch.hand) := by
  constructor
  · intro safe checked old oldMember new newMember
    rcases launch.invariant with ⟨chain, _, initially⟩
    have begun : Reachable (System.step profile waitCount) launch.start launch.start :=
      ⟨[], Run.refl⟩
    have rests : Displays chain launch.base launch.hand .idle launch.start :=
      ⟨initially, rfl, rfl, rfl⟩
    -- While the old buffer is displayed, the caller owns all the others.
    have displayed : Exists fun system =>
        Reachable (System.step profile waitCount) launch.start system ∧
        Exists fun others => Displays chain old others .idle system ∧
          (new ≠ old -> new ∈ others) := by
      rcases List.mem_cons.mp oldMember with same | owned
      · subst same
        exact ⟨_, begun, _, rests, (List.mem_cons.mp newMember).resolve_left⟩
      · rcases rests.exchange safe begun owned with ⟨later, reached, exchanged⟩
        exact ⟨later, reached, _, exchanged, mem_exchanged newMember⟩
    by_cases same : new = old
    · rw [same]
      exact Or.inl Iff.rfl
    · rcases displayed with ⟨system, reached, others, displays, complete⟩
      have owned : new ∈ system.hand := displays.hand_eq.symm ▸ complete same
      have called : System.step profile waitCount system (.swap new) = some
          { system with progress := .called new, hand := system.hand.erase new } :=
        if_pos ⟨displays.progress_eq, owned⟩
      have enters := (safe _ (reached.snoc called)).enter new rfl
      rw [← displays.shown_eq]
      exact isizeSub_ok_iff.mp enters checked
  · intro reaching system reached
    rcases reached with ⟨trace, run⟩
    rcases launch.accounts with ⟨chain, initially⟩
    exact (initially.run run).proceeds reaching

/-- The same table, built with all checks. -/
def checkedBuild : Except Panic (Vector LinearItem maxDescriptors × Nat) :=
  buildItemChain ⟨true, true⟩ Registers.linearApi 0x20010000
    (Vector.replicate maxDescriptors zeroedLinearItem) (Layout.twoSegments.instanceAt 0x20000000)
    0x40020815 .oneByte 5

def checkedItems : Vector LinearItem maxDescriptors :=
  (checkedBuild.toOption.map Prod.fst).getD (Vector.replicate maxDescriptors zeroedLinearItem)

theorem checkedBuild_eq : checkedBuild = .ok (checkedItems, 3) := by
  have count : checkedBuild.toOption.map Prod.snd = some 3 := by decide +kernel
  unfold checkedItems
  cases built : checkedBuild with
  | error panic =>
      rw [built] at count
      cases count
  | ok result =>
      rw [built] at count
      rw [← Option.some.inj count]
      rfl

/-- A launch with a second buffer in external memory. -/
def externalLaunch : Launch ⟨true, true⟩ .linear Layout.twoSegments where
  api := Registers.linearApi
  reading := Registers.linearReading
  lawful := Registers.linear_lawful
  address := 0x20010000
  items0 := Vector.replicate maxDescriptors zeroedLinearItem
  base := 0x20000000
  odrAddr := 0x40020815
  wordSize := .oneByte
  request := 5
  items := checkedItems
  count := 3
  built := checkedBuild_eq
  hand := [0x90000000]
  distinct := by decide
  position := 0
  position_lt := by decide
  pending := false

/-- A swap from internal to external memory panics in a build with overflow checks. -/
theorem launched_never_panics_iff_of_external :
    ¬ forall system, Reachable (System.step ⟨true, true⟩ 2) externalLaunch.start system ->
      Proceeds ⟨true, true⟩ system := by
  intro safe
  have reaching := (launched_never_panics_iff ⟨true, true⟩ 2 .linear Layout.twoSegments
    externalLaunch).mp safe
  have reach := reaching rfl 0x20000000 List.mem_cons_self 0x90000000
    (List.mem_cons_of_mem _ List.mem_cons_self)
  exact absurd reach (by decide)

end Gpdma

end Driver
end Hub75
