import Hub75.Swap.GpdmaChannel
import Hub75.Swap.Ledger
import Hub75.Scan.Writes
import Hub75.Machine.Relay

namespace Hub75
namespace Driver
namespace Gpdma

open Machine

/-!
# What the GPDMA backends show

A GPDMA swap may change over in the middle of a frame, so a frame can show two
pictures.  A block never does, and it never shows what the caller is drawing: while a
buffer is not the caller's it contains what was handed over with it last, and with two
waits the channel reads no other.  So the output consists of blocks, in the order of the
scan and each of a picture as it was handed over.
-/

variable {profile : Profile} {waitCount size : Nat} {backend : Backend} {layout : Layout}
  {launch : Launch profile backend layout} {chain : Chain backend.Item backend.capacity}

/-! ## Pictures handed over -/

section Handing

variable {I : Type} [Descriptor I] {capacity : Nat} {panel after : Panel I capacity}
  {buffers : List Addr} {first : Addr × ByteMemory 32}

/-- Every buffer that is not the caller's contains the picture handed over with it
last. -/
def Kept (size : Nat) (buffers : List Addr) (first : Addr × ByteMemory 32)
    (panel : Panel I capacity) : Prop :=
  forall buffer, buffer ∈ buffers -> buffer ∉ panel.system.hand ->
    (panel.handed ++ [first]).lookup buffer = some (panel.memory.contents size buffer)

omit [Descriptor I] in
/-- What was handed over last was handed over. -/
theorem Kept.known (kept : Kept size buffers first panel) {buffer : Addr} (member : buffer ∈ buffers)
    (unowned : buffer ∉ panel.system.hand) :
    panel.memory.contents size buffer ∈ panel.handed.map Prod.snd ++ [first.2] := by
  have found := kept buffer member unowned
  have entry : (buffer, panel.memory.contents size buffer) ∈ panel.handed ++ [first] := by
    rcases List.lookup_eq_some_iff.mp found with ⟨_, _, split, _⟩
    rw [split]
    exact List.mem_append_right _ List.mem_cons_self
  have shown := List.mem_map_of_mem (f := Prod.snd) entry
  rw [List.map_append] at shown
  exact shown

/-- What a step does to the caller's hand: a call takes a buffer out of it, and no other
step takes anything. -/
theorem System.step_hand {system next : System I capacity} {label : Label}
    (taken : System.step profile waitCount system label = some next) :
    (Exists fun fbPtr => label = .swap fbPtr ∧ next.hand = system.hand.erase fbPtr) ∨
      ((forall fbPtr, label ≠ .swap fbPtr) ∧ system.hand ⊆ next.hand) := by
  have polls_kept : label.Polls -> system.hand ⊆ next.hand := by
    intro polls
    rcases System.step_polls polls taken with ⟨_, _, _, _, _, _, _, _, same⟩
    rw [same]
    exact List.Subset.refl _
  cases label with
  | walk =>
      rcases System.step_walk taken with ⟨_, _, same⟩
      exact Or.inr ⟨nofun, same ▸ List.Subset.refl _⟩
  | isr =>
      rcases System.step_isr taken with ⟨_, _, _, same⟩
      exact Or.inr ⟨nofun, same ▸ List.Subset.refl _⟩
  | swap fbPtr =>
      rcases System.step_swap taken with ⟨_, same⟩
      exact Or.inl ⟨fbPtr, rfl, congrArg System.hand same⟩
  | enter waker =>
      rcases System.step_enter taken with ⟨_, _, same⟩
      exact Or.inr ⟨nofun, same ▸ List.Subset.refl _⟩
  | store =>
      rcases System.step_store taken with ⟨_, _, _, _, _, _, same⟩
      exact Or.inr ⟨nofun, same ▸ List.Subset.refl _⟩
  | arm =>
      rcases System.step_arm taken with ⟨_, _, _, _, _, _, ⟨_, same⟩ | ⟨_, same⟩⟩
      · exact Or.inr ⟨nofun, same ▸ List.Subset.refl _⟩
      · exact Or.inr ⟨nofun, same ▸ List.Subset.refl _⟩
  | load => exact Or.inr ⟨nofun, polls_kept trivial⟩
  | lock => exact Or.inr ⟨nofun, polls_kept trivial⟩
  | poll waker => exact Or.inr ⟨nofun, polls_kept trivial⟩
  | finish =>
      rcases System.step_finish taken with ⟨_, _, same⟩
      exact Or.inr ⟨nofun, same ▸ List.subset_cons_self _ _⟩
  | cancel =>
      rcases System.step_cancel taken with ⟨_, same⟩
      exact Or.inr ⟨nofun, same ▸ List.Subset.refl _⟩

variable {setup : ChannelSetup I}

theorem Kept.step_driver {label : Label} (kept : Kept size buffers first panel)
    (taken : Panel.step profile waitCount setup size panel (.driver label) = some after) :
    Kept size buffers first after := by
  rcases Panel.step_driver taken with ⟨_, system, moved, same⟩
  subst same
  intro buffer member unowned
  rcases System.step_hand moved with ⟨fbPtr, called, hand⟩ | ⟨quiet, hand⟩
  · subst called
    by_cases handedNow : buffer = fbPtr
    · subst handedNow
      exact List.lookup_cons_self
    · have before : buffer ∉ panel.system.hand := by
        intro owned
        apply unowned
        rw [hand]
        exact (List.mem_erase_of_ne handedNow).mpr owned
      have other : (buffer == fbPtr) = false := beq_false_of_ne handedNow
      change ((fbPtr, panel.memory.contents size fbPtr) :: (panel.handed ++ [first])).lookup buffer = _
      rw [List.lookup_cons, other]
      exact kept buffer member before
  · have nothing : panel.gives size label = [] := by
      cases label with
      | swap fbPtr => exact absurd rfl (quiet fbPtr)
      | _ => rfl
    change (panel.gives size label ++ panel.handed ++ [first]).lookup buffer = _
    rw [nothing]
    exact kept buffer member fun owned => unowned (hand owned)

end Handing

/-! ## The scan -/

/-- The blocks that have ended. -/
def blocks : List PanelLabel -> Nat
  | [] => 0
  | .block :: trace => blocks trace + 1
  | _ :: trace => blocks trace

/-- The place in the scan at which the channel was started. -/
def Launch.place (launch : Launch profile backend layout) : Nat :=
  (Cursor.mk launch.position 0).position (backend.weight layout)

/-- The channel follows the scan.  Every block that has ended has moved it on by one visit,
and the item in flight comes from the table of one of the buffers. -/
structure Scans (launch : Launch profile backend layout)
    (chain : Chain backend.Item backend.capacity) (buffers : List Addr) (trace : List PanelLabel)
    (steps : List Label) (panel : Panel backend.Item backend.capacity)
    (system : System backend.Item backend.capacity) : Prop where
  mirrors : Mirrors launch chain trace steps panel system
  accounts : Accounts chain buffers steps system
  buffer : Exists fun buffer => buffer ∈ buffers ∧
    system.walker.source = buffer + backend.offset layout system.walker.index
  place : (launch.place + blocks trace) % (weighted layout.reps layout.count).length =
    (Cursor.mk system.walker.index panel.channel.repeats).position (backend.weight layout)

variable {panel after : Panel backend.Item backend.capacity}
  {system : System backend.Item backend.capacity} {buffers : List Addr} {first : ByteMemory 32}
  {trace : List PanelLabel} {steps : List Label}

theorem Mirrors.hand_eq (mirrors : Mirrors launch chain trace steps panel system) :
    system.hand = panel.system.hand := by rw [mirrors.system_eq]

theorem Mirrors.valid (mirrors : Mirrors launch chain trace steps panel system) :
    (Cursor.mk system.walker.index panel.channel.repeats).Valid (backend.weight layout)
      launch.count := by
  rcases mirrors.written with ⟨_, written, _⟩
  exact ⟨written.active, mirrors.repeats⟩

/-- One frame of the scan has as many visits as the items of the table together. -/
theorem Launch.length_scan (launch : Launch profile backend layout) :
    (weighted layout.reps layout.count).length =
      ∑ i ∈ Finset.range launch.count, backend.weight layout i := by
  rw [← Backend.map_segment launch.built, List.length_map, length_weighted]

/-- The segment in flight is the one that the scan has come to. -/
theorem Scans.segment (scans : Scans launch chain buffers trace steps panel system) :
    (weighted layout.reps layout.count)[(launch.place + blocks trace) %
        (weighted layout.reps layout.count).length]? =
      some (backend.segment layout system.walker.index) := by
  rw [scans.place, ← Backend.map_segment launch.built, List.getElem?_map,
    scans.mirrors.valid.weighted_position]
  rfl

theorem Scans.hand_subset (scans : Scans launch chain buffers trace steps panel system) :
    panel.system.hand ⊆ buffers := by
  have places : system.custody.hand ⊆ system.custody.tokens := Custody.hand_subset_tokens
  rw [← scans.mirrors.hand_eq]
  exact List.Subset.trans places scans.accounts.subset

/-- Calls and interrupts leave the place alone. -/
theorem Scans.step_driver {label : Label}
    (scans : Scans launch chain buffers trace steps panel system)
    (taken : Panel.step profile waitCount launch.setup size panel (.driver label) = some after) :
    Exists fun next => System.step profile waitCount system label = some next ∧
      next.walker = system.walker ∧
      Scans launch chain buffers (.driver label :: trace) (label :: steps) after next := by
  rcases scans.mirrors.step_driver taken with ⟨next, moved, walker, mirrors⟩
  refine ⟨next, moved, walker, mirrors, scans.accounts.step moved, walker.symm ▸ scans.buffer, ?_⟩
  rcases Panel.step_driver taken with ⟨_, _, _, same⟩
  rw [walker, same]
  exact scans.place

/-- So do drawing and fetching. -/
theorem Scans.of_same {label : PanelLabel}
    (scans : Scans launch chain buffers trace steps panel system)
    (sameSystem : after.system = panel.system) (sameChannel : after.channel = panel.channel)
    (silent : drivers (label :: trace) = drivers trace)
    (stays : blocks (label :: trace) = blocks trace) :
    Scans launch chain buffers (label :: trace) steps after system where
  mirrors := scans.mirrors.of_same sameSystem sameChannel silent
  accounts := scans.accounts
  buffer := scans.buffer
  place := by
    rw [stays, sameChannel]
    exact scans.place

/-- After a block the scan has moved on by one visit. -/
theorem Launch.place_moves (launch : Launch profile backend layout) {cursor : Cursor} {visits : Nat}
    (valid : cursor.Valid (backend.weight layout) launch.count)
    (place : (launch.place + visits) % (weighted layout.reps layout.count).length =
      cursor.position (backend.weight layout)) :
    (launch.place + (visits + 1)) % (weighted layout.reps layout.count).length =
      (cursor.advance (backend.weight layout) launch.count).1.position (backend.weight layout) := by
  have positive : forall i, i < launch.count -> 0 < backend.weight layout i :=
    fun i active => (Backend.segment_lt launch.built active).2
  rw [valid.advance_position positive, ← place, launch.length_scan, Nat.mod_add_mod, Nat.add_assoc]

/-- After its last visit the cursor goes on to the next item. -/
theorem advance_last {weight : Nat -> Nat} {n : Nat} {cursor : Cursor} (active : cursor.index < n)
    (last : weight cursor.index ≤ cursor.rep + 1) :
    (cursor.advance weight n).1 = ⟨nextSlot n cursor.index, 0⟩ := by
  unfold Cursor.advance nextSlot
  rw [if_pos last]
  by_cases wraps : cursor.index + 1 = n
  · rw [if_pos wraps, if_pos (Nat.le_of_eq wraps.symm)]
    rfl
  · rw [if_neg wraps, if_neg (by omega)]

/-- Every table entry belongs to a buffer that is in some place. -/
theorem System.target_mem_tokens {I : Type} [Descriptor I] {capacity : Nat}
    (system : System I capacity) (i : Nat) : system.target i ∈ system.custody.tokens := by
  have shown : system.currentFbPtr ∈ system.custody.tokens := List.mem_cons_self
  unfold System.target
  split
  · next oldPtr delta next waker patching =>
      split
      · exact shown
      · refine List.mem_cons_of_mem _ (List.mem_append_right _ (List.mem_append_left _ ?_))
        simp only [System.custody, patching, Progress.oldPtr, Option.toList, List.mem_singleton]
  · exact shown

/-- The end of a block repeats the item or loads the next one. -/
theorem Scans.step_block (placement : Placement launch.address backend.itemSize backend.capacity)
    (describes : Describes chain (backend.offset layout) launch.rebuild launch.items launch.count
      launch.base) (scans : Scans launch chain buffers trace steps panel system)
    (taken : Panel.step profile waitCount launch.setup size panel .block = some after) :
    Scans launch chain buffers (.block :: trace) steps after system ∨
      Exists fun next => System.step profile waitCount system .walk = some next ∧
        Scans launch chain buffers (.block :: trace) (.walk :: steps) after next := by
  have valid := scans.mirrors.valid
  have moves := launch.place_moves valid scans.place
  rcases scans.mirrors.step_block placement describes taken with
    ⟨more, repeats, still⟩ | ⟨ended, zero, next, walked, still⟩
  · have again : ((Cursor.mk system.walker.index panel.channel.repeats).advance
        (backend.weight layout) launch.count).1 =
          ⟨system.walker.index, panel.channel.repeats + 1⟩ := by
      unfold Cursor.advance
      rw [if_neg (Nat.not_le.mpr more)]
    rw [again, ← repeats] at moves
    exact Or.inl ⟨still, scans.accounts, scans.buffer, moves⟩
  · have onward : ((Cursor.mk system.walker.index panel.channel.repeats).advance
        (backend.weight layout) launch.count).1 =
          ⟨nextSlot launch.count system.walker.index, 0⟩ :=
      advance_last valid.index_lt (Nat.le_of_eq ended)
    have index : next.walker.index = nextSlot launch.count system.walker.index := by
      have count : system.descriptorCount = launch.count :=
        scans.mirrors.invariant.count_eq.trans describes.count_eq
      rcases System.step_walk walked with ⟨_, _, same⟩
      rw [same]
      unfold System.nextIndex nextSlot
      rw [count]
    have reads := scans.mirrors.invariant.walk_reads walked
    have target := scans.accounts.subset (system.target_mem_tokens next.walker.index)
    rw [onward, ← index, ← zero] at moves
    exact Or.inr ⟨next, walked, still, scans.accounts.step walked,
      ⟨system.target next.walker.index, target, describes.offset_eq ▸ reads⟩, moves⟩

theorem Scans.answers {label : PanelLabel}
    (placement : Placement launch.address backend.itemSize backend.capacity)
    (describes : Describes chain (backend.offset layout) launch.rebuild launch.items launch.count
      launch.base) (scans : Scans launch chain buffers trace steps panel system)
    (taken : Panel.step profile waitCount launch.setup size panel label = some after) :
    Exists fun more => Exists fun next => Run (System.step profile waitCount) system more next ∧
      Scans launch chain buffers (label :: trace) (more ++ steps) after next := by
  cases label with
  | driver label =>
      rcases scans.step_driver taken with ⟨next, moved, _, still⟩
      exact ⟨[label], next, Run.refl.snoc moved, still⟩
  | draw fbPtr offset byte =>
      rcases Panel.step_draw taken with ⟨_, same⟩
      exact ⟨[], system, .refl, scans.of_same (by rw [same]) (by rw [same]) rfl rfl⟩
  | fetch =>
      rcases Panel.step_fetch taken with ⟨_, same⟩
      exact ⟨[], system, .refl, scans.of_same (by rw [same]) (by rw [same]) rfl rfl⟩
  | block =>
      rcases scans.step_block placement describes taken with still | ⟨next, walked, still⟩
      · exact ⟨[], system, .refl, still⟩
      · exact ⟨[.walk], next, Run.refl.snoc walked, still⟩

/-- The channel starts on the beginning of a segment of the first buffer. -/
theorem Launch.source_eq (launch : Launch profile backend layout)
    (describes : Describes chain (backend.offset layout) launch.rebuild launch.items launch.count
      launch.base) {d : backend.Item} (loaded : launch.items[launch.position]? = some d) :
    launch.start.walker.source = launch.base + backend.offset layout launch.position := by
  have entry : (chain.table launch.base)[launch.position]? = some d := by
    rw [describes.table_eq]
    exact loaded
  have source : launch.start.walker.source = Descriptor.sar d := by
    simp only [Launch.start, System.started, loaded, Option.map_some, Option.getD_some]
  exact source.trans (Launch.table_written describes launch.position_lt entry).encodes.sar

theorem Launch.scans (launch : Launch profile backend layout)
    (describes : Describes chain (backend.offset layout) launch.rebuild launch.items launch.count
      launch.base) (invariant : Invariant chain launch.start) {d : backend.Item}
    (loaded : launch.items[launch.position]? = some d) (memory : ByteMemory 32) :
    Scans launch chain (launch.base :: launch.hand) [] [] (Panel.started launch.start d memory)
      launch.start := by
  have mirrors := launch.mirrors describes invariant loaded memory
  have source := launch.source_eq describes loaded
  refine ⟨mirrors, ⟨invariant, List.Subset.refl _, rfl⟩, ⟨launch.base, List.mem_cons_self, source⟩, ?_⟩
  rw [launch.length_scan]
  exact Nat.mod_eq_of_lt mirrors.valid.position_lt

/-- The channel follows the scan in every run. -/
theorem Scans.run (launch : Launch profile backend layout) (memory : ByteMemory 32)
    (placement : Placement launch.address backend.itemSize backend.capacity) {d : backend.Item}
    (loaded : launch.items[launch.position]? = some d)
    (run : Run (Panel.step profile waitCount launch.setup size)
      (Panel.started launch.start d memory) trace panel) :
    Exists fun chain => Exists fun steps => Exists fun system =>
      Describes chain (backend.offset layout) launch.rebuild launch.items launch.count launch.base ∧
      Scans launch chain (launch.base :: launch.hand) trace steps panel system := by
  rcases launch.invariant with ⟨chain, describes, invariant⟩
  have simulated : Simulated (System.step profile waitCount) launch.start
      (Scans launch chain (launch.base :: launch.hand)) trace panel :=
    Simulated.run (launch.scans describes invariant loaded memory)
      (fun _ _ _ _ _ _ scans taken => scans.answers placement describes taken) run
  rcases simulated with ⟨steps, system, _, scans⟩
  exact ⟨chain, steps, system, describes, scans⟩

/-! ## The relation between output and driver -/

/-- What a visit of a segment emits. -/
def Launch.block (launch : Launch profile backend layout) (i : Nat) (picture : ByteMemory 32) :
    List Write :=
  layout.segmentWrites launch.wordSize launch.odrAddr picture i

/-- The output up to the block in flight, which comes from the given buffer. -/
def Aired (launch : Launch profile backend layout) (size : Nat) (first : ByteMemory 32)
    (panel : Panel backend.Item backend.capacity) (ended index : Nat) (buffer : Addr) : Prop :=
  Exists fun visits => visits.length = ended ∧
    Relays (weighted layout.reps layout.count) launch.place launch.block
      (panel.handed.map Prod.snd ++ [first]) panel.output visits (backend.segment layout index)
      (panel.memory.contents size buffer) panel.fetched

structure Airs (launch : Launch profile backend layout)
    (chain : Chain backend.Item backend.capacity) (waitCount size : Nat) (buffers : List Addr)
    (first : ByteMemory 32) (trace : List PanelLabel) (steps : List Label)
    (panel : Panel backend.Item backend.capacity) (system : System backend.Item backend.capacity) :
    Prop where
  scans : Scans launch chain buffers trace steps panel system
  following : Following waitCount chain steps system
  kept : Kept size buffers (launch.base, first) panel
  aired : Exists fun buffer => buffer ∈ buffers ∧
    system.walker.source = buffer + backend.offset layout system.walker.index ∧
    Aired launch size first panel (blocks trace) system.walker.index buffer

/-- The buffer in flight is not the caller's. -/
theorem Following.unowned (following : Following waitCount chain steps system)
    (twice : 2 ≤ waitCount) {buffer : Addr}
    (source : system.walker.source = buffer + chain.offset system.walker.index) :
    buffer ∉ system.hand := by
  rcases following.released (Or.inl twice) with ⟨other, reads, unowned⟩
  have same : buffer = other := by
    have sums : buffer + chain.offset system.walker.index =
        other + chain.offset system.walker.index := source.symm.trans reads
    exact add_right_cancel sums
  exact same ▸ unowned

theorem Airs.step_draw {fbPtr offset : Addr} {byte : BitVec 8} (twice : 2 ≤ waitCount)
    (describes : Describes chain (backend.offset layout) launch.rebuild launch.items launch.count
      launch.base) (apart : buffers.Pairwise (ByteMemory.Apart size))
    (airs : Airs launch chain waitCount size buffers first trace steps panel system)
    (taken : Panel.step profile waitCount launch.setup size panel (.draw fbPtr offset byte) =
      some after) :
    Airs launch chain waitCount size buffers first (.draw fbPtr offset byte :: trace) steps after
      system := by
  rcases Panel.step_draw taken with ⟨⟨owned, inside⟩, same⟩
  rcases airs.aired with ⟨buffer, member, source, visits, length, relays⟩
  have unowned := airs.following.unowned twice (describes.offset_eq.symm ▸ source)
  rw [airs.scans.mirrors.hand_eq] at unowned
  have same_contents : forall other, other ∈ buffers -> other ∉ panel.system.hand ->
      (panel.memory.store 1 (fbPtr + offset) byte).contents size other =
        panel.memory.contents size other :=
    fun _ => panel.memory.contents_store_owned apart airs.scans.hand_subset owned byte (by omega)
  subst same
  exact {
    scans := airs.scans.of_same rfl rfl rfl rfl
    following := airs.following
    kept := fun other known free => (airs.kept other known free).trans
      (congrArg some (same_contents other known free).symm)
    aired := by
      refine ⟨buffer, member, source, visits, length, ?_⟩
      change Relays _ _ _ _ _ _ _ ((panel.memory.store 1 (fbPtr + offset) byte).contents size buffer) _
      rw [same_contents buffer member unowned]
      exact relays }

/-- The words of the block in flight. -/
theorem Mirrors.words_eq (mirrors : Mirrors launch chain trace steps panel system)
    (whole : forall i, i < layout.count -> layout.len i % launch.wordSize.bytes = 0) :
    launch.setup.words panel.channel.registers =
      layout.len (backend.segment layout system.walker.index) / launch.wordSize.bytes :=
  congrArg (· / launch.wordSize.bytes) (congrArg Prod.snd (mirrors.block_eq whole))

/-- The word that is fetched is the next word of the segment. -/
theorem Airs.step_fetch (within : layout.Within size)
    (whole : forall i, i < layout.count -> layout.len i % launch.wordSize.bytes = 0)
    (airs : Airs launch chain waitCount size buffers first trace steps panel system)
    (taken : Panel.step profile waitCount launch.setup size panel .fetch = some after) :
    Airs launch chain waitCount size buffers first (.fetch :: trace) steps after system := by
  have mirrors := airs.scans.mirrors
  rcases Panel.step_fetch taken with ⟨more, same⟩
  rcases airs.aired with ⟨buffer, member, source, visits, length, relays⟩
  rcases mirrors.written with ⟨_, written, _⟩
  have inside := (Backend.segment_lt launch.built written.active).1
  rw [mirrors.words_eq whole] at more
  have word : (launch.block (backend.segment layout system.walker.index)
      (panel.memory.contents size buffer))[panel.fetched]? =
        some (Write.ofMemory panel.memory launch.wordSize launch.odrAddr
          (buffer + layout.offset (backend.segment layout system.walker.index)) panel.fetched) :=
    Layout.segmentWrites_getElem? within inside more _ _
  rw [← backend.offset_eq, ← source, ← mirrors.source (Or.inr (whole _ inside))] at word
  subst same
  exact {
    scans := airs.scans.of_same rfl rfl rfl rfl
    following := airs.following
    kept := airs.kept
    aired := ⟨buffer, member, source, visits, length, relays.emit word⟩ }

/-- Calls and interrupts change no buffer that matters. -/
theorem Airs.step_driver {label : Label}
    (airs : Airs launch chain waitCount size buffers first trace steps panel system)
    (taken : Panel.step profile waitCount launch.setup size panel (.driver label) = some after) :
    Exists fun next => System.step profile waitCount system label = some next ∧
      Airs launch chain waitCount size buffers first (.driver label :: trace) (label :: steps) after
        next := by
  rcases airs.scans.step_driver taken with ⟨next, moved, walker, scans⟩
  rcases airs.aired with ⟨buffer, member, source, visits, length, relays⟩
  refine ⟨next, moved, ?_⟩
  have kept := airs.kept.step_driver taken
  rcases Panel.step_driver taken with ⟨_, _, _, same⟩
  subst same
  exact {
    scans
    following := airs.following.step moved
    kept
    aired := by
      rw [walker]
      refine ⟨buffer, member, source, visits, length, relays.mono fun picture known => ?_⟩
      change picture ∈ (panel.gives size label ++ panel.handed).map Prod.snd ++ [first]
      rw [List.map_append, List.append_assoc]
      exact List.mem_append_right _ known }

/-- A complete block has been put out, and the next visit is of a buffer that is not the
caller's. -/
theorem Airs.turn (twice : 2 ≤ waitCount)
    (describes : Describes chain (backend.offset layout) launch.rebuild launch.items launch.count
      launch.base)
    (whole : forall i, i < layout.count -> layout.len i % launch.wordSize.bytes = 0)
    (airs : Airs launch chain waitCount size buffers first trace steps panel system)
    (taken : Panel.step profile waitCount launch.setup size panel .block = some after)
    {more : List Label} {next : System backend.Item backend.capacity}
    (scans : Scans launch chain buffers (.block :: trace) more after next)
    (following : Following waitCount chain more next) :
    Airs launch chain waitCount size buffers first (.block :: trace) more after next := by
  rcases airs.aired with ⟨buffer, _, _, visits, length, relays⟩
  have complete : (launch.block (backend.segment layout system.walker.index)
      (panel.memory.contents size buffer)).length ≤ panel.fetched := by
    unfold Launch.block
    rw [Layout.length_segmentWrites, ← airs.scans.mirrors.words_eq whole]
    exact (Panel.step_block taken).1
  rcases scans.buffer with ⟨target, member, source⟩
  have unowned := following.unowned twice (describes.offset_eq.symm ▸ source)
  rw [scans.mirrors.hand_eq] at unowned
  have follows := scans.segment
  change (weighted layout.reps layout.count)[(launch.place + (blocks trace + 1)) % _]? = _ at follows
  rw [← length] at follows
  rcases Panel.step_block taken with ⟨_, channel, _, same⟩
  subst same
  refine ⟨scans, following, airs.kept, target, member, source, visits ++ [(_, _)], ?_,
    relays.turn complete follows (airs.kept.known member unowned)⟩
  rw [List.length_append, length]
  rfl

theorem Airs.step_block (twice : 2 ≤ waitCount)
    (placement : Placement launch.address backend.itemSize backend.capacity)
    (describes : Describes chain (backend.offset layout) launch.rebuild launch.items launch.count
      launch.base)
    (whole : forall i, i < layout.count -> layout.len i % launch.wordSize.bytes = 0)
    (airs : Airs launch chain waitCount size buffers first trace steps panel system)
    (taken : Panel.step profile waitCount launch.setup size panel .block = some after) :
    Exists fun more => Exists fun next => Run (System.step profile waitCount) system more next ∧
      Airs launch chain waitCount size buffers first (.block :: trace) (more ++ steps) after
        next := by
  rcases airs.scans.step_block placement describes taken with still | ⟨next, walked, still⟩
  · exact ⟨[], system, .refl, airs.turn twice describes whole taken still airs.following⟩
  · exact ⟨[.walk], next, Run.refl.snoc walked,
      airs.turn twice describes whole taken still (airs.following.step walked)⟩

/-! ## Runs -/

theorem Airs.answers {label : PanelLabel} (twice : 2 ≤ waitCount) (within : layout.Within size)
    (apart : buffers.Pairwise (ByteMemory.Apart size))
    (placement : Placement launch.address backend.itemSize backend.capacity)
    (describes : Describes chain (backend.offset layout) launch.rebuild launch.items launch.count
      launch.base)
    (whole : forall i, i < layout.count -> layout.len i % launch.wordSize.bytes = 0)
    (airs : Airs launch chain waitCount size buffers first trace steps panel system)
    (taken : Panel.step profile waitCount launch.setup size panel label = some after) :
    Exists fun more => Exists fun next => Run (System.step profile waitCount) system more next ∧
      Airs launch chain waitCount size buffers first (label :: trace) (more ++ steps) after next := by
  cases label with
  | driver label =>
      rcases airs.step_driver taken with ⟨next, moved, still⟩
      exact ⟨[label], next, Run.refl.snoc moved, still⟩
  | draw fbPtr offset byte =>
      exact ⟨[], system, .refl, airs.step_draw twice describes apart taken⟩
  | fetch => exact ⟨[], system, .refl, airs.step_fetch within whole taken⟩
  | block => exact airs.step_block twice placement describes whole taken

theorem Launch.airs (launch : Launch profile backend layout)
    (describes : Describes chain (backend.offset layout) launch.rebuild launch.items launch.count
      launch.base) (invariant : Invariant chain launch.start) {d : backend.Item}
    (loaded : launch.items[launch.position]? = some d) (memory : ByteMemory 32) :
    Airs launch chain waitCount size (launch.base :: launch.hand)
      (memory.contents size launch.base) [] [] (Panel.started launch.start d memory) launch.start := by
  have scans := launch.scans describes invariant loaded memory
  have source := launch.source_eq describes loaded
  exact {
    scans
    following := ⟨invariant, fun _ => .of_not_waiting nofun, fun _ => ⟨launch.base,
      describes.offset_eq.symm ▸ source, (List.nodup_cons.mp launch.distinct).1⟩⟩
    kept := by
      intro buffer member unowned
      rcases List.mem_cons.mp member with same | owned
      · subst same
        exact List.lookup_cons_self
      · exact absurd owned unowned
    aired := ⟨launch.base, List.mem_cons_self, source, [], rfl,
      Relays.initial scans.segment (List.mem_append_right _ List.mem_cons_self)⟩ }

/-- The relation holds after every run. -/
theorem Airs.run (twice : 2 ≤ waitCount) (launch : Launch profile backend layout)
    (memory : ByteMemory 32)
    (placement : Placement launch.address backend.itemSize backend.capacity)
    (whole : forall i, i < layout.count -> layout.len i % launch.wordSize.bytes = 0)
    (within : layout.Within size)
    (apart : (launch.base :: launch.hand).Pairwise (ByteMemory.Apart size)) {d : backend.Item}
    (loaded : launch.items[launch.position]? = some d)
    (run : Run (Panel.step profile waitCount launch.setup size)
      (Panel.started launch.start d memory) trace panel) :
    Exists fun chain => Exists fun steps => Exists fun system =>
      Describes chain (backend.offset layout) launch.rebuild launch.items launch.count launch.base ∧
      Airs launch chain waitCount size (launch.base :: launch.hand)
        (memory.contents size launch.base) trace steps panel system := by
  rcases launch.invariant with ⟨chain, describes, invariant⟩
  have simulated : Simulated (System.step profile waitCount) launch.start
      (Airs launch chain waitCount size (launch.base :: launch.hand)
        (memory.contents size launch.base)) trace panel :=
    Simulated.run (launch.airs describes invariant loaded memory)
      (fun _ _ _ _ _ _ airs taken =>
        airs.answers twice within apart placement describes whole taken) run
  rcases simulated with ⟨steps, system, _, airs⟩
  exact ⟨chain, steps, system, describes, airs⟩

/-- What a GPDMA backend puts on the port, in every run with at least two waits: blocks
in the order of the scan, from the place on at which the channel was started, and the
beginning of one more.  Each block is a segment of one picture, as it was handed to
`swap` or as it was at the start, however the caller draws and the table is patched
while the block is on.  The block in flight comes from a buffer that is not the
caller's, and no buffer that is not the caller's changes. -/
theorem streams_handed_pictures (profile : Profile) {waitCount : Nat} (twice : 2 ≤ waitCount)
    {backend : Backend} {layout : Layout} (launch : Launch profile backend layout) {size : Nat}
    (memory : ByteMemory 32)
    (placement : Placement launch.address backend.itemSize backend.capacity)
    (whole : forall i, i < layout.count -> layout.len i % launch.wordSize.bytes = 0)
    (within : layout.Within size)
    (apart : (launch.base :: launch.hand).Pairwise (ByteMemory.Apart size)) {d : backend.Item}
    (loaded : launch.items[launch.position]? = some d) {trace : List PanelLabel}
    {panel : Panel backend.Item backend.capacity}
    (run : Run (Panel.step profile waitCount launch.setup size)
      (Panel.started launch.start d memory) trace panel) :
    (Exists fun visits => Exists fun segment => Exists fun buffer =>
      buffer ∈ launch.base :: launch.hand ∧ buffer ∉ panel.system.hand ∧
      panel.channel.source = buffer + layout.offset segment ∧
      Relays (weighted layout.reps layout.count) launch.place launch.block
        (panel.handed.map Prod.snd ++ [memory.contents size launch.base]) panel.output visits segment
        (panel.memory.contents size buffer) panel.fetched) ∧
    Kept size (launch.base :: launch.hand) (launch.base, memory.contents size launch.base) panel := by
  rcases Airs.run twice launch memory placement whole within apart loaded run with
    ⟨chain, steps, system, describes, airs⟩
  rcases airs.aired with ⟨buffer, member, source, visits, _, relays⟩
  have unowned := airs.following.unowned twice (describes.offset_eq.symm ▸ source)
  rw [airs.scans.mirrors.hand_eq] at unowned
  rcases airs.scans.mirrors.written with ⟨_, written, _⟩
  have inside := (Backend.segment_lt launch.built written.active).1
  rw [backend.offset_eq, ← airs.scans.mirrors.source (Or.inr (whole _ inside))] at source
  exact ⟨⟨visits, _, buffer, member, unowned, source, relays⟩, airs.kept⟩

/-- The caller draws one byte of the second buffer and hands it over.  The table is patched
while the channel streams the last two blocks of the frame, and the swap returns after
the next frame. -/
def exampleAir : List PanelLabel :=
  [.draw 0x20002000 3 0xFF, .driver (.swap 0x20002000), .driver (.enter 7), .driver .store] ++
    List.replicate 64 PanelLabel.fetch ++ [.block, .driver .store, .driver .store, .driver .arm,
    .driver .load, .driver .lock] ++ List.replicate 64 PanelLabel.fetch ++ [.block, .driver .isr] ++
    List.replicate 64 PanelLabel.fetch ++ .block :: List.replicate 64 PanelLabel.fetch ++ .block ::
    List.replicate 64 PanelLabel.fetch ++ [.block, .driver .isr, .driver (.poll 8), .driver .load,
    .driver .finish, .fetch, .draw 0x20000000 5 0x01, .fetch]

theorem streams_handed_pictures_of_air :
    Exists fun panel => execute (Panel.step Profile.release 2 exampleLaunch.setup 128)
        (Panel.started exampleLaunch.start exampleItems[1] fun _ => 0) exampleAir = some panel ∧
      panel.system.hand = [0x20000000] ∧ panel.output.length = 322 ∧
      Exists fun visits => Exists fun segment => Exists fun picture =>
        Relays (weighted Layout.twoSegments.reps 2) exampleLaunch.place exampleLaunch.block
          (panel.handed.map Prod.snd ++ [ByteMemory.contents (fun _ => 0) 128 0x20000000])
          panel.output visits segment picture panel.fetched := by
  have runs : (execute (Panel.step Profile.release 2 exampleLaunch.setup 128)
      (Panel.started exampleLaunch.start exampleItems[1] fun _ => 0) exampleAir).map
        (fun panel => (panel.system.hand, panel.output.length)) = some ([0x20000000], 322) := by
    decide +kernel
  rcases Option.map_eq_some_iff.mp runs with ⟨panel, executed, reached⟩
  have placement : Placement exampleLaunch.address Backend.linear.itemSize
      Backend.linear.capacity := ⟨by decide, by decide⟩
  refine ⟨panel, executed, congrArg Prod.fst reached, congrArg Prod.snd reached, ?_⟩
  have streamed := streams_handed_pictures Profile.release (Nat.le_refl 2) exampleLaunch
    (fun _ => 0) placement (by decide) Layout.twoSegments_within exampleBuffers_apart
    (Vector.getElem?_eq_getElem (by decide)) (run_of_execute executed)
  rcases streamed.1 with ⟨visits, segment, buffer, _, _, _, relays⟩
  exact ⟨visits, segment, _, relays⟩

end Gpdma
end Driver
end Hub75
