import Hub75.Scan.Encoding
import Hub75.Driver.Backend

namespace Hub75
namespace Driver
namespace Gpdma

open Machine Finset Gpdma2d

/-!
# The tables of one framebuffer type

For a framebuffer type with one layout, the tables of two instances differ only
in the source addresses of the active items.  `Chain` keeps what is common to
all of them, so that a table is determined by one address for each item.  The
patch loop moves these addresses from the old buffer to the new one in ascending
order, which is what `mixed` records.

`buildItemChain_chain` and `buildItemChain2d_chain` connect the notion to the
builders: building for any other instance writes the table of the same chain.
-/

variable {I : Type} [Descriptor I] {capacity : Nat}

/-- What the tables of all instances have in common.  The source addresses in
the template are never read. -/
structure Chain (I : Type) (capacity : Nat) where
  template : Vector I capacity
  count : Nat
  offset : Nat -> Addr
  count_pos : 0 < count
  count_le : count ≤ capacity

namespace Chain

variable (chain : Chain I capacity)

/-- The table whose active item `i` streams from the buffer `target i`. -/
def aim (target : Nat -> Addr) : Vector I capacity :=
  chain.template.mapIdx fun i d =>
    if i < chain.count then Descriptor.setSar d (target i + chain.offset i) else d

/-- The table of the instance at `base`. -/
def table (base : Addr) : Vector I capacity := chain.aim fun _ => base

/-- The table with the first `front` items moved from `old` to `new`. -/
def mixed (front : Nat) (new old : Addr) : Vector I capacity :=
  chain.aim fun i => if i < front then new else old

variable {chain}

theorem aim_congr {first second : Nat -> Addr}
    (agree : forall i, i < chain.count -> first i = second i) : chain.aim first = chain.aim second := by
  apply Vector.ext
  intro i inside
  simp only [aim, Vector.getElem_mapIdx]
  by_cases active : i < chain.count
  · rw [if_pos active, if_pos active, agree i active]
  · rw [if_neg active, if_neg active]

theorem mixed_zero (new old : Addr) : chain.mixed 0 new old = chain.table old :=
  aim_congr fun i _ => if_neg (Nat.not_lt_zero i)

/-- When the front has passed all active items, the table is the new one. -/
theorem mixed_of_le {front : Nat} (passed : chain.count ≤ front) (new old : Addr) :
    chain.mixed front new old = chain.table new :=
  aim_congr fun _ active => if_pos (Nat.lt_of_lt_of_le active passed)

/-- Each item of an aimed table is an item of some instance's table. -/
theorem aim_getElem? (target : Nat -> Addr) (i : Nat) :
    (chain.aim target)[i]? = (chain.table (target i))[i]? := by
  simp only [table, aim, Vector.getElem?_mapIdx]

/-- An active item of an aimed table reads from its target. -/
theorem aim_active (target : Nat -> Addr) {i : Nat} (active : i < chain.count) :
    Exists fun d => (chain.aim target)[i]? = some d ∧
      Descriptor.sar d = target i + chain.offset i := by
  have inside : i < capacity := Nat.lt_of_lt_of_le active chain.count_le
  refine ⟨Descriptor.setSar chain.template[i] (target i + chain.offset i), ?_,
    Descriptor.sar_setSar _ _⟩
  rw [Vector.getElem?_eq_getElem inside]
  simp only [aim, Vector.getElem_mapIdx, if_pos active]

/-- Items beyond the active ones are the same in all tables. -/
theorem aim_inactive (target : Nat -> Addr) {i : Nat} (inactive : chain.count ≤ i) :
    (chain.aim target)[i]? = chain.template[i]? := by
  simp only [aim, Vector.getElem?_mapIdx, if_neg (Nat.not_lt.mpr inactive), Option.map_id_fun', id]

/-- The active items of a table are those of the template, re-addressed. -/
theorem table_active {i : Nat} {d : I} (active : i < chain.count)
    (found : chain.template[i]? = some d) (base : Addr) :
    (chain.table base)[i]? = some (Descriptor.setSar d (base + chain.offset i)) := by
  simp only [table, aim, Vector.getElem?_mapIdx, found, Option.map_some, if_pos active]

/-- A template that reads from one buffer is the table of that buffer. -/
theorem table_eq_template {base : Addr}
    (reads : forall i, i < chain.count -> Exists fun d => chain.template[i]? = some d ∧
      Descriptor.sar d = base + chain.offset i) : chain.table base = chain.template := by
  apply table_ext
  intro i
  by_cases active : i < chain.count
  · rcases reads i active with ⟨d, found, source⟩
    rw [table_active active found, ← source, Descriptor.setSar_sar, found]
  · exact aim_inactive _ (Nat.le_of_not_lt active)

/-- One store of the patch loop advances the front by one item. -/
theorem patchItem_mixed {front : Nat} (active : front < chain.count) (new old : Addr) :
    patchItem (chain.mixed front new old) (new - old) front = chain.mixed (front + 1) new old := by
  have inside : front < capacity := Nat.lt_of_lt_of_le active chain.count_le
  unfold patchItem
  rw [dif_pos inside]
  apply Vector.ext
  intro i within
  simp only [mixed, aim, Vector.getElem_mapIdx]
  by_cases same : front = i
  · subst same
    rw [Vector.getElem_set_self]
    simp only [if_pos active, if_neg (Nat.lt_irrefl front), if_pos (Nat.lt_succ_self front),
      Descriptor.shiftSar, Descriptor.sar_setSar, Descriptor.setSar_setSar, add_retarget]
  · have frontier : i < front ↔ i < front + 1 := by omega
    rw [Vector.getElem_set_ne inside within same]
    simp only [Vector.getElem_mapIdx, frontier]

/-- The first stores of a patch loop, all at once. -/
theorem patchItems_table {front : Nat} (active : front ≤ chain.count) (new old : Addr) :
    patchItems (chain.table old) (new - old) front = chain.mixed front new old := by
  induction front with
  | zero => exact (mixed_zero new old).symm
  | succ front inductionHypothesis =>
      rw [patchItems, inductionHypothesis (Nat.le_of_succ_le active),
        patchItem_mixed (Nat.lt_of_succ_le active)]

end Chain

/-! ## From the builders to a chain -/

/-- A chain describes what `build` writes for every buffer address, given that
it wrote `items` for the buffer at `base`. -/
structure Describes (chain : Chain I capacity) (offset : Nat -> Addr)
    (build : Addr -> Except Panic (Vector I capacity × Nat)) (items : Vector I capacity)
    (count : Nat) (base : Addr) : Prop where
  count_eq : chain.count = count
  offset_eq : chain.offset = offset
  table_eq : chain.table base = items
  rebuild_eq : forall other, build other = .ok (chain.table other, count)

/-- Where the item in slot `idx` of a linear table starts within its buffer. -/
def linearOffset (layout : Layout) (idx : Nat) : Addr :=
  layout.offset ((weighted layout.reps layout.count)[idx]?.getD 0)

theorem buildItemChain_chain {profile : Profile} {api : ItemApi LinearItemConfig LinearItem}
    {reading : Reading LinearItem} (lawful : Lawful api reading LinearItemConfig.plan)
    {address : Addr} {items0 items : Vector LinearItem maxDescriptors} {layout : Layout}
    {base odrAddr : Addr} {wordSize : WordSize} {request count : Nat} (nonempty : 0 < count)
    (built : buildItemChain profile api address items0 (layout.instanceAt base) odrAddr wordSize
      request = .ok (items, count)) :
    Exists fun chain => Describes chain (linearOffset layout)
      (fun other => buildItemChain Profile.release api address items0 (layout.instanceAt other)
        odrAddr wordSize request) items count base := by
  rcases buildItemChain_eq_ok_iff.mp built with ⟨inRange, limit, total, region, written, untouched⟩
  have slot : forall idx, idx < count -> Exists fun i =>
      (weighted layout.reps layout.count)[idx]? = some i := by
    intro idx active
    have inside : idx < (linearSlots (layout.instanceAt base)).length := by
      rw [length_linearSlots, ← total]
      exact active
    exact ⟨_, List.getElem?_eq_getElem inside⟩
  refine ⟨⟨items, count, linearOffset layout, nonempty, total ▸ limit⟩, rfl, rfl, ?_,
    fun other => ?_⟩
  · apply Chain.table_eq_template
    intro idx active
    rcases slot idx active with ⟨i, found⟩
    rcases written idx i found with ⟨item, encoded, stored⟩
    refine ⟨item, stored, ?_⟩
    simp only [(encodeItem_encodes lawful encoded).sar, linearOffset, found, Option.getD_some]
    rfl
  · refine buildItemChain_eq_ok_iff.mpr
      ⟨inRange, limit, total, assertOneRegion_release region, fun idx i found => ?_, ?_⟩
    · have active : idx < count := by
        rw [total, ← length_linearSlots]
        exact (List.getElem?_eq_some_iff.mp found).1
      have place : (weighted layout.reps layout.count)[idx]? = some i := found
      rcases written idx i found with ⟨item, encoded, stored⟩
      refine ⟨_, encodeItem_other lawful encoded (other + layout.offset i), ?_⟩
      rw [Chain.table_active active stored]
      simp only [linearOffset, place, Option.getD_some]
    · intro idx beyond
      exact (Chain.aim_inactive _ beyond).trans (untouched idx beyond)

theorem buildItemChain2d_chain {profile : Profile} {api : ItemApi TwoDConfig TwoDItem}
    {reading : Reading TwoDItem} (lawful : Lawful api reading TwoDConfig.plan)
    {address : Addr} {items0 items : Vector TwoDItem maxSegments} {layout : Layout}
    {base odrAddr : Addr} {wordSize : WordSize} {request count : Nat}
    (built : buildItemChain2d profile api address items0 (layout.instanceAt base) odrAddr wordSize
      request = .ok (items, count)) :
    Exists fun chain => Describes chain layout.offset
      (fun other => buildItemChain2d Profile.release api address items0 (layout.instanceAt other)
        odrAddr wordSize request) items count base := by
  rcases buildItemChain2d_eq_ok_iff.mp built with ⟨inRange, total, region, written, untouched⟩
  refine ⟨⟨items, count, layout.offset, total ▸ inRange.1, total ▸ inRange.2⟩, rfl, rfl, ?_,
    fun other => ?_⟩
  · apply Chain.table_eq_template
    intro i active
    rcases written i active with ⟨item, encoded, stored⟩
    rcases chainItem2d_eq_ok_iff.mp encoded with ⟨_, _, encoded⟩
    exact ⟨item, stored, (encodeItem_encodes lawful encoded).sar⟩
  · refine buildItemChain2d_eq_ok_iff.mpr
      ⟨inRange, total, assertOneRegion_release region, fun i active => ?_, ?_⟩
    · rcases written i active with ⟨item, encoded, stored⟩
      rcases chainItem2d_eq_ok_iff.mp encoded with ⟨reps, short, encoded⟩
      exact ⟨_, chainItem2d_eq_ok_iff.mpr
          ⟨reps, short, encodeItem_other lawful encoded (other + layout.offset i)⟩,
        Chain.table_active active stored other⟩
    · intro i beyond
      exact (Chain.aim_inactive _ beyond).trans (untouched i beyond)

/-- Where the item in slot `idx` of a table starts within its buffer. -/
def Backend.offset : Backend -> Layout -> Nat -> Addr
  | linear => linearOffset
  | twoD => Layout.offset

/-- Whatever a backend builds for one instance, it builds for every other one
with the same chain.  Only the linear builder can write a table without items. -/
theorem Backend.build_chain {backend : Backend} {profile : Profile}
    {api : ItemApi backend.Config backend.Item} {reading : Reading backend.Item}
    (lawful : Lawful api reading backend.plan) {address : Addr}
    {items0 items : Vector backend.Item backend.capacity} {layout : Layout}
    {base odrAddr : Addr} {wordSize : WordSize} {request count : Nat} (nonempty : 0 < count)
    (built : backend.build profile api address items0 (layout.instanceAt base) odrAddr wordSize
      request = .ok (items, count)) :
    Exists fun chain => Describes chain (backend.offset layout)
      (fun other => backend.build Profile.release api address items0 (layout.instanceAt other)
        odrAddr wordSize request) items count base := by
  cases backend with
  | linear => exact buildItemChain_chain lawful nonempty built
  | twoD => exact buildItemChain2d_chain lawful built

/-- The table has items when some segment asks for repetitions. -/
theorem Backend.build_count_pos {backend : Backend} {profile : Profile}
    {api : ItemApi backend.Config backend.Item} {address : Addr}
    {items0 items : Vector backend.Item backend.capacity} {layout : Layout}
    {base odrAddr : Addr} {wordSize : WordSize} {request count : Nat} (asks : ¬ layout.Blank)
    (built : backend.build profile api address items0 (layout.instanceAt base) odrAddr wordSize
      request = .ok (items, count)) : 0 < count := by
  cases backend with
  | linear =>
      rcases buildItemChain_eq_ok_iff.mp built with ⟨_, _, total, _⟩
      apply Nat.pos_of_ne_zero
      intro nothing
      exact asks (frameReps_eq_zero_iff.mp (total.symm.trans nothing))
  | twoD =>
      rcases buildItemChain2d_eq_ok_iff.mp built with ⟨inRange, total, _⟩
      exact total ▸ inRange.1

/-- The patch function of a backend, carried out in full, moves the table to the new
buffer. -/
theorem Backend.applyDelta_table (backend : Backend)
    (chain : Chain backend.Item backend.capacity) (new old : Addr) :
    backend.applyDelta (chain.table old) chain.count (new - old) = chain.table new := by
  rw [applyDelta_eq, Nat.min_eq_left chain.count_le, Chain.patchItems_table (Nat.le_refl _),
    Chain.mixed_of_le (Nat.le_refl _)]

/-- A builder touches the active items only. -/
theorem Backend.build_untouched {backend : Backend} {profile : Profile}
    {api : ItemApi backend.Config backend.Item} {address : Addr}
    {items0 items : Vector backend.Item backend.capacity} {fb : FrameBuffer} {odrAddr : Addr}
    {wordSize : WordSize} {request count : Nat}
    (built : backend.build profile api address items0 fb odrAddr wordSize request =
      .ok (items, count)) {i : Nat} (inactive : count ≤ i) : items[i]? = items0[i]? := by
  cases backend with
  | linear => exact (buildItemChain_eq_ok_iff.mp built).2.2.2.2.2 i inactive
  | twoD => exact (buildItemChain2d_eq_ok_iff.mp built).2.2.2.2 i inactive

end Gpdma
end Driver
end Hub75
