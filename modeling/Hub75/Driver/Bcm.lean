import Hub75.Driver.Platform
import Hub75.Machine.Rotation

namespace Hub75
namespace Driver

open Machine

/-!
# The BCM segment cache and cursor

A framebuffer describes its scan as a sequence of segments, each streamed a
given number of times.  The plain-DMA backend copies that sequence into a cache
of fixed capacity and walks it with two counters, one call of `advance` for each
completed transfer.  A framebuffer swap does not read the new framebuffer: it
adds the byte delta between the two instances to every cached pointer.

The trait `FrameBuffer` belongs to another crate.  One shared reference `&FB`
is represented by what its methods return; nothing else about the instance is
used.  The compile-time assertions on the associated constants of the trait
concern the choice of the type, not a run, and are not part of the model.

`Loaded` states that a cache holds the sequence of a given instance, and the
lemmas below say which operations establish and preserve it.
-/

/-- `MAX_SEGMENTS`. -/
def maxSegments : Nat := 320

/-- `BcmSegment` of the framebuffer crate. -/
structure BcmSegment where
  ptr : Addr
  len : Nat
  reps : Nat
deriving DecidableEq, Repr

/-- What the methods of one `&FB` return. -/
structure FrameBuffer where
  bcmSegmentCount : Nat
  bcmSegment : Nat -> BcmSegment
  bcmSegmentsPerGroup : Nat

/-- `EMPTY_SEGMENT`. -/
def emptySegment : BcmSegment := ⟨0, 0, 0⟩

/-! ## The cache -/

structure SegmentCache where
  segments : Vector BcmSegment maxSegments
  count : Nat
  segmentsPerGroup : Nat

namespace SegmentCache

def new : SegmentCache where
  segments := Vector.replicate maxSegments emptySegment
  count := 0
  segmentsPerGroup := 1

/-- Shift the pointers of the first `count` segments. -/
def applyDelta (cache : SegmentCache) (delta : Addr) : SegmentCache :=
  { cache with
    segments := cache.segments.mapIdx fun i segment =>
      if i < cache.count then { segment with ptr := wrappingByteOffset segment.ptr delta }
      else segment }

/-- The valid part of the storage. -/
def valid (cache : SegmentCache) : List BcmSegment :=
  cache.segments.toList.take cache.count

end SegmentCache

/-- The loop body: read segment `i` and check its pointer. -/
def readSegment (profile : Profile) (fb : FrameBuffer) (i : Nat) : Except Panic BcmSegment := do
  let segment := fb.bcmSegment i
  debugAssert profile (segment.ptr ≠ 0) (.nullSegmentPointer i)
  return segment

def segmentsFromFbInto (profile : Profile) (fb : FrameBuffer) (cache : SegmentCache) :
    Except Panic SegmentCache := do
  let count := fb.bcmSegmentCount
  assertThat (0 < count ∧ count ≤ maxSegments) (.segmentCountOutOfRange count)
  let segments ← fillFrom .indexOutOfBounds (fun _ i => readSegment profile fb i)
    (List.range count) 0 cache.segments
  return { segments, count, segmentsPerGroup := fb.bcmSegmentsPerGroup }

/-- The valid part of the cache is the sequence of the framebuffer. -/
structure Loaded (fb : FrameBuffer) (cache : SegmentCache) : Prop where
  count_eq : cache.count = fb.bcmSegmentCount
  segment_eq : forall i, i < fb.bcmSegmentCount -> cache.segments[i]? = some (fb.bcmSegment i)
  group_eq : cache.segmentsPerGroup = fb.bcmSegmentsPerGroup

/-- No more segments are loaded than the storage holds. -/
theorem Loaded.count_le {fb : FrameBuffer} {cache : SegmentCache} (loaded : Loaded fb cache) :
    fb.bcmSegmentCount ≤ maxSegments := by
  by_contra beyond
  have stored := loaded.segment_eq maxSegments (Nat.lt_of_not_le beyond)
  rw [Vector.getElem?_eq_none (Nat.le_refl _)] at stored
  cases stored

theorem readSegment_eq_ok_iff {profile : Profile} {fb : FrameBuffer} {i : Nat}
    {segment : BcmSegment} :
    readSegment profile fb i = .ok segment ↔
      (profile.debugAssertions = true -> (fb.bcmSegment i).ptr ≠ 0) ∧ fb.bcmSegment i = segment := by
  simp only [readSegment, bind_eq_ok, debugAssert_eq_ok_iff, pure, Except.pure, Except.ok.injEq,
    exists_and_left, exists_const]

/-- The whole effect of a successful extraction. -/
theorem segmentsFromFbInto_eq_ok_iff {profile : Profile} {fb : FrameBuffer}
    {cache result : SegmentCache} :
    segmentsFromFbInto profile fb cache = .ok result ↔
      (0 < fb.bcmSegmentCount ∧ fb.bcmSegmentCount ≤ maxSegments) ∧
      (profile.debugAssertions = true ->
        forall i, i < fb.bcmSegmentCount -> (fb.bcmSegment i).ptr ≠ 0) ∧
      Loaded fb result ∧
      forall i, fb.bcmSegmentCount ≤ i -> result.segments[i]? = cache.segments[i]? := by
  simp only [segmentsFromFbInto, bind_eq_ok, assertThat_eq_ok_iff, exists_and_left, exists_const,
    pure, Except.pure, Except.ok.injEq, fillFrom_eq_ok_iff, List.length_range, Nat.zero_add,
    readSegment_eq_ok_iff]
  constructor
  · rintro ⟨range, segments, ⟨_, stored, untouched⟩, same⟩
    subst same
    have stored_at : forall i, i < fb.bcmSegmentCount ->
        (profile.debugAssertions = true -> (fb.bcmSegment i).ptr ≠ 0) ∧
          segments[i]? = some (fb.bcmSegment i) := by
      intro i inside
      rcases stored i i (List.getElem?_range inside) with ⟨entry, ⟨nonnull, read⟩, holds⟩
      exact ⟨nonnull, read ▸ holds⟩
    refine ⟨range, fun enabled i inside => (stored_at i inside).1 enabled, ?_, ?_⟩
    · exact ⟨rfl, fun i inside => (stored_at i inside).2, rfl⟩
    · exact fun i beyond => untouched i (Or.inr beyond)
  · rintro ⟨range, nonnull, loaded, untouched⟩
    refine ⟨range, result.segments, ⟨Or.inr range.2, fun j i found => ?_, fun i outside => ?_⟩, ?_⟩
    · have inside : i < fb.bcmSegmentCount :=
        List.mem_range.mp (List.mem_of_getElem? found)
      have place : j = i := by
        have read := List.getElem?_eq_some_iff.mp found
        exact (List.getElem_range _).symm.trans read.2
      rw [place]
      exact ⟨_, ⟨fun enabled => nonnull enabled i inside, rfl⟩, loaded.segment_eq i inside⟩
    · exact untouched i (by omega)
    · cases result
      simp only [SegmentCache.mk.injEq, true_and]
      exact ⟨loaded.count_eq.symm, loaded.group_eq.symm⟩

/-- A sequence of admissible length without null pointers is extracted. -/
theorem segmentsFromFbInto_ok {profile : Profile} {fb : FrameBuffer} (cache : SegmentCache)
    (range : 0 < fb.bcmSegmentCount ∧ fb.bcmSegmentCount ≤ maxSegments)
    (nonnull : profile.debugAssertions = true ->
      forall i, i < fb.bcmSegmentCount -> (fb.bcmSegment i).ptr ≠ 0) :
    Exists fun result => segmentsFromFbInto profile fb cache = .ok result := by
  have filled : Exists fun segments =>
      fillFrom Panic.indexOutOfBounds (fun _ i => readSegment profile fb i)
        (List.range fb.bcmSegmentCount) 0 cache.segments = .ok segments := by
    refine fillFrom_ok cache.segments ?_ fun j i found => ⟨fb.bcmSegment i, ?_⟩
    · rw [List.length_range, Nat.zero_add]
      exact range.2
    · have inside : i < fb.bcmSegmentCount := List.mem_range.mp (List.mem_of_getElem? found)
      exact readSegment_eq_ok_iff.mpr ⟨fun enabled => nonnull enabled i inside, rfl⟩
  rcases filled with ⟨segments, filled⟩
  refine ⟨⟨segments, fb.bcmSegmentCount, fb.bcmSegmentsPerGroup⟩, ?_⟩
  simp only [segmentsFromFbInto, bind_eq_ok, assertThat_eq_ok_iff, exists_and_left, exists_const]
  exact ⟨range, segments, filled, rfl⟩

/-- Two caches loaded from one instance agree on their valid parts. -/
theorem Loaded.valid_eq {fb : FrameBuffer} {first second : SegmentCache}
    (left : Loaded fb first) (right : Loaded fb second) : first.valid = second.valid := by
  unfold SegmentCache.valid
  rw [left.count_eq, right.count_eq]
  apply List.ext_getElem?
  intro i
  by_cases inside : i < fb.bcmSegmentCount
  · rw [List.getElem?_take_of_lt inside, List.getElem?_take_of_lt inside,
      Vector.getElem?_toList, Vector.getElem?_toList, left.segment_eq i inside,
      right.segment_eq i inside]
  · simp only [List.getElem?_take, if_neg inside]

/-! ## The state machine -/

structure BcmState where
  cache : SegmentCache
  currentSegment : Nat
  currentRep : Nat

namespace BcmState

def new : BcmState where
  cache := SegmentCache.new
  currentSegment := 0
  currentRep := 0

/-- Load the sequence of `fb` and restart the scan from segment 0. -/
def load (profile : Profile) (fb : FrameBuffer) (state : BcmState) : Except Panic BcmState := do
  let cache ← segmentsFromFbInto profile fb state.cache
  return { cache, currentSegment := 0, currentRep := 0 }

/-- Advance after a completed transfer; the flag reports a frame boundary.  The
two increments stay below a repetition count and a segment count. -/
def advance (profile : Profile) (state : BcmState) : Except Panic (BcmState × Bool) := do
  debugAssert profile (0 < state.cache.count) .advanceBeforeInitialization
  let currentRep := state.currentRep + 1
  match state.cache.segments[state.currentSegment]? with
  | none => .error (.indexOutOfBounds state.currentSegment)
  | some segment =>
      if segment.reps ≤ currentRep then
        let currentSegment := state.currentSegment + 1
        if state.cache.count ≤ currentSegment then
          return ({ state with currentRep := 0, currentSegment := 0 }, true)
        else
          return ({ state with currentRep := 0, currentSegment }, false)
      else
        return ({ state with currentRep }, false)

/-- Pointer and byte length of the current segment (`current_segment`). -/
def currentSegmentData (state : BcmState) : Except Panic (Addr × Nat) :=
  match state.cache.segments[state.currentSegment]? with
  | none => .error (.indexOutOfBounds state.currentSegment)
  | some segment => .ok (segment.ptr, segment.len)

def applyDelta (state : BcmState) (delta : Addr) : BcmState :=
  { state with cache := state.cache.applyDelta delta }

/-- The two counters. -/
def cursor (state : BcmState) : Cursor := ⟨state.currentSegment, state.currentRep⟩

def withCursor (state : BcmState) (cursor : Cursor) : BcmState :=
  { state with currentSegment := cursor.index, currentRep := cursor.rep }

/-- Loading succeeds as the extraction does, and starts at the origin. -/
theorem load_eq_ok_iff {profile : Profile} {fb : FrameBuffer} {state result : BcmState} :
    state.load profile fb = .ok result ↔
      segmentsFromFbInto profile fb state.cache = .ok result.cache ∧
        result.cursor = Cursor.origin := by
  simp only [load, bind_eq_ok, pure, Except.pure, Except.ok.injEq]
  constructor
  · rintro ⟨cache, extracted, same⟩
    subst same
    exact ⟨extracted, rfl⟩
  · rintro ⟨extracted, atOrigin⟩
    refine ⟨result.cache, extracted, ?_⟩
    cases result
    simp only [cursor, Cursor.origin, Cursor.mk.injEq] at atOrigin
    rw [atOrigin.1, atOrigin.2]

/-- On a loaded cache `advance` moves the rotation cursor whose weights are the
repetition counts, zero counts included. -/
theorem advance_eq {profile : Profile} {fb : FrameBuffer} {state : BcmState}
    (loaded : Loaded fb state.cache) (inside : state.currentSegment < fb.bcmSegmentCount) :
    state.advance profile =
      .ok (state.withCursor (state.cursor.advance (fun i => (fb.bcmSegment i).reps)
          fb.bcmSegmentCount).1,
        (state.cursor.advance (fun i => (fb.bcmSegment i).reps) fb.bcmSegmentCount).2) := by
  have nonempty : 0 < state.cache.count := by
    rw [loaded.count_eq]
    exact Nat.lt_of_le_of_lt (Nat.zero_le _) inside
  have checked : debugAssert profile (0 < state.cache.count) .advanceBeforeInitialization =
      .ok () := debugAssert_eq_ok_iff.mpr fun _ => nonempty
  unfold advance
  rw [checked]
  simp only [bind, Except.bind, loaded.segment_eq _ inside, loaded.count_eq, Cursor.advance, cursor]
  by_cases finished : (fb.bcmSegment state.currentSegment).reps ≤ state.currentRep + 1
  · by_cases lastSegment : fb.bcmSegmentCount ≤ state.currentSegment + 1
    · simp only [finished, lastSegment, if_true]
      rfl
    · simp only [finished, lastSegment, if_true, if_false]
      rfl
  · simp only [finished, if_false]
    rfl

/-- On a loaded cache the current segment is the framebuffer's own. -/
theorem currentSegmentData_eq {fb : FrameBuffer} {state : BcmState}
    (loaded : Loaded fb state.cache) (inside : state.currentSegment < fb.bcmSegmentCount) :
    state.currentSegmentData =
      .ok ((fb.bcmSegment state.currentSegment).ptr, (fb.bcmSegment state.currentSegment).len) := by
  unfold currentSegmentData
  rw [loaded.segment_eq _ inside]

end BcmState

/-! ## Framebuffer types with one layout -/

/-- A framebuffer type all of whose instances share one layout: segment `i` of
the instance at `base` starts at `base + offset i`, modulo the pointer width. -/
structure Layout where
  count : Nat
  offset : Nat -> Addr
  len : Nat -> Nat
  reps : Nat -> Nat
  segmentsPerGroup : Nat

namespace Layout

/-- What the methods of the instance at `base` return. -/
def instanceAt (layout : Layout) (base : Addr) : FrameBuffer where
  bcmSegmentCount := layout.count
  bcmSegment i := ⟨base + layout.offset i, layout.len i, layout.reps i⟩
  bcmSegmentsPerGroup := layout.segmentsPerGroup

/-- No segment asks for a repetition. -/
def Blank (layout : Layout) : Prop := forall i, i < layout.count -> layout.reps i = 0

/-- How often the cursor passes segment `i`.  It tests the repetition count after
the transfer, so a segment that asks for none is passed once. -/
def passes (layout : Layout) (i : Nat) : Nat := max (layout.reps i) 1

theorem passes_pos (layout : Layout) : forall i, i < layout.count -> 0 < layout.passes i :=
  fun _ _ => Nat.lt_of_lt_of_le Nat.one_pos (Nat.le_max_right _ _)

/-- A segment that asks for repetitions is passed as often as it asks. -/
theorem passes_eq_reps {layout : Layout} {i : Nat} (asked : 0 < layout.reps i) :
    layout.passes i = layout.reps i :=
  Nat.max_eq_left asked

/-- On a cache loaded from an instance `advance` moves the rotation cursor whose
weights are the passes. -/
theorem advance_eq {layout : Layout} {profile : Profile} {base : Addr} {state : BcmState}
    (loaded : Loaded (layout.instanceAt base) state.cache)
    (inside : state.currentSegment < layout.count) :
    state.advance profile =
      .ok (state.withCursor (state.cursor.advance layout.passes layout.count).1,
        (state.cursor.advance layout.passes layout.count).2) := by
  have counts : state.cursor.advance layout.passes layout.count =
      state.cursor.advance layout.reps layout.count :=
    Cursor.advance_max_one layout.reps layout.count state.cursor
  rw [counts]
  exact BcmState.advance_eq loaded inside

/-- Shifting by the difference of the two addresses re-targets the cache: what
was loaded from the old instance is now loaded from the new one. -/
theorem loaded_applyDelta (layout : Layout) {old new : Addr} {cache : SegmentCache}
    (loaded : Loaded (layout.instanceAt old) cache) :
    Loaded (layout.instanceAt new) (cache.applyDelta (new - old)) where
  count_eq := loaded.count_eq
  segment_eq i inside := by
    have stored := loaded.segment_eq i inside
    have active : i < cache.count := loaded.count_eq.symm ▸ inside
    simp only [SegmentCache.applyDelta, Vector.getElem?_mapIdx, stored, Option.map_some, if_pos active,
      wrappingByteOffset, instanceAt]
    rw [add_retarget]
  group_eq := loaded.group_eq

/-- Two segments of 64 bytes, shown once and twice. -/
def twoSegments : Layout where
  count := 2
  offset i := if i = 0 then 0 else 64
  len _ := 64
  reps i := i + 1
  segmentsPerGroup := 1

end Layout
end Driver
end Hub75
