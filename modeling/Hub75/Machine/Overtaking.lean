import Mathlib.Data.List.Basic

namespace Hub75
namespace Machine

/-!
# Rewriting a ring under a circulating reader

A writer replaces the cells of a ring once, in ascending order.  At the same time
a reader goes round the ring and reads one cell after the other.  A read sees
the new content of a cell exactly when the writer has passed it.

The reader can run into the part that is still old in two ways.  It may start
there, which is harmless.  It may also leave the rewritten part at the writer's
front, in the middle of the ring, and then it sees old content after new.  The
second way is called overtaking, and it is visible in the schedule: the reader
takes the cell just behind the front and the next cell without a write in
between.  `switchesOnce_iff` says that there is no third way.

Schedules are stored newest event first.  The ring has `size` cells, and
`origin` is the last cell that was read before the first event.
-/

inductive RingEvent
  | write
  | read
deriving DecidableEq, Repr

variable {size origin : Nat}

/-- The writer's front: the number of cells written. -/
def written : List RingEvent -> Nat
  | [] => 0
  | .write :: earlier => written earlier + 1
  | .read :: earlier => written earlier

def readCount : List RingEvent -> Nat
  | [] => 0
  | .write :: earlier => readCount earlier
  | .read :: earlier => readCount earlier + 1

/-- The cell of the latest read. -/
def readCell (size origin : Nat) (events : List RingEvent) : Nat :=
  (origin + readCount events) % size

/-- The cells read, each with the answer to whether its content was new. -/
def looks (size origin : Nat) : List RingEvent -> List (Nat × Bool)
  | [] => []
  | .write :: earlier => looks size origin earlier
  | .read :: earlier =>
      (readCell size origin (.read :: earlier),
        decide (readCell size origin (.read :: earlier) < written earlier)) ::
      looks size origin earlier

/-- After these events, one more read would overtake the writer: the latest event
read the cell just behind the front, and the front is not at the end. -/
def AtFront (size origin : Nat) (events : List RingEvent) : Prop :=
  events.head? = some .read ∧ readCell size origin events + 1 = written events ∧
    written events < size

instance (events : List RingEvent) : Decidable (AtFront size origin events) :=
  inferInstanceAs (Decidable (_ ∧ _))

/-- Some read overtook the writer. -/
def Overtaken (size origin : Nat) : List RingEvent -> Prop
  | [] => False
  | .write :: earlier => Overtaken size origin earlier
  | .read :: earlier => AtFront size origin earlier ∨ Overtaken size origin earlier

instance decidableOvertaken : (events : List RingEvent) -> Decidable (Overtaken size origin events)
  | [] => isFalse id
  | .write :: earlier => decidableOvertaken earlier
  | .read :: earlier => @instDecidableOr _ _ _ (decidableOvertaken earlier)

/-- Once a read has seen new content, no later one sees old content. -/
def SwitchesOnce (reads : List (Nat × Bool)) : Prop :=
  reads.Pairwise fun later earlier => earlier.2 = true -> later.2 = true

/-- Then the reads split into a part that saw the new content throughout and, before
it, one that saw the old. -/
theorem SwitchesOnce.split {reads : List (Nat × Bool)} (once : SwitchesOnce reads) :
    Exists fun fresh => Exists fun stale => reads = fresh ++ stale ∧
      (forall look, look ∈ fresh -> look.2 = true) ∧
      forall look, look ∈ stale -> look.2 = false := by
  induction reads with
  | nil => exact ⟨[], [], rfl, nofun, nofun⟩
  | cons newest earlier inductionHypothesis =>
      rcases List.pairwise_cons.mp once with ⟨newest_new, before⟩
      cases new : newest.2 with
      | true =>
          rcases inductionHypothesis before with ⟨fresh, stale, same, allNew, allOld⟩
          refine ⟨newest :: fresh, stale, congrArg (newest :: ·) same, ?_, allOld⟩
          exact List.forall_mem_cons.mpr ⟨new, allNew⟩
      | false =>
          refine ⟨[], newest :: earlier, rfl, nofun, List.forall_mem_cons.mpr ⟨new, ?_⟩⟩
          intro look member
          apply Bool.eq_false_iff.mpr
          intro seen
          exact Bool.false_ne_true (new.symm.trans (newest_new look member seen))

theorem readCell_lt (nonempty : 0 < size) (events : List RingEvent) :
    readCell size origin events < size :=
  Nat.mod_lt _ nonempty

/-- The reader goes to the next cell, and from the last one to the first. -/
theorem readCell_read (nonempty : 0 < size) (earlier : List RingEvent) :
    readCell size origin (.read :: earlier) =
      if readCell size origin earlier + 1 = size then 0 else readCell size origin earlier + 1 := by
  have below : readCell size origin earlier < size := readCell_lt nonempty earlier
  have moved : readCell size origin (.read :: earlier) =
      (readCell size origin earlier + 1) % size := by
    have counted : readCount (.read :: earlier) = readCount earlier + 1 := rfl
    unfold readCell
    rw [counted, ← Nat.add_assoc, Nat.mod_add_mod]
  rw [moved]
  split
  · next last => rw [last, Nat.mod_self]
  · next inner => exact Nat.mod_eq_of_lt (Nat.lt_of_le_of_ne below inner)

/-- The reader is in the rewritten part, and cannot leave it by its next read
unless it stands at the front right now. -/
def Inside (size origin : Nat) (events : List RingEvent) : Prop :=
  readCell size origin events < written events ∧
    (readCell size origin events + 1 < written events ∨ events.head? = some .read)

/-- A reader that is inside sees new content again, unless it overtakes. -/
theorem Inside.read_new (nonempty : 0 < size) {earlier : List RingEvent}
    (inside : Inside size origin earlier) (calm : ¬ AtFront size origin earlier) :
    readCell size origin (.read :: earlier) < written earlier := by
  have below : readCell size origin earlier < size := readCell_lt nonempty earlier
  rw [readCell_read nonempty]
  split
  · exact Nat.lt_of_le_of_lt (Nat.zero_le _) inside.1
  · next inner =>
      rcases inside.2 with room | latest
      · exact room
      · by_contra outside
        have front : readCell size origin earlier + 1 = written earlier := by
          have behind := inside.1
          omega
        exact calm ⟨latest, front, by omega⟩

/-- As long as nothing overtook, a reader that has seen new content is inside. -/
theorem inside_of_new (nonempty : 0 < size) {events : List RingEvent}
    (calm : ¬ Overtaken size origin events)
    (seen : Exists fun look => look ∈ looks size origin events ∧ look.2 = true) :
    Inside size origin events := by
  induction events with
  | nil =>
      rcases seen with ⟨_, impossible, _⟩
      cases impossible
  | cons event earlier inductionHypothesis =>
      cases event with
      | write =>
          have before := (inductionHypothesis calm seen).1
          have behind : readCell size origin (.write :: earlier) = readCell size origin earlier := rfl
          refine ⟨?_, Or.inl ?_⟩
          · rw [behind]
            exact Nat.lt_succ_of_lt before
          · rw [behind]
            exact Nat.succ_lt_succ before
      | read =>
          have quiet : ¬ AtFront size origin earlier ∧ ¬ Overtaken size origin earlier :=
            not_or.mp calm
          refine ⟨?_, Or.inr rfl⟩
          change readCell size origin (.read :: earlier) < written earlier
          rcases seen with ⟨look, member, new⟩
          rcases List.mem_cons.mp member with now | before
          · rw [now] at new
            exact of_decide_eq_true new
          · exact (inductionHypothesis quiet.2 ⟨look, before, new⟩).read_new nonempty quiet.1

/-- A read at the front sees old content, right after new content. -/
theorem AtFront.relapse {earlier : List RingEvent} (front : AtFront size origin earlier) :
    (Exists fun look => look ∈ looks size origin earlier ∧ look.2 = true) ∧
      ¬ readCell size origin (.read :: earlier) < written earlier := by
  rcases front with ⟨latest, behind, inner⟩
  have nonempty : 0 < size := Nat.lt_of_le_of_lt (Nat.zero_le _) inner
  constructor
  · cases earlier with
    | nil => cases latest
    | cons event before =>
        cases event with
        | write => cases latest
        | read =>
            refine ⟨_, List.mem_cons_self, decide_eq_true ?_⟩
            change _ < written (.read :: before)
            omega
  · rw [readCell_read nonempty, if_neg (by omega)]
    omega

/-- Reading and writing concurrently switches the reader over once, unless it
overtakes the writer. -/
theorem switchesOnce_iff (nonempty : 0 < size) (events : List RingEvent) :
    SwitchesOnce (looks size origin events) ↔ ¬ Overtaken size origin events := by
  unfold SwitchesOnce
  induction events with
  | nil => exact iff_of_true List.Pairwise.nil id
  | cons event earlier inductionHypothesis =>
      cases event with
      | write => exact inductionHypothesis
      | read =>
          simp only [looks, List.pairwise_cons, Overtaken, not_or, inductionHypothesis,
            decide_eq_true_eq]
          constructor
          · rintro ⟨newest, calm⟩
            refine ⟨fun front => ?_, calm⟩
            rcases front.relapse with ⟨⟨look, member, new⟩, old⟩
            exact old (newest look member new)
          · rintro ⟨quiet, calm⟩
            refine ⟨fun look member new => ?_, calm⟩
            exact (inside_of_new nonempty calm ⟨look, member, new⟩).read_new nonempty quiet

end Machine
end Hub75
