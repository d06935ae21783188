import Hub75.Machine.Run

namespace Hub75
namespace Machine

/-!
# A display with one picture in waiting

This is what double buffering is for.  A display shows one picture, frame after
frame, and emits each frame word by word.  At any time it can be offered another
picture, which replaces one that is still waiting.  The change is made between two
frames, so every frame belongs to one picture.

The display keeps a history of the frames it has completed.  `Exhibits` is the
meaning of an output: whole frames of the first picture and of offered ones, in the
order of the offers, and then the beginning of one more frame.  A picture can be shown
for any number of frames, and an offer can be superseded before it is shown.
Histories are newest first; the frame of a picture is in the order of emission.
-/

variable {Picture Word : Type}

structure Display (Picture Word : Type) where
  shown : Picture
  waiting : Option Picture
  emitted : Nat
  completed : List Picture
  output : List Word

/-- The next word, the end of a frame, and an offer. -/
inductive DisplayEvent (Picture : Type)
  | emit
  | wrap
  | offer (picture : Picture)

namespace Display

/-- A display that has just been switched on. -/
def initial (first : Picture) : Display Picture Word where
  shown := first
  waiting := none
  emitted := 0
  completed := []
  output := []

/-- One step.  A frame ends only when all its words have been emitted. -/
def step (frame : Picture -> List Word) (display : Display Picture Word) :
    DisplayEvent Picture -> Option (Display Picture Word)
  | .emit =>
      match (frame display.shown)[display.emitted]? with
      | none => none
      | some word => some { display with
          emitted := display.emitted + 1
          output := word :: display.output }
  | .wrap =>
      if display.emitted = (frame display.shown).length then
        some { display with
          shown := display.waiting.getD display.shown
          waiting := none
          emitted := 0
          completed := display.shown :: display.completed }
      else none
  | .offer picture => some { display with waiting := some picture }

theorem step_emit {frame : Picture -> List Word} {display : Display Picture Word} {word : Word}
    (found : (frame display.shown)[display.emitted]? = some word) :
    step frame display .emit = some { display with
      emitted := display.emitted + 1
      output := word :: display.output } := by
  simp only [step, found]

theorem step_wrap {frame : Picture -> List Word} {display : Display Picture Word}
    (ended : display.emitted = (frame display.shown).length) :
    step frame display .wrap = some { display with
      shown := display.waiting.getD display.shown
      waiting := none
      emitted := 0
      completed := display.shown :: display.completed } :=
  if_pos ended

/-- The offers of a history. -/
def offers : List (DisplayEvent Picture) -> List Picture
  | [] => []
  | .offer picture :: trace => picture :: offers trace
  | _ :: trace => offers trace

end Display

/-- The frames, newest first and with the one in progress, show the first picture and then
the chosen ones.  Each of them has at least one of these frames, which for the last one may
be the frame in progress. -/
def Chronicle (first : Picture) (chosen frames : List Picture) : Prop :=
  Exists fun visits : List (Picture × Nat) => visits.map Prod.fst = chosen ++ [first] ∧
    frames = visits.flatMap fun visit => List.replicate (visit.2 + 1) visit.1

/-- An output of whole frames, and of the words emitted of one more. -/
structure Exhibits (frame : Picture -> List Word) (first : Picture) (offered : List Picture)
    (output : List Word) (chosen completed : List Picture) (shown : Picture) : Prop where
  chosen_offered : chosen.Sublist offered
  chronicle : Chronicle first chosen (shown :: completed)
  output_eq : Exists fun emitted : Nat =>
    output.reverse = completed.reverse.flatMap frame ++ (frame shown).take emitted

/-! ## Chronicles -/

variable {first shown : Picture} {chosen offered completed : List Picture}

theorem chronicle_initial (first : Picture) : Chronicle first [] [first] :=
  ⟨[(first, 0)], rfl, rfl⟩

/-- The picture is shown for another frame. -/
theorem Chronicle.again (chronicle : Chronicle first chosen (shown :: completed)) :
    Chronicle first chosen (shown :: shown :: completed) := by
  rcases chronicle with ⟨visits, names, shows⟩
  cases visits with
  | nil => cases shows
  | cons visit earlier =>
      rcases visit with ⟨picture, frames⟩
      rw [List.flatMap_cons, List.replicate_succ, List.cons_append] at shows
      injection shows with same rest
      subst same
      refine ⟨(shown, frames + 1) :: earlier, names, ?_⟩
      rw [List.flatMap_cons, List.replicate_succ, List.cons_append, List.replicate_succ,
        List.cons_append, ← rest]

/-- Another picture is shown for the first time. -/
theorem Chronicle.next (picture : Picture) (chronicle : Chronicle first chosen completed) :
    Chronicle first (picture :: chosen) (picture :: completed) := by
  rcases chronicle with ⟨visits, names, shows⟩
  refine ⟨(picture, 0) :: visits, ?_, ?_⟩
  · rw [List.map_cons, names]
    rfl
  · rw [List.flatMap_cons, ← shows]
    rfl

/-- The last picture is the one that is shown, and every picture before it has had a frame
that is completed. -/
theorem Chronicle.outlasted (chronicle : Chronicle first chosen (shown :: completed)) :
    Exists fun earlier : List Picture => chosen ++ [first] = shown :: earlier ∧
      earlier.Sublist completed := by
  rcases chronicle with ⟨visits, names, shows⟩
  cases visits with
  | nil => cases shows
  | cons visit earlier =>
      rcases visit with ⟨picture, frames⟩
      rw [List.flatMap_cons, List.replicate_succ, List.cons_append] at shows
      injection shows with same rest
      subst same
      refine ⟨earlier.map Prod.fst, names.symm, ?_⟩
      have once : (earlier.map Prod.fst).Sublist
          (earlier.flatMap fun visit => List.replicate (visit.2 + 1) visit.1) := by
        clear names rest
        induction earlier with
        | nil => exact List.nil_sublist _
        | cons visit earlier inductionHypothesis =>
            rw [List.map_cons, List.flatMap_cons, List.replicate_succ, List.cons_append]
            exact (inductionHypothesis.trans (List.sublist_append_right _ _)).cons_cons visit.1
      rw [rest]
      exact once.trans (List.sublist_append_right _ _)

/-! ## Runs of the display -/

/-- What a history makes of the display.  The waiting picture was offered after
everything that has been shown. -/
structure Display.Faithful (frame : Picture -> List Word) (first : Picture)
    (trace : List (DisplayEvent Picture)) (display : Display Picture Word) : Prop where
  chronicle : Exists fun chosen : List Picture =>
    Chronicle first chosen (display.shown :: display.completed) ∧
      (display.waiting.toList ++ chosen).Sublist (Display.offers trace)
  output_eq : display.output.reverse =
    display.completed.reverse.flatMap frame ++ (frame display.shown).take display.emitted

namespace Display

variable {frame : Picture -> List Word} {display after : Display Picture Word}
  {trace : List (DisplayEvent Picture)}

theorem Faithful.step_emit (faithful : Faithful frame first trace display)
    (taken : step frame display .emit = some after) : Faithful frame first (.emit :: trace) after := by
  simp only [step] at taken
  split at taken
  · cases taken
  · next word found =>
      cases taken
      refine ⟨faithful.chronicle, ?_⟩
      rw [List.reverse_cons, faithful.output_eq, List.append_assoc, List.take_add_one, found]
      rfl

/-- At the end of a frame the waiting picture comes on, or the present one stays. -/
theorem Faithful.step_wrap (faithful : Faithful frame first trace display)
    (taken : step frame display .wrap = some after) : Faithful frame first (.wrap :: trace) after := by
  simp only [step] at taken
  split at taken
  · next ended =>
      cases taken
      have whole : (frame display.shown).take display.emitted = frame display.shown := by
        rw [ended, List.take_length]
      constructor
      · rcases faithful.chronicle with ⟨chosen, chronicle, waitingLast⟩
        cases waiting : display.waiting with
        | none =>
            rw [waiting] at waitingLast
            exact ⟨chosen, chronicle.again, waitingLast⟩
        | some picture =>
            rw [waiting] at waitingLast
            exact ⟨picture :: chosen, chronicle.next picture, waitingLast⟩
      · change display.output.reverse =
          (display.shown :: display.completed).reverse.flatMap frame ++ []
        rw [faithful.output_eq, whole, List.reverse_cons, List.flatMap_append, List.flatMap_cons,
          List.flatMap_nil, List.append_nil, List.append_nil]
  · cases taken

theorem Faithful.step_offer {picture : Picture} (faithful : Faithful frame first trace display)
    (taken : step frame display (.offer picture) = some after) :
    Faithful frame first (.offer picture :: trace) after := by
  cases taken
  rcases faithful.chronicle with ⟨chosen, chronicle, waitingLast⟩
  have earlier : chosen.Sublist (offers trace) :=
    (List.sublist_append_right display.waiting.toList chosen).trans waitingLast
  exact ⟨⟨chosen, chronicle, earlier.cons_cons picture⟩, faithful.output_eq⟩

theorem Faithful.step {event : DisplayEvent Picture} (faithful : Faithful frame first trace display)
    (taken : Display.step frame display event = some after) :
    Faithful frame first (event :: trace) after := by
  cases event with
  | emit => exact faithful.step_emit taken
  | wrap => exact faithful.step_wrap taken
  | offer picture => exact faithful.step_offer taken

theorem faithful_initial (frame : Picture -> List Word) (first : Picture) :
    Faithful frame first [] (initial first) :=
  ⟨⟨[], chronicle_initial first, List.nil_sublist _⟩, rfl⟩

theorem faithful_of_run (run : Run (Display.step frame) (initial first) trace display) :
    Faithful frame first trace display :=
  run.invariant (Faithful frame first) (faithful_initial frame first)
    fun _ _ _ _ faithful taken => faithful.step taken

/-- The meaning of every run: an output of whole frames. -/
theorem exhibits_of_run (run : Run (Display.step frame) (initial first) trace display) :
    Exists fun chosen : List Picture =>
      Exhibits frame first (offers trace) display.output chosen display.completed display.shown := by
  have faithful := faithful_of_run run
  rcases faithful.chronicle with ⟨chosen, chronicle, waitingLast⟩
  have offered : chosen.Sublist (offers trace) :=
    (List.sublist_append_right display.waiting.toList chosen).trans waitingLast
  exact ⟨chosen, offered, chronicle, display.emitted, faithful.output_eq⟩

/-! ## Offers that wait for their turn -/

/-- The display when it is offered a picture only while no other is waiting. -/
def patientStep (frame : Picture -> List Word) (display : Display Picture Word)
    (event : DisplayEvent Picture) : Option (Display Picture Word) :=
  match event with
  | .offer _ => if display.waiting.isNone then display.step frame event else none
  | _ => display.step frame event

theorem step_of_patient {event : DisplayEvent Picture}
    (taken : patientStep frame display event = some after) :
    step frame display event = some after := by
  cases event with
  | emit => exact taken
  | wrap => exact taken
  | offer picture =>
      simp only [patientStep] at taken
      split at taken
      · exact taken
      · cases taken

/-- Then no picture is superseded: all offers have been shown, except for the one that
waits. -/
theorem complete_of_run (run : Run (patientStep frame) (initial first) trace display) :
    Exists fun chosen : List Picture =>
      Exhibits frame first (offers trace) display.output chosen display.completed display.shown ∧
        offers trace = display.waiting.toList ++ chosen := by
  have reached := run.invariant
    (fun steps shows => Faithful frame first steps shows ∧ Exists fun chosen : List Picture =>
      Chronicle first chosen (shows.shown :: shows.completed) ∧
        offers steps = shows.waiting.toList ++ chosen)
    ⟨faithful_initial frame first, [], chronicle_initial first, rfl⟩ <| by
      rintro steps before event next ⟨faithful, chosen, chronicle, all⟩ taken
      refine ⟨faithful.step (step_of_patient taken), ?_⟩
      cases event with
      | emit =>
          simp only [patientStep, step] at taken
          split at taken
          · cases taken
          · cases taken
            exact ⟨chosen, chronicle, all⟩
      | wrap =>
          simp only [patientStep, step] at taken
          split at taken
          · cases taken
            cases waiting : before.waiting with
            | none =>
                rw [waiting] at all
                exact ⟨chosen, chronicle.again, all⟩
            | some picture =>
                rw [waiting] at all
                exact ⟨picture :: chosen, chronicle.next picture, all⟩
          · cases taken
      | offer picture =>
          simp only [patientStep] at taken
          split at taken
          · next free =>
              cases taken
              rw [Option.isNone_iff_eq_none.mp free] at all
              exact ⟨chosen, chronicle, congrArg (List.cons picture) all⟩
          · cases taken
  rcases reached with ⟨faithful, chosen, chronicle, all⟩
  have offered : chosen.Sublist (offers trace) := by
    rw [all]
    exact List.sublist_append_right _ chosen
  exact ⟨chosen, ⟨offered, chronicle, display.emitted, faithful.output_eq⟩, all⟩

end Display

/-- More offers do not matter. -/
theorem Exhibits.mono {frame : Picture -> List Word} {output : List Word} {more : List Picture}
    (exhibits : Exhibits frame first offered output chosen completed shown)
    (extends_ : offered.Sublist more) :
    Exhibits frame first more output chosen completed shown :=
  { exhibits with chosen_offered := exhibits.chosen_offered.trans extends_ }

/-! ## Frames made of rows -/

/-- The place of an entry of row `k` when the rows are written one after the other. -/
theorem getElem?_flatMap {Row : Type} {rows : List Row} {row : Row -> List Word} {k place : Nat}
    {current : Row} (found : rows[k]? = some current) (inside : place < (row current).length) :
    (rows.flatMap row)[((rows.take k).flatMap row).length + place]? = (row current)[place]? := by
  have below : k < rows.length := (List.getElem?_eq_some_iff.mp found).1
  have split : rows.flatMap row =
      (rows.take k).flatMap row ++ (row current ++ (rows.drop (k + 1)).flatMap row) := by
    have entry : rows[k] = current := (List.getElem?_eq_some_iff.mp found).2
    calc rows.flatMap row
        = (rows.take k ++ rows.drop k).flatMap row := by rw [List.take_append_drop]
      _ = (rows.take k).flatMap row ++ (rows.drop k).flatMap row := List.flatMap_append
      _ = (rows.take k).flatMap row ++ (row current ++ (rows.drop (k + 1)).flatMap row) := by
          rw [List.drop_eq_getElem_cons below, entry, List.flatMap_cons]
  rw [split, List.getElem?_append_right (Nat.le_add_right _ _), Nat.add_sub_cancel_left,
    List.getElem?_append_left inside]

/-- The next row ends where the one after it begins. -/
theorem length_flatMap_take_succ {Row : Type} {rows : List Row} {row : Row -> List Word} {k : Nat}
    {current : Row} (found : rows[k]? = some current) :
    ((rows.take (k + 1)).flatMap row).length =
      ((rows.take k).flatMap row).length + (row current).length := by
  rw [List.take_add_one, found, List.flatMap_append, List.length_append]
  simp only [Option.toList, List.flatMap_cons, List.flatMap_nil, List.append_nil]

end Machine
end Hub75
