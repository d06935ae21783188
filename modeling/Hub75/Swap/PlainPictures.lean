import Hub75.Swap.PlainDisplay

namespace Hub75
namespace Driver
namespace Dma

open Machine

/-!
# Every picture is shown

A picture that was handed to `swap` can be skipped for one reason only, that the future was
dropped and another picture came before the frame was over.  A caller that awaits its
futures offers a picture only when no other is waiting.  So all its pictures come on, in the
order in which they were handed over, and each stays until at least one whole frame of it is
completed.  When `swap` returns, its picture is the one that is being shown.
-/

variable {profile : Profile} {api : ChannelApi} {layout : Layout} {size : Nat}
  {panel after : Panel} {system next : System} {state reached : IsrCoreState} {buffers : List Addr}
  {port : Nat × Addr × WordSize} {offered : List (ByteMemory 32)}
  {display : Display (ByteMemory 32) Write}

/-- Without dropped futures nothing is pending between two swaps. -/
theorem Invariant.settled_step {label : Label} (invariant : Invariant layout system state)
    (settled : system.phase = .idle -> state.pendingDelta.isSome = false)
    (taken : System.step profile api system label = some next) (kept : label ≠ .cancel)
    (preserved : Invariant layout next reached) (idle : next.phase = .idle) :
    reached.pendingDelta.isSome = false := by
  have unchanged (notIsr : label ≠ .isr) (notEnter : forall waker, label ≠ .enter waker) :
      reached = state :=
    Option.some.inj (preserved.present.symm.trans
      (invariant.step_task taken notIsr notEnter).1.present)
  cases label with
  | isr =>
      rcases System.step_isr taken with ⟨_, _, same⟩
      rcases invariant.step_isr taken with ⟨found, _, interrupted⟩
      cases Option.some.inj (interrupted.present.symm.trans preserved.present)
      subst same
      rcases interrupted.branches with ⟨_, pointers, _⟩ | ⟨_, _, pointers, _⟩
      · have delta : reached.pendingDelta = state.pendingDelta := congrArg Pointers.delta pointers
        rw [delta]
        exact settled idle
      · have delta : reached.pendingDelta = none := congrArg Pointers.delta pointers
        rw [delta]
        rfl
  | swap fbPtr =>
      rcases System.step_swap taken with ⟨⟨_, quiet, _⟩, _⟩
      rw [unchanged nofun nofun]
      exact settled quiet
  | enter waker =>
      rcases System.step_enter taken with ⟨_, _, _, _, same⟩
      subst same
      cases idle
  | load =>
      rcases System.step_load taken with ⟨_, _, same⟩
      subst same
      exact absurd idle Cell.loadPhase_ne_idle
  | lock =>
      rcases System.step_lock taken with ⟨_, _, same⟩
      subst same
      exact absurd idle Cell.lockPhase_ne_idle
  | poll waker =>
      rcases System.step_poll taken with ⟨_, same⟩
      subst same
      cases idle
  | finish =>
      rcases System.step_finish taken with ⟨ready, _⟩
      rw [unchanged nofun nofun]
      exact invariant.absent_of_done (invariant.ready ready)
  | cancel => exact absurd rfl kept

/-- The driver of a caller that drops no future.  All pictures that were handed over have been
offered, except for the one that a called swap still holds. -/
structure Patient (layout : Layout) (size : Nat) (buffers : List Addr)
    (port : Nat × Addr × WordSize) (offered : List (ByteMemory 32)) (panel : Panel)
    (state : IsrCoreState) (display : Display (ByteMemory 32) Write) : Prop where
  related : Related layout size buffers port offered panel state display
  settled : panel.system.phase = .idle -> state.pendingDelta.isSome = false
  handed : panel.handed.map Prod.snd =
    (panel.system.held.map (panel.memory.contents size)).toList ++ offered

/-- Then no picture waits when the next one is offered. -/
theorem Patient.free (patient : Patient layout size buffers port offered panel state display)
    (idle : panel.system.phase = .idle) : display.waiting = none := by
  rw [patient.related.waiting, patient.settled idle]
  rfl

theorem Patient.step_enter {waker : Nat}
    (patient : Patient layout size buffers port offered panel state display)
    (taken : Panel.step profile api size panel (.driver (.enter waker)) = some after) :
    Exists fun picture => Exists fun found => Exists fun shows =>
      Display.patientStep (frameOf layout port) display (.offer picture) = some shows ∧
        Patient layout size buffers port (picture :: offered) after found shows := by
  rcases patient.related.step_enter taken with ⟨picture, drawn, found, shows, offers, still⟩
  rcases Panel.step_driver taken with ⟨_, system, moved, same⟩
  rcases System.step_enter moved with ⟨fbPtr, held, core, _, after_eq⟩
  have idle : panel.system.phase = .idle := patient.related.invariant.calling (held ▸ rfl)
  have allowed : Display.patientStep (frameOf layout port) display (.offer picture) = some shows := by
    simp only [Display.patientStep, patient.free idle, Option.isNone_none, if_true]
    exact offers
  have handed := patient.handed
  rw [drawn] at handed
  subst after_eq
  subst same
  refine ⟨picture, found, shows, allowed, still, ?_, handed⟩
  intro impossible
  cases impossible

/-- The other steps of the driver offer nothing. -/
theorem Patient.step_driver {label : Label} {found : IsrCoreState}
    {shows : Display (ByteMemory 32) Write}
    (patient : Patient layout size buffers port offered panel state display)
    (taken : Panel.step profile api size panel (.driver label) = some after)
    (notEnter : forall waker, label ≠ .enter waker) (kept : label ≠ .cancel)
    (still : Related layout size buffers port offered after found shows) :
    Patient layout size buffers port offered after found shows := by
  rcases Panel.step_driver taken with ⟨_, system, moved, same⟩
  rcases handed_step moved notEnter patient.handed with ⟨known, _, sameKnown, recorded⟩
  rw [sameKnown kept] at recorded
  subst same
  exact ⟨still, patient.related.invariant.settled_step patient.settled moved kept still.invariant,
    recorded⟩

/-- The relation to the display, as long as no future has been dropped. -/
def Awaited (layout : Layout) (size : Nat) (buffers : List Addr) (port : Nat × Addr × WordSize)
    (trace : List PanelLabel) (events : List (DisplayEvent (ByteMemory 32))) (panel : Panel)
    (display : Display (ByteMemory 32) Write) : Prop :=
  PanelLabel.driver .cancel ∉ trace -> Exists fun state =>
    Patient layout size buffers port (Display.offers events) panel state display

theorem Patient.answers {events : List (DisplayEvent (ByteMemory 32))} {label : PanelLabel}
    (within : layout.Within size) (apart : buffers.Pairwise (ByteMemory.Apart size))
    (patient : Patient layout size buffers port (Display.offers events) panel state display)
    (taken : Panel.step profile api size panel label = some after) (kept : label ≠ .driver .cancel) :
    Exists fun more => Exists fun shows =>
      Run (Display.patientStep (frameOf layout port)) display more shows ∧
        Exists fun found =>
          Patient layout size buffers port (Display.offers (more ++ events)) after found shows := by
  have related := patient.related
  cases label with
  | draw fbPtr offset byte =>
      have still := related.step_draw apart taken
      have held_kept := related.draw_keeps_held apart taken
      rcases Panel.step_draw taken with ⟨_, same⟩
      subst same
      refine ⟨[], display, .refl, state, still, patient.settled, ?_⟩
      exact patient.handed.trans
        (congrArg (fun held => held.toList ++ Display.offers events) held_kept.symm)
  | fetch =>
      rcases related.step_fetch within taken with ⟨shows, emits, still⟩
      rcases Panel.step_fetch related.invariant.present related.invariant.streaming.outstanding taken
        with ⟨_, same⟩
      subst same
      exact ⟨[.emit], shows, Run.refl.snoc emits, state, still, patient.settled, patient.handed⟩
  | driver label =>
      have awaits : label ≠ .cancel := fun same => kept (congrArg PanelLabel.driver same)
      by_cases isr : label = .isr
      · subst isr
        rcases related.step_isr taken with ⟨found, shows, quiet | ends, still⟩
        · exact ⟨[], display, .refl, found,
            patient.step_driver taken nofun awaits (quiet ▸ still)⟩
        · exact ⟨[.wrap], shows, Run.refl.snoc ends, found,
            patient.step_driver taken nofun awaits still⟩
      · by_cases enter : Exists fun waker => label = .enter waker
        · rcases enter with ⟨waker, same⟩
          subst same
          rcases patient.step_enter taken with ⟨picture, found, shows, offers, still⟩
          exact ⟨[.offer picture], shows, Run.refl.snoc offers, found, still⟩
        · have notEnter : forall waker, label ≠ .enter waker := fun waker same => enter ⟨waker, same⟩
          exact ⟨[], display, .refl, state, patient.step_driver taken notEnter awaits
            (related.step_task isr notEnter taken)⟩

theorem Awaited.initial {core0 core : IsrCore} {state0 : IsrCoreState} {base : Addr}
    {hand : List Addr} (present : core0.state = some state0) (quiet : state0.channel.active = [])
    (started : core0.startFirstTransfer profile api (layout.instanceAt base) base = .ok core)
    (distinct : (base :: hand).Nodup) (memory : ByteMemory 32) :
    Awaited layout size (base :: hand) state0.port [] []
      (Panel.started (System.started core hand) memory)
      (Display.initial (memory.contents size base)) := by
  intro _
  have initially : Relates layout size (base :: hand) state0.port []
      (Panel.started (System.started core hand) memory)
      (Display.initial (memory.contents size base)) :=
    Relates.initial present quiet started distinct memory
  rcases initially with ⟨state, related⟩
  refine ⟨state, related, fun _ => ?_, rfl⟩
  have nothing := related.waiting
  cases waiting : state.pendingDelta.isSome with
  | false => rfl
  | true =>
      rw [if_pos waiting] at nothing
      cases nothing

/-- A caller that drops no future gets every picture on the panel.  The pictures that have
come on are all that were handed to `swap`, in their order, except for the one of a swap that
has not completed.  The last of them is the one that is being shown, and of every other one at
least one whole frame has been completed.  Between two swaps, and as soon as the swap has
completed, none is missing, so the picture on the panel is the one that was handed over
last. -/
theorem shows_every_picture (profile : Profile) (api : ChannelApi) (layout : Layout) {size : Nat}
    {core0 core : IsrCore} {state0 : IsrCoreState} {base : Addr} {hand : List Addr}
    (memory : ByteMemory 32) (present : core0.state = some state0)
    (quiet : state0.channel.active = [])
    (started : core0.startFirstTransfer profile api (layout.instanceAt base) base = .ok core)
    (distinct : (base :: hand).Nodup) (within : layout.Within size)
    (apart : (base :: hand).Pairwise (ByteMemory.Apart size)) {trace : List PanelLabel}
    {panel : Panel}
    (run : Run (Panel.step profile api size) (Panel.started (System.started core hand) memory)
      trace panel) (awaited : PanelLabel.driver .cancel ∉ trace) :
    Exists fun state => panel.system.core.state = some state ∧
      Exists fun chosen => Exists fun completed => Exists fun unshown =>
        Exhibits (frameOf layout state0.port) (memory.contents size base)
            (panel.handed.map Prod.snd) panel.output chosen completed
            (panel.memory.contents size state.currentFbPtr) ∧
          (Exists fun earlier : List (ByteMemory 32) =>
            chosen ++ [memory.contents size base] =
                panel.memory.contents size state.currentFbPtr :: earlier ∧
              earlier.Sublist completed) ∧
          panel.handed.map Prod.snd = unshown ++ chosen ∧ unshown.length ≤ 1 ∧
          (panel.system.held = none ->
            panel.system.phase = .idle ∨ panel.system.core.swapDone = true -> unshown = []) := by
  have initially : Awaited layout size (base :: hand) state0.port [] []
      (Panel.started (System.started core hand) memory)
      (Display.initial (memory.contents size base)) :=
    Awaited.initial present quiet started distinct memory
  have simulated : Simulated (Display.patientStep (frameOf layout state0.port))
      (Display.initial (memory.contents size base))
      (Awaited layout size (base :: hand) state0.port) trace panel := by
    refine Simulated.run initially ?_ run
    intro past events before display label next related taken
    by_cases kept : PanelLabel.driver .cancel ∉ label :: past
    · rcases related fun member => kept (List.mem_cons_of_mem label member) with ⟨state, patient⟩
      have awaits : label ≠ .driver .cancel := fun same => kept (same ▸ List.mem_cons_self)
      rcases patient.answers within apart taken awaits with ⟨more, shows, continued, found, still⟩
      exact ⟨more, shows, continued, fun _ => ⟨found, still⟩⟩
    · exact ⟨[], display, .refl, fun absent => absurd absent kept⟩
  rcases simulated with ⟨events, display, shows, relates⟩
  rcases relates awaited with ⟨state, patient⟩
  rcases Display.complete_of_run shows with ⟨chosen, exhibits, all⟩
  have related := patient.related
  have handed := patient.handed
  rw [all, ← List.append_assoc] at handed
  rw [related.shown, ← related.output] at exhibits
  refine ⟨state, related.invariant.present, chosen, display.completed, _,
    exhibits.mono related.offered_handed, exhibits.chronicle.outlasted, handed, ?_, ?_⟩
  · rw [List.length_append]
    cases held : panel.system.held with
    | none =>
        rw [Option.map_none, Option.toList_none, List.length_nil, Nat.zero_add]
        cases display.waiting with
        | none => exact Nat.zero_le 1
        | some picture => exact Nat.le_refl 1
    | some buffer =>
        have idle : panel.system.phase = .idle := related.invariant.calling (held ▸ rfl)
        rw [patient.free idle]
        exact Nat.le_refl 1
  · intro free finished
    have nothing : display.waiting = none := by
      rcases finished with idle | done
      · exact patient.free idle
      · rw [related.waiting, related.invariant.absent_of_done done]
        rfl
    rw [free, nothing]
    rfl

/-- In the earlier example the second picture has come on, and nothing is left over. -/
theorem shows_every_picture_of_show :
    Exists fun panel => execute (Panel.step Profile.release assertingApi 128)
        (Panel.started (System.started startedCore [0x20002000]) fun _ => 0) exampleShow =
          some panel ∧
      Exists fun state => panel.system.core.state = some state ∧
        Exists fun chosen => Exists fun completed =>
          Exhibits (frameOf Layout.twoSegments (5, 0x40020815, .oneByte))
              (ByteMemory.contents (fun _ => 0) 128 (0x20000000 : Addr))
              (panel.handed.map Prod.snd) panel.output chosen completed
              (panel.memory.contents 128 state.currentFbPtr) ∧
            panel.handed.map Prod.snd = chosen := by
  have runs : (execute (Panel.step Profile.release assertingApi 128)
      (Panel.started (System.started startedCore [0x20002000]) fun _ => 0) exampleShow).map
        (fun panel => (panel.system.held, panel.system.phase)) = some (none, .idle) := by
    decide +kernel
  rcases Option.map_eq_some_iff.mp runs with ⟨panel, executed, reached⟩
  have distinct : [0x20000000, (0x20002000 : Addr)].Nodup := by decide
  have awaited : PanelLabel.driver .cancel ∉ exampleShow.reverse := by
    simp only [exampleShow, List.mem_reverse, List.mem_append, List.mem_cons, List.mem_replicate,
      List.not_mem_nil, PanelLabel.driver.injEq, reduceCtorEq, and_false, or_self, not_false_eq_true]
  rcases shows_every_picture Profile.release assertingApi Layout.twoSegments (fun _ => 0)
    (show initialisedCore.state = some _ from rfl) rfl
    (show initialisedCore.startFirstTransfer Profile.release assertingApi
      (Layout.twoSegments.instanceAt 0x20000000) 0x20000000 = .ok startedCore from rfl)
    distinct Layout.twoSegments_within exampleBuffers_apart (run_of_execute executed) awaited with
    ⟨state, present, chosen, completed, unshown, exhibits, _, handed, _, settled⟩
  rw [settled (congrArg Prod.fst reached) (Or.inl (congrArg Prod.snd reached))] at handed
  exact ⟨panel, executed, state, present, chosen, completed, exhibits, handed⟩

end Dma
end Driver
end Hub75
