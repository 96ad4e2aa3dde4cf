import Encounter.Proofs.Run.Perform

namespace Encounter.Run

variable {δ σ α : Type}

namespace ActionState

/-- Three steps or more, the last one completes the workflow, and the position is within them. -/
structure WellFormed (s : ActionState) : Prop where
  length : leastSteps ≤ s.steps.length
  last : s.steps.getLast? = some completeStep
  position : s.chain < s.steps.length

theorem check_eq_ok_iff (s : ActionState) : s.check = .ok () ↔ s.WellFormed := by
  constructor
  · intro h
    unfold check at h
    split at h
    · cases h
    split at h
    · cases h
    split at h
    · cases h
    rename_i hlength hlast hposition
    exact ⟨by omega, by simpa using hlast, by omega⟩
  · rintro ⟨hlength, hlast, hposition⟩
    have h₁ : ¬ s.steps.length < leastSteps := by omega
    have h₂ : ¬ s.steps.length ≤ s.chain := by omega
    simp [check, h₁, h₂, hlast]

theorem WellFormed.check {s : ActionState} (h : s.WellFormed) : s.check = .ok () :=
  (check_eq_ok_iff s).mpr h

/-- The course of a run: its steps, the position among them, and what is completed. -/
structure SameCourse (s t : ActionState) : Prop where
  steps : t.steps = s.steps
  chain : t.chain = s.chain
  completed : t.completed = s.completed

theorem SameCourse.refl (s : ActionState) : SameCourse s s := ⟨rfl, rfl, rfl⟩

theorem WellFormed.of_steps {s t : ActionState} (h : s.WellFormed) (hs : t.steps = s.steps)
    (hc : t.chain = s.chain) : t.WellFormed where
  length := hs ▸ h.length
  last := hs ▸ h.last
  position := by rw [hs, hc]; exact h.position

theorem WellFormed.of_sameCourse {s t : ActionState} (h : s.WellFormed) (k : SameCourse s t) :
    t.WellFormed := h.of_steps k.steps k.chain

def remaining (s : ActionState) : List String := s.steps.drop s.chain

theorem WellFormed.remaining_ne_nil {s : ActionState} (h : s.WellFormed) : s.remaining ≠ [] := by
  simpa [remaining, List.drop_eq_nil_iff] using h.position

theorem WellFormed.getLast_remaining {s : ActionState} (h : s.WellFormed) :
    s.remaining.getLast? = some completeStep := by
  have hp := h.position
  rw [remaining, List.getLast?_drop, if_neg (by omega), h.last]

theorem SameCourse.remaining {s t : ActionState} (h : SameCourse s t) :
    t.remaining = s.remaining := by
  rw [ActionState.remaining, ActionState.remaining, h.steps, h.chain]

theorem currentStep_of_remaining {s : ActionState} {step : String} {rest : List String}
    (h : s.remaining = step :: rest) : s.currentStep = .ok step := by
  have hs : s.steps[s.chain]? = some step := by
    rw [← Nat.add_zero s.chain, ← List.getElem?_drop]
    change s.remaining[0]? = some step
    rw [h]
    rfl
  simp [currentStep, hs]

def withError (s : ActionState) (e : ErrorEntry) : ActionState :=
  { s with errors := s.errors ++ [e] }

def stopped (s : ActionState) : ActionState := { s with cancelled := true }

def past (s : ActionState) (step : String) : ActionState :=
  { s with completed := s.completed ++ [step] }

theorem WellFormed.withError {s : ActionState} (h : s.WellFormed) (e : ErrorEntry) :
    (s.withError e).WellFormed := h.of_steps rfl rfl

theorem WellFormed.stopped {s : ActionState} (h : s.WellFormed) : s.stopped.WellFormed :=
  h.of_steps rfl rfl

theorem WellFormed.rolled {s : ActionState} (h : s.WellFormed) (step formula : String)
    (id : Option String) (o : Dice.Outcome) : (s.rolled step formula id o).WellFormed :=
  h.of_steps rfl rfl

theorem WellFormed.past {s : ActionState} (h : s.WellFormed) (step : String) :
    (s.past step).WellFormed := h.of_steps rfl rfl

def advanced (s : ActionState) : ActionState := { s with chain := s.chain + 1 }

theorem remaining_advanced (s : ActionState) : s.advanced.remaining = s.remaining.tail := by
  rw [← List.drop_one]
  exact List.drop_drop.symm

theorem remaining_advanced_of_cons {s : ActionState} {step : String} {rest : List String}
    (h : s.remaining = step :: rest) : s.advanced.remaining = rest := by
  rw [remaining_advanced, h, List.tail_cons]

theorem WellFormed.advanced {s : ActionState} (h : s.WellFormed) {step next : String}
    {rest : List String} (hr : s.remaining = step :: next :: rest) : s.advanced.WellFormed where
  length := h.length
  last := h.last
  position := by
    have hl := congrArg List.length hr
    simp only [remaining, List.length_drop, List.length_cons] at hl
    change s.chain + 1 < s.steps.length
    omega

end ActionState

open ActionState

theorem perform_update_ok {f : ActionState → ActionState} {w : World δ σ}
    (h : (f w.state).WellFormed) :
    perform (update f : RunM δ σ Unit) w = (.ok (), { w with state := f w.state }) := by
  rw [perform_update, h.check]

theorem perform_addError_ok {w : World δ σ} (h : w.state.WellFormed) (kind message : String)
    (step : Option String) :
    perform (addError kind message step : RunM δ σ Unit) w =
      (.ok (), { w with state := w.state.withError ⟨kind, message, step⟩ }) := by
  rw [addError, perform_act]
  change ((w.state.withError _).check, _) = _
  rw [(h.withError _).check]
  rfl

theorem perform_cancel_ok {w : World δ σ} (h : w.state.WellFormed) :
    perform (act (·.cancel) : RunM δ σ Unit) w = (.ok (), { w with state := w.state.stopped }) := by
  rw [perform_act]
  change (w.state.stopped.check, _) = _
  rw [h.stopped.check]
  rfl

theorem perform_nextStep_ok {w : World δ σ} (h : w.state.WellFormed) {step next : String}
    {rest : List String} (hr : w.state.remaining = step :: next :: rest) :
    perform (act (·.nextStep) : RunM δ σ String) w =
      (.ok next, { w with state := w.state.advanced }) := by
  have ha := h.advanced hr
  have hp : w.state.chain + 1 < w.state.steps.length := ha.position
  have hc : w.state.advanced.currentStep = .ok next :=
    currentStep_of_remaining (remaining_advanced_of_cons hr)
  have hs : w.state.advanced.stored = (.ok (), w.state.advanced) := by
    rw [ActionState.stored, ha.check]
  rw [perform_act, ActionState.nextStep, if_pos (by simpa [hasMoreSteps] using hp)]
  change (((w.state.advanced.stored).1 >>= fun _ => (w.state.advanced.stored).2.currentStep),
    ({ w with state := (w.state.advanced.stored).2 } : World δ σ)) = _
  rw [hs]
  change (w.state.advanced.currentStep, ({ w with state := w.state.advanced } : World δ σ)) = _
  rw [hc]

end Encounter.Run
