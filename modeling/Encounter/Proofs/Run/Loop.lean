import Encounter.Proofs.Run.Course

namespace Encounter.Run

open ActionState

variable {δ σ : Type}

/-- One turn of the loop. It says whether the loop goes on. -/
def turn (handlers : Handlers δ σ) (observers : List Observer) : RunM δ σ Bool := do
  let s ← readState
  let step ← s.currentStep
  if s.cancelled then
    info "Workflow cancelled" [("step", .text step), ("completed_steps", .texts s.completed)]
    return false
  else
    runStep handlers step
    finishStep step
    observers.forM (observe step)
    let s ← readState
    let done ← s.isComplete
    if done then
      info "Workflow finished"
        [("completed_steps", .texts s.completed), ("errors", .int s.errors.length)]
      return false
    else
      let _ ← act (·.nextStep)
      return true

def turns (handlers : Handlers δ σ) (observers : List Observer) : Nat → RunM δ σ Bool
  | 0 => return true
  | n + 1 => do
    let goesOn ← turn handlers observers
    if goesOn then turns handlers observers n else return false

section

variable {handlers : Handlers δ σ} {observers : List Observer} {step : String}
  {rest : List String} {w u : World δ σ}

theorem perform_turn_cancelled (hl : w.state.remaining = step :: rest)
    (hc : w.state.cancelled = true) :
    perform (turn handlers observers) w = (.ok false, w.halted step) := by
  rw [turn, perform_bind_ok _ (perform_readState w), currentStep_of_remaining hl,
    perform_bind_ok _ (perform_lift (.ok step) w), if_pos hc]
  rfl

theorem perform_turn_failed {e : Failure} (hk : handlers.KeepCourse) (hw : w.state.WellFormed)
    (hl : w.state.remaining = step :: rest) (hc : w.state.cancelled = false)
    (hf : StepFails handlers step w e u) :
    perform (turn handlers observers) w = (.error e, u.afterFailure step e) := by
  rw [turn, perform_bind_ok _ (perform_readState w), currentStep_of_remaining hl,
    perform_bind_ok _ (perform_lift (.ok step) w), if_neg (by simp [hc])]
  exact perform_bind_error _ (perform_runStep_fails hk hw hf)

theorem isComplete_settled (hk : handlers.KeepCourse) (hw : w.state.WellFormed)
    (hl : w.state.remaining = step :: rest) (hp : StepPasses handlers step w u) (known : Nat) :
    (u.settled observers step known).state.isComplete = .ok (step == completeStep) := by
  have hr := (remaining_settled hk hw hp observers known).trans hl
  rw [isComplete, currentStep_of_remaining hr]
  rfl

theorem perform_turn_finished (hk : handlers.KeepCourse) (hw : w.state.WellFormed)
    (hl : w.state.remaining = step :: rest) (hc : w.state.cancelled = false)
    (hp : StepPasses handlers step w u) (hs : step = completeStep) :
    perform (turn handlers observers) w =
      (.ok false, (u.settled observers step w.state.errors.length).closed) := by
  rw [turn, perform_bind_ok _ (perform_readState w), currentStep_of_remaining hl,
    perform_bind_ok _ (perform_lift (.ok step) w), if_neg (by simp [hc]),
    perform_after_step hk hw hp, perform_bind_ok _ (perform_readState _),
    isComplete_settled hk hw hl hp, perform_bind_ok _ (perform_lift (.ok _) _),
    if_pos (by simp [hs])]
  rfl

theorem perform_turn_next (hk : handlers.KeepCourse) (hw : w.state.WellFormed)
    (hl : w.state.remaining = step :: rest) (hc : w.state.cancelled = false)
    (hp : StepPasses handlers step w u) (hs : step ≠ completeStep) :
    perform (turn handlers observers) w =
      (.ok true, (u.settled observers step w.state.errors.length).advanced) := by
  have hu : u.state.WellFormed := hw.of_sameCourse (hp.sameCourse hk hw)
  have hv := wellFormed_settled hu observers step w.state.errors.length
  have hr := (remaining_settled hk hw hp observers w.state.errors.length).trans hl
  obtain ⟨next, tail, rfl⟩ := exists_next hw hl hs
  rw [turn, perform_bind_ok _ (perform_readState w), currentStep_of_remaining hl,
    perform_bind_ok _ (perform_lift (.ok step) w), if_neg (by simp [hc]),
    perform_after_step hk hw hp, perform_bind_ok _ (perform_readState _),
    isComplete_settled hk hw hl hp, perform_bind_ok _ (perform_lift (.ok _) _),
    if_neg (by simpa using hs)]
  exact perform_bind_ok _ (perform_nextStep_ok hv hr)

theorem perform_turns_stop {n : Nat} {v : World δ σ}
    (h : perform (turn handlers observers) w = (.ok false, v)) :
    perform (turns handlers observers (n + 1)) w = (.ok false, v) := by
  rw [turns, perform_bind_ok _ h]
  rfl

theorem perform_turns_goOn {n : Nat} {v : World δ σ}
    (h : perform (turn handlers observers) w = (.ok true, v)) :
    perform (turns handlers observers (n + 1)) w = perform (turns handlers observers n) v := by
  rw [turns, perform_bind_ok _ h]
  rfl

end

/-- The loop takes the course of the run, and stops within as many turns as steps are left. -/
theorem Course.perform_turns {handlers : Handlers δ σ} (hk : handlers.KeepCourse)
    {observers : List Observer} {l : List String} {w v : World δ σ} {r : Result Unit}
    (h : Course handlers observers l w r v) (hw : w.state.WellFormed)
    (hl : w.state.remaining = l) {n : Nat} (hn : l.length ≤ n) :
    perform (turns handlers observers n) w = (r.map fun _ => false, v) := by
  induction h generalizing n with
  | cancelled hc =>
    cases n with
    | zero => cases hn
    | succ n => exact perform_turns_stop (perform_turn_cancelled hl hc)
  | failed hc hf =>
    cases n with
    | zero => cases hn
    | succ n =>
      rw [turns]
      exact perform_bind_error _ (perform_turn_failed hk hw hl hc hf)
  | finished hc hp hs =>
    cases n with
    | zero => cases hn
    | succ n => exact perform_turns_stop (perform_turn_finished hk hw hl hc hp hs)
  | next hc hp hs hr ih =>
    cases n with
    | zero => cases hn
    | succ n =>
      obtain ⟨hw', hl'⟩ := wellFormed_next hk hw hl hp hs observers _
      rw [perform_turns_goOn (perform_turn_next hk hw hl hc hp hs)]
      exact ih hw' hl' (Nat.le_of_succ_le_succ hn)

end Encounter.Run
