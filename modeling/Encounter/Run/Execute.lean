import Encounter.Run.Step.ApplyDamage
import Encounter.Run.Step.Attack
import Encounter.Run.Step.SkillCheck
import Encounter.Run.Step.Complete
import Encounter.Run.Step.Damage
import Encounter.Run.Step.Save
import Encounter.Run.Step.Start

namespace Encounter.Run

variable {δ σ : Type}

inductive Reply
  | handedBack
  | nothing
  deriving DecidableEq, Repr

abbrev Handler (δ σ : Type) := RunM δ σ Reply

abbrev Handlers (δ σ : Type) := List (String × Handler δ σ)

def handingBack (m : RunM δ σ Unit) : RunM δ σ Reply := do
  m
  return .handedBack

def shippedHandlers (t : Table δ σ) : Handlers δ σ :=
  [(Start.stepId, Start.run t), (Attack.stepId, Attack.run t), (Damage.stepId, Damage.run t),
    (Save.stepId, Save.run t), (ApplyDamage.stepId, ApplyDamage.run t),
    (SkillCheck.stepId, SkillCheck.run t), (Complete.stepId, Complete.run)].map fun h =>
      (h.1, handingBack h.2)

/-- What an observer does after a step: it may cancel the run, and it may fail. -/
structure Reaction where
  cancels : Bool := false
  failure : Option Failure := none

abbrev Observer := String → ActionState → Reaction

def failed (step message typeName : String) : RunM δ σ Unit := do
  addError "step_runtime" message (some step)
  report [⟨.error, "Step failed",
    [("step", .text step), ("error", .text message), ("error_type", .text typeName)]⟩]

def noHandler (s : ActionState) (step message : String) : Failure :=
  s.misconfigured message ("step", .text step)

def gaveNothing (step : String) : Failure :=
  stepFailure ("Step '" ++ step ++ "' did not return the action state") step

def answered (h : Handler δ σ) (step : String) : RunM δ σ Unit := do
  match ← h with
  | .handedBack => return ()
  | .nothing => throw (gaveNothing step)

def recordedEvent (step : String) (e : ErrorEntry) : Log.Event :=
  ⟨.warning, "Step recorded error",
    [("step", .text step), ("error_type", .text e.kind), ("message", .text e.message)]⟩

/-- Run one step. Its failure is recorded before it goes on. -/
def runStep (handlers : Handlers δ σ) (step : String) : RunM δ σ Unit := do
  match Entries.get? handlers step with
  | none =>
    let message := "No handler registered for step '" ++ step ++ "'"
    let s ← readState
    failed step message FaultKind.workflowConfiguration.name
    throw (noHandler s step message)
  | some h =>
    let before := (← readState).errors.length
    tryCatch (answered h step) fun e => do
      failed step e.reason e.typeName
      throw e
    report (((← readState).errors.drop before).map (recordedEvent step))

/-- The failure of an observer is reported and does not stop the run. -/
def observe (step : String) (o : Observer) : RunM δ σ Unit := do
  let reaction := o step (← readState)
  let cancelling : RunM δ σ Unit := if reaction.cancels then act (·.cancel) else return ()
  let failing : RunM δ σ Unit := match reaction.failure with
    | some e => throw e
    | none => return ()
  tryCatch (do cancelling; failing) fun _ =>
    report [⟨.error, "Step callback failed", [("step", .text step)]⟩]

def finishStep (step : String) : RunM δ σ Unit := do
  update fun s => { s with completed := s.completed ++ [step] }
  modify fun w => { w with visited := w.visited ++ [(step, w.state)] }

/-- Run the steps that are left, up to the first one that completes the workflow. -/
def runFrom (handlers : Handlers δ σ) (observers : List Observer) : List String → RunM δ σ Unit
  | [] => throw .pastEnd
  | step :: rest => do
    let s ← readState
    if s.cancelled then
      info "Workflow cancelled" [("step", .text step), ("completed_steps", .texts s.completed)]
    else
      runStep handlers step
      finishStep step
      observers.forM (observe step)
      if step == ActionState.completeStep then
        let s ← readState
        info "Workflow finished"
          [("completed_steps", .texts s.completed), ("errors", .int s.errors.length)]
      else
        let _ ← act (·.nextStep)
        runFrom handlers observers rest

def execute (handlers : Handlers δ σ) (observers : List Observer) : RunM δ σ Unit := do
  let s ← readState
  info "Workflow started" [("steps", .texts s.steps), ("chain_number", .int s.chain)]
  runFrom handlers observers (s.steps.drop s.chain)

def chooseWorkflow (settings : Settings) (table : List Workflow) (asked : Value) :
    Result Workflow :=
  if asked.isTruthy then Workflow.named table asked
  else Workflow.find table settings.workflow.defaultWorkflow

end Encounter.Run
