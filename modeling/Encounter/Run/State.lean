import Encounter.Creature.Lookup
import Encounter.Dialog
import Encounter.Pool.Builder
import Encounter.Run.Record
import Encounter.Workflow

namespace Encounter.Run

structure ActionState where
  workflow : String
  steps : List String
  chain : Nat := 0
  dialog : Dialog
  actor : Option Actor := none
  targets : List Target := []
  outcomes : List (String × TargetOutcome) := []
  pools : List (String × Pool.DicePool) := []
  rolls : List RollRecord := []
  checkResult : Option Check.Resolution := none
  errors : List ErrorEntry := []
  vetoed : List String := []
  completed : List String := []
  cancelled : Bool := false
  summary : Option Value := none
  isFinished : Bool := false

namespace ActionState

def completeStep : String := "complete"
def leastSteps : Nat := 3

def misconfigured (s : ActionState) (message : String) (detail : String × Value) : Failure :=
  .fault (.make .workflowConfiguration message [("workflow", .text s.workflow)] [detail])

/-- The steps must be three or more and end with the last step, and the position must be within
them. -/
def check (s : ActionState) : Result Unit :=
  if s.steps.length < leastSteps then
    .error (s.misconfigured "Workflow must have at least 3 steps" ("steps", .texts s.steps))
  else if s.steps.getLast? != some completeStep then
    .error (s.misconfigured "Workflow must end with the complete step" ("steps", .texts s.steps))
  else if s.steps.length ≤ s.chain then
    .error (s.misconfigured "Chain number is past the end of the workflow"
      ("chain_number", .int s.chain))
  else .ok ()

/-- A fresh state for a workflow, which must have a name. -/
def create (w : Workflow) (d : Dialog) : Result ActionState := do
  let name ← ((Schema.filledText (.text w.name)).under "workflow_type").result
  let s : ActionState := { workflow := name, steps := w.steps, dialog := d }
  s.check
  return s

def currentStep (s : ActionState) : Result String :=
  match s.steps[s.chain]? with
  | some step => .ok step
  | none => .error .pastEnd

def isComplete (s : ActionState) : Result Bool := s.currentStep.map (· == completeStep)

def hasMoreSteps (s : ActionState) : Bool := s.chain + 1 < s.steps.length

def liveTargets (s : ActionState) : List Target := s.targets.filter (·.isLive)

def errorsFor (s : ActionState) (step : Option String) : List ErrorEntry :=
  s.errors.filter fun e => e.step == step

def outcome? (s : ActionState) (id : String) : Option TargetOutcome := Entries.get? s.outcomes id

def setOutcome (s : ActionState) (id : String) (o : TargetOutcome) : ActionState :=
  { s with outcomes := Entries.put s.outcomes id o }

def readField (s : ActionState) (v : Value) : String → Verdict ActionState
  | "workflow_id" => (Schema.text v).map fun _ => s
  | "workflow_type" => (Schema.filledText v).map fun x => { s with workflow := x }
  | "workflow_steps" => (Schema.list Schema.text v).map fun x => { s with steps := x }
  | "chain_number" => (Schema.integerFrom 0 v).map fun x => { s with chain := x.toNat }
  | "dialog_state" => (Dialog.read v).map fun x => { s with dialog := x }
  | "actor" => (Schema.nullable Actor.read v).map fun x => { s with actor := x }
  | "targets" => (Schema.list Target.read v).map fun x => { s with targets := x }
  | "target_outcomes" =>
    (Schema.dictionary TargetOutcome.read v).map fun x => { s with outcomes := x }
  | "dice_pools" => (Schema.dictionary Pool.DicePool.read v).map fun x => { s with pools := x }
  | "rolls" => (Schema.list RollRecord.read v).map fun x => { s with rolls := x }
  | "check_result" =>
    (Schema.nullable Check.Resolution.read v).map fun x => { s with checkResult := x }
  | "errors" => (Schema.list ErrorEntry.read v).map fun x => { s with errors := x }
  | "vetoed_features" => (Schema.list Schema.text v).map fun x => { s with vetoed := x }
  | "completed_steps" => (Schema.list Schema.text v).map fun x => { s with completed := x }
  | "cancelled" => (Schema.flag v).map fun x => { s with cancelled := x }
  | "summary" =>
    (Schema.nullable (fun v => (Schema.dictionary Schema.anything v).map Value.object) v).map
      fun x => { s with summary := x }
  | "started_at" => (Schema.moment v).map fun _ => s
  | "completed_at" =>
    (Schema.nullable Schema.moment v).map fun x => { s with isFinished := x.isSome }
  | _ => .problem .noSuchAttribute

def fieldNames : List String :=
  ["workflow_id", "workflow_type", "workflow_steps", "chain_number", "dialog_state", "actor",
    "targets", "target_outcomes", "dice_pools", "rolls", "check_result", "errors",
    "vetoed_features", "completed_steps", "cancelled", "summary", "started_at", "completed_at"]

def requiredNames : List String := ["workflow_type", "workflow_steps"]

def computed : List String :=
  ["chain_length", "current_step", "is_complete", "has_more_steps", "live_targets"]

def readInto (fs : Schema.Fields) (acc : Verdict ActionState) (field : String) :
    Verdict ActionState :=
  let next (s : ActionState) : Verdict ActionState :=
    match Entries.get? fs field with
    | some v => (s.readField v field).under field
    | none =>
      if requiredNames.contains field then .rejected [⟨[field], .missing⟩] else .accepted s
  match acc with
  | .accepted s => next s
  | .rejected ps =>
    match next { workflow := "", steps := [], dialog := { actorId := "" } } with
    | .accepted _ => .rejected ps
    | .rejected qs => .rejected (ps ++ qs)
    | .broken e => .broken e
  | .broken e => .broken e

def read (d : Dialog) (fs : Schema.Fields) : Result ActionState := do
  let blank : ActionState := { workflow := "", steps := [], dialog := d }
  let s ← (fieldNames.foldl (readInto fs) (.accepted blank)).result
  s.check
  return s

abbrev Step (α : Type) := Result α × ActionState

/-- A state with a new value in it, checked. The value stays if the check fails. -/
def stored (s : ActionState) : Step Unit := (s.check, s)

/-- Set a field by name. A value that the schema rejects changes nothing, and a name of the
caller's own needs no check. -/
def assign (s : ActionState) (field : String) (v : Value) : Step Unit :=
  match Schema.assign s computed field (s.readField v field) with
  | .ok changed => if field.startsWith "_" then (.ok (), s) else changed.stored
  | .error e => (.error e, s)

def nextStep (s : ActionState) : Step String :=
  if s.hasMoreSteps then
    let (answer, s) := { s with chain := s.chain + 1 }.stored
    (answer >>= fun _ => s.currentStep, s)
  else (s.currentStep, s)

def cancel (s : ActionState) : Step Unit := { s with cancelled := true }.stored

def addError (s : ActionState) (e : ErrorEntry) : Step Unit :=
  { s with errors := s.errors ++ [e] }.stored

def recordRoll (s : ActionState) (r : RollRecord) : Step Unit :=
  { s with rolls := s.rolls ++ [r] }.stored

/-- The outcome of a target, made if there is none. -/
def outcomeFor (s : ActionState) (t : Target) : Step TargetOutcome :=
  match s.outcome? t.id with
  | some o => (.ok o, s)
  | none =>
    let o := TargetOutcome.ofTarget t
    let (answer, s) := (s.setOutcome t.id o).stored
    (answer.map fun _ => o, s)

def assignOutcome (s : ActionState) (id field : String) (v : Value) : Step TargetOutcome :=
  match s.outcome? id with
  | none => (.error (.unknownKey id), s)
  | some o =>
    match o.assign field v with
    | .ok o => (.ok o, s.setOutcome id o)
    | .error e => (.error e, s)

end ActionState
end Encounter.Run
