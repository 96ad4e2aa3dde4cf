import Encounter.Check.Contest
import Encounter.Creature.Source
import Encounter.Run.State
import Encounter.Settings

namespace Encounter.Run

structure Table (δ σ : Type) where
  registry : Registry
  builder : Pool.Builder
  engine : Check.Engine
  evaluator : Evaluator δ
  source : ActorSource σ
  settings : Settings

def Table.make {δ σ : Type} (registry : Registry) (evaluator : Evaluator δ)
    (source : ActorSource σ) (settings : Settings) : Table δ σ where
  registry := registry
  builder := .make (some registry) settings.dice.damageType
  engine := settings.engine
  evaluator := evaluator
  source := source
  settings := settings

/-- The state of the run, of the dice and of the creatures, what was reported, and the state after
each step that finished. -/
structure World (δ σ : Type) where
  state : ActionState
  dice : δ
  source : σ
  events : List Log.Event := []
  visited : List (String × ActionState) := []

abbrev RunM (δ σ : Type) := ExceptT Failure (StateM (World δ σ))

variable {δ σ α : Type}

def report (events : List Log.Event) : RunM δ σ Unit :=
  modify fun w => { w with events := w.events ++ events }

def info (name : String) (fields : List (String × Value)) : RunM δ σ Unit :=
  report [⟨.info, name, fields⟩]

def readState : RunM δ σ ActionState := return (← get).state

def act (op : ActionState → ActionState.Step α) : RunM δ σ α := do
  let w ← get
  let (answer, s) := op w.state
  set { w with state := s }
  answer

def update (f : ActionState → ActionState) : RunM δ σ Unit := act fun s => (f s).stored

def addError (kind message : String) (step : Option String) : RunM δ σ Unit :=
  act fun s => s.addError ⟨kind, message, step⟩

def stepFailure (message step : String) : Failure :=
  .fault (.make .workflowStep message [("step", .text step)])

def requireActor (step : String) : RunM δ σ Actor := do
  match (← readState).actor with
  | some a => return a
  | none => throw (stepFailure "Actor has not been resolved; the start step must run first" step)

def Table.roll (t : Table δ σ) (step formula : String) (targetId : Option String := none) :
    RunM δ σ Dice.Outcome := do
  let w ← get
  let (answer, dice) := t.evaluator.evaluate formula w.dice
  set { w with dice := dice }
  let o ← answer
  let totals := Entries.ofList o.totalsByType
  act fun s => s.recordRoll ⟨step, formula, o.total, o.natural, targetId, totals⟩
  return o

def storePool (key : String) (p : Pool.DicePool) : RunM δ σ Unit :=
  update fun s => { s with pools := Entries.put s.pools key p }

/-- A roll that should have a natural face but has none is reported. -/
def reportNatural (o : Dice.Outcome) : RunM δ σ Unit :=
  if Check.lacksNatural o then
    report [⟨.warning, "No natural d20 found in roll",
      [("formula", .text o.formula), ("total", .int o.total)]⟩]
  else return ()

def record (target : Target) (f : TargetOutcome → TargetOutcome) : RunM δ σ Unit :=
  act fun s =>
    match s.outcomeFor target with
    | (.ok o, s) => (.ok (), s.setOutcome target.id (f o))
    | (.error e, s) => (.error e, s)

def attackResolved (s : ActionState) : Bool := s.outcomes.any fun o => o.2.attack.isSome

def wasHit (s : ActionState) (target : Target) : Bool :=
  ((s.outcome? target.id).bind (·.hit)).getD false

/-- The live targets, of which only those that were hit count once an attack was resolved. -/
def affectedTargets (s : ActionState) : List Target :=
  if attackResolved s then s.liveTargets.filter (wasHit s) else s.liveTargets

end Encounter.Run
