import Encounter.Run.World

namespace Encounter.Run.Start

variable {δ σ : Type}

def stepId : String := "start"

def actorNotFound (id : String) : Failure :=
  .fault (.make .actorNotFound ("Actor " ++ id ++ " not found") [("actor_id", .text id)])

def requireDifficulties (s : ActionState) : Result Unit :=
  if s.steps.contains "save" && s.dialog.saveDc.isNone then
    .error (stepFailure "Save workflows require a save DC" stepId)
  else if s.steps.contains "check" && s.dialog.checkDc.isNone then
    .error (stepFailure "Check workflows require a check DC" stepId)
  else .ok ()

/-- The kinds of action that a workflow takes, in the order in which features are asked. -/
def dialogTypes (s : ActionState) : List String :=
  s.steps.filter (fun step => ["attack", "damage", "save"].contains step) ++
    (if s.steps.contains "check" then [s.dialog.checkChoice.name] else [])

def candidates (r : Registry) (a : Actor) (types : List String) : List (String × Feature) :=
  types.flatMap fun ty => (r.forDialog a ty).map fun f => (ty, f)

def veto (f : Feature) (reason : String) : RunM δ σ Unit := do
  addError "feature_veto" reason (some stepId)
  info "Feature vetoed" [("feature_id", .text f.id), ("reason", .text reason)]

def vetoes (a : Actor) (d : Dialog) :
    List String → List (String × Feature) → RunM δ σ (List String)
  | vetoed, [] => return vetoed
  | vetoed, (ty, f) :: rest => do
    if vetoed.contains f.id then vetoes a d vetoed rest
    else
      let (reason, events) ← f.consult a ty (some d) (some stepId)
      report events
      match reason with
      | none => vetoes a d vetoed rest
      | some reason =>
        veto f reason
        vetoes a d (vetoed ++ [f.id]) rest

def lookUpTargets (t : Table δ σ) (d : Dialog) : RunM δ σ Unit := do
  let w ← get
  let found := lookUp (fun id => t.source.target id w.source) d.targetIds (some stepId)
  report (found.filterMap (·.event))
  update fun s => { s with targets := found.map (·.target) }
  update fun s => { s with errors := s.errors ++ found.filterMap (·.error) }

def findActor (t : Table δ σ) (id : String) : RunM δ σ Actor := do
  match ← t.source.actor id (← get).source with
  | some a => return a
  | none => throw (actorNotFound id)

def run (t : Table δ σ) : RunM δ σ Unit := do
  let s ← readState
  let d := s.dialog
  requireDifficulties s
  let a ← findActor t d.actorId
  update fun s => { s with actor := some a }
  lookUpTargets t d
  let vetoed ← vetoes a d [] (candidates t.registry a (dialogTypes s))
  update fun s => { s with vetoed := vetoed }
  let s ← readState
  info "Action started" [("actor", .text a.name), ("targets", .int s.targets.length),
    ("vetoed", .texts s.vetoed)]

end Encounter.Run.Start
