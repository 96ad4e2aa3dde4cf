import Encounter.Run.World

namespace Encounter.Run.Complete

variable {δ σ : Type}

def stepId : String := "complete"

/-- What the summary says of a target. Nothing was resolved against a target without an outcome. -/
def targetSummary (s : ActionState) (target : Target) : Value :=
  let o := (s.outcome? target.id).getD (.ofTarget target)
  .object [("id", .text target.id), ("name", .text target.name),
    ("error", .ofOption .text target.error), ("hit", .ofOption .bool o.hit),
    ("critical", .bool o.critical), ("damage_by_type", .ints o.damageByType),
    ("damage_total", .int o.damageTotal), ("saved", .ofOption .bool o.saved),
    ("damage_applied", .ofOption .int o.damageApplied)]

def summary (s : ActionState) : Value :=
  .object [("workflow_type", .text s.workflow),
    ("actor", .ofOption (fun a : Actor => .text a.name) s.actor),
    ("item", .ofOption .text s.dialog.itemName),
    ("targets", .list (s.targets.map (targetSummary s))),
    ("rolls", .list (s.rolls.map RollRecord.toValue)),
    ("check", .ofOption Check.Resolution.toValue s.checkResult),
    ("vetoed_features", .texts s.vetoed), ("errors", .list (s.errors.map ErrorEntry.toValue))]

def run : RunM δ σ Unit := do
  update fun s => { s with isFinished := true }
  update fun s => { s with summary := some (summary s) }
  let s ← readState
  info "Action completed" [("rolls", .int s.rolls.length), ("errors", .int s.errors.length)]

end Encounter.Run.Complete
