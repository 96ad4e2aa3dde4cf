import Encounter.Run.World

namespace Encounter.Run.SkillCheck

variable {δ σ : Type}

def stepId : String := "check"

def request (s : ActionState) (a : Actor) : Pool.Request where
  modifiers := s.dialog.checkModifiers
  action := s.dialog.checkChoice.action
  advantage := s.dialog.advantage
  disadvantage := s.dialog.disadvantage
  actor := some a
  dialog := some s.dialog
  vetoed := s.vetoed

def run (t : Table δ σ) : RunM δ σ Unit := do
  let a ← requireActor stepId
  let s ← readState
  let d := s.dialog
  match d.checkDc with
  | none => throw (stepFailure "Check step requires a check DC" stepId)
  | some dc =>
    let pool ← t.builder.build (request s a)
    storePool stepId pool
    let o ← t.roll stepId pool.formula
    reportNatural o
    let r := t.engine.classifyOutcome o dc d.checkChoice.kind none []
    update fun s => { s with checkResult := some r }
    info "Check resolved" [("check_type", .text d.checkChoice.name), ("total", .int o.total),
      ("dc", .int dc), ("degree", .text r.degree.name)]

end Encounter.Run.SkillCheck
