import Encounter.Run.World

namespace Encounter.Run.Save

variable {δ σ : Type}

def stepId : String := "save"

def poolKey (target : Target) : String := "save:" ++ target.id

def request (d : Dialog) (target : Target) : Pool.Request where
  action := .save
  modifiers :=
    { name := Text.title d.saveAbility ++ " Save",
      fragment := Numeral.text (target.saveBonus d.saveAbility) } :: d.saveModifiers

def recorded (r : Check.Resolution) (o : TargetOutcome) : TargetOutcome :=
  { o with save := some r, saved := some r.success }

def resolve (t : Table δ σ) (d : Dialog) (dc : Int) (target : Target) : RunM δ σ Unit := do
  let pool ← t.builder.build (request d target)
  storePool (poolKey target) pool
  let o ← t.roll stepId pool.formula (some target.id)
  reportNatural o
  let r := t.engine.classifyOutcome o dc .save none []
  record target (recorded r)
  info "Save resolved" [("target", .text target.name), ("ability", .text d.saveAbility),
    ("total", .int r.total), ("dc", .int dc), ("saved", .bool r.success)]

def run (t : Table δ σ) : RunM δ σ Unit := do
  let s ← readState
  match s.dialog.saveDc with
  | none => throw (stepFailure "Save step requires a save DC" stepId)
  | some dc => (affectedTargets s).forM (resolve t s.dialog dc)

end Encounter.Run.Save
