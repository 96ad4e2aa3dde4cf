import Encounter.Run.World

namespace Encounter.Run.Attack

variable {δ σ : Type}

def stepId : String := "attack"

def request (s : ActionState) (a : Actor) : Pool.Request where
  modifiers := s.dialog.attackModifiers
  action := .attack
  advantage := s.dialog.advantage
  disadvantage := s.dialog.disadvantage
  actor := some a
  dialog := some s.dialog
  vetoed := s.vetoed

def rollsSeparately (t : Table δ σ) (d : Dialog) : Bool :=
  d.rollSeparate.getD t.settings.workflow.rollSeparate

def recorded (r : Check.Resolution) (o : TargetOutcome) : TargetOutcome :=
  { o with attack := some r, hit := some r.success, critical := r.success && r.isCriticalSuccess }

def resolve (t : Table δ σ) (d : Dialog) (ms : List Check.RangeModification)
    (o : Dice.Outcome) (target : Target) : RunM δ σ Unit := do
  reportNatural o
  let r := t.engine.classifyOutcome o target.armorClass .attack d.criticalRange ms
  record target (recorded r)
  info "Attack resolved" [("target", .text target.name), ("total", .int r.total),
    ("armor_class", .int target.armorClass), ("hit", .bool r.success),
    ("critical", .bool (r.success && r.isCriticalSuccess))]

def run (t : Table δ σ) : RunM δ σ Unit := do
  let a ← requireActor stepId
  let s ← readState
  let d := s.dialog
  let pool ← t.builder.build (request s a)
  storePool stepId pool
  let ms ← t.registry.rangeModifications a "attack-resolve" "attack" (some d) s.vetoed
  if s.liveTargets.isEmpty then
    let o ← t.roll stepId pool.formula
    info "Attack rolled without targets" [("formula", .text pool.formula), ("total", .int o.total)]
  else if rollsSeparately t d then
    s.liveTargets.forM fun target => do
      let o ← t.roll stepId pool.formula (some target.id)
      resolve t d ms o target
  else
    let o ← t.roll stepId pool.formula
    s.liveTargets.forM (resolve t d ms o)

end Encounter.Run.Attack
