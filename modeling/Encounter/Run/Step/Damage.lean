import Encounter.Run.World

namespace Encounter.Run.Damage

variable {δ σ : Type}

def stepId : String := "damage"

def request (s : ActionState) (a : Actor) (critical : Bool) : Pool.Request where
  modifiers := s.dialog.damageModifiers
  action := .damage
  advantage := s.dialog.damageAdvantage
  disadvantage := s.dialog.damageDisadvantage
  critical := critical
  actor := some a
  dialog := some s.dialog
  vetoed := s.vetoed

def rollPool (t : Table δ σ) (a : Actor) (key : String) (critical : Bool) :
    RunM δ σ (Pool.DicePool × Dice.Outcome) := do
  let pool ← t.builder.build (request (← readState) a critical)
  storePool key pool
  let o ← t.roll stepId pool.formula
  return (pool, o)

/-- No type of damage is negative. Damage without types is of the base type, if there is any. -/
def totals (baseType : String) (o : Dice.Outcome) : List (String × Int) :=
  if o.totalsByType.isEmpty then
    if o.total ≤ 0 then [] else [(baseType, o.total)]
  else Entries.mapValues (max 0) (Entries.ofList o.totalsByType)

def doubled (xs : List (String × Int)) : List (String × Int) := Entries.mapValues (· * 2) xs

def deal (damage : List (String × Int)) (targets : List Target) : RunM δ σ Unit :=
  targets.forM fun target => record target fun o => { o with damageByType := damage }

def isCritical (s : ActionState) (target : Target) : Bool :=
  ((s.outcome? target.id).map (·.critical)).getD false

def openOutcomes (targets : List Target) : RunM δ σ Unit :=
  targets.forM fun target => record target id

def rollNormal (t : Table δ σ) (a : Actor) (targets : List Target) : RunM δ σ Unit := do
  let (_, o) ← rollPool t a stepId false
  deal (totals t.builder.baseType o) targets

/-- A critical doubles the dice before the roll, or the damage after it. -/
def rollCritical (t : Table δ σ) (a : Actor) (targets : List Target) : RunM δ σ Unit := do
  let doublesDice := t.settings.rules.criticalRule == .doubleDice
  let (_, o) ← rollPool t a "damage-critical" doublesDice
  let damage := totals t.builder.baseType o
  deal (if doublesDice then damage else doubled damage) targets

def withoutTargets (t : Table δ σ) (a : Actor) : RunM δ σ Unit := do
  let (pool, o) ← rollPool t a stepId false
  info "Damage rolled without targets" [("formula", .text pool.formula), ("total", .int o.total)]

def run (t : Table δ σ) : RunM δ σ Unit := do
  let a ← requireActor stepId
  let s ← readState
  if s.liveTargets.isEmpty then withoutTargets t a
  else
    let targets := affectedTargets s
    openOutcomes targets
    let s ← readState
    let critical := targets.filter (isCritical s)
    let normal := targets.filter fun target => !isCritical s target
    if !normal.isEmpty then rollNormal t a normal
    if !critical.isEmpty then rollCritical t a critical
    info "Damage resolved" [("targets", .int targets.length),
      ("critical_targets", .int critical.length),
      ("critical_rule", .text t.settings.rules.criticalRule.name),
      ("skipped", .int (s.liveTargets.length - targets.length))]

end Encounter.Run.Damage
