import Encounter.Check.Resolution
import Encounter.Creature.Target

namespace Encounter.Run

structure RollRecord where
  step : String
  formula : String
  total : Int
  natural : Option Int := none
  targetId : Option String := none
  totalsByType : List (String × Int) := []
  deriving DecidableEq, Repr

namespace RollRecord

def read : Reader RollRecord := Schema.record fun fs =>
  RollRecord.mk
    <$> Schema.required fs "step" Schema.text
    <*> Schema.required fs "formula" Schema.text
    <*> Schema.required fs "total" Schema.integer
    <*> Schema.optional fs "natural" none (Schema.nullable Schema.integer)
    <*> Schema.optional fs "target_id" none (Schema.nullable Schema.text)
    <*> Schema.optional fs "totals_by_type" [] (Schema.dictionary Schema.integer)

def toValue (r : RollRecord) : Value :=
  .object [("step", .text r.step), ("formula", .text r.formula), ("total", .int r.total),
    ("natural", .ofOption .int r.natural), ("target_id", .ofOption .text r.targetId),
    ("totals_by_type", .ints r.totalsByType)]

end RollRecord

/-- Everything resolved against one target. Later steps read what earlier ones wrote. -/
structure TargetOutcome where
  targetId : String
  targetName : String := ""
  attack : Option Check.Resolution := none
  hit : Option Bool := none
  critical : Bool := false
  damageByType : List (String × Int) := []
  save : Option Check.Resolution := none
  saved : Option Bool := none
  damageApplied : Option Int := none
  deriving DecidableEq

namespace TargetOutcome

def ofTarget (t : Target) : TargetOutcome := { targetId := t.id, targetName := t.name }

def damageTotal (o : TargetOutcome) : Int := Entries.total o.damageByType

def read : Reader TargetOutcome := Schema.record fun fs =>
  TargetOutcome.mk
    <$> Schema.required fs "target_id" Schema.text
    <*> Schema.optional fs "target_name" "" Schema.text
    <*> Schema.optional fs "attack" none (Schema.nullable Check.Resolution.read)
    <*> Schema.optional fs "hit" none (Schema.nullable Schema.flag)
    <*> Schema.optional fs "critical" false Schema.flag
    <*> Schema.optional fs "damage_by_type" [] (Schema.dictionary Schema.integer)
    <*> Schema.optional fs "save" none (Schema.nullable Check.Resolution.read)
    <*> Schema.optional fs "saved" none (Schema.nullable Schema.flag)
    <*> Schema.optional fs "damage_applied" none (Schema.nullable Schema.integer)

def toValue (o : TargetOutcome) : Value :=
  .object [("target_id", .text o.targetId), ("target_name", .text o.targetName),
    ("attack", .ofOption Check.Resolution.toValue o.attack), ("hit", .ofOption .bool o.hit),
    ("critical", .bool o.critical), ("damage_by_type", .ints o.damageByType),
    ("save", .ofOption Check.Resolution.toValue o.save), ("saved", .ofOption .bool o.saved),
    ("damage_applied", .ofOption .int o.damageApplied), ("damage_total", .int o.damageTotal)]

def readField (o : TargetOutcome) (v : Value) : String → Verdict TargetOutcome
  | "target_id" => (Schema.text v).map fun x => { o with targetId := x }
  | "target_name" => (Schema.text v).map fun x => { o with targetName := x }
  | "attack" => (Schema.nullable Check.Resolution.read v).map fun x => { o with attack := x }
  | "hit" => (Schema.nullable Schema.flag v).map fun x => { o with hit := x }
  | "critical" => (Schema.flag v).map fun x => { o with critical := x }
  | "damage_by_type" =>
    (Schema.dictionary Schema.integer v).map fun x => { o with damageByType := x }
  | "save" => (Schema.nullable Check.Resolution.read v).map fun x => { o with save := x }
  | "saved" => (Schema.nullable Schema.flag v).map fun x => { o with saved := x }
  | "damage_applied" =>
    (Schema.nullable Schema.integer v).map fun x => { o with damageApplied := x }
  | _ => .problem .noSuchAttribute

/-- Set a field by name. The total of the damage is computed and cannot be set. -/
def assign (o : TargetOutcome) (field : String) (v : Value) : Result TargetOutcome :=
  Schema.assign o ["damage_total"] field (o.readField v field)

end TargetOutcome
end Encounter.Run
