import Encounter.Creature.Actor

namespace Encounter

structure Target where
  id : String
  name : String := "Unknown Target"
  armorClass : Int := 10
  saves : List (String × Int) := []
  resistances : List String := []
  immunities : List String := []
  vulnerabilities : List String := []
  error : Option String := none
  deriving DecidableEq, Repr

namespace Target

def read : Reader Target := Schema.record fun fs =>
  Target.mk
    <$> Schema.required fs "id" Schema.text
    <*> Schema.optional fs "name" "Unknown Target" Schema.text
    <*> Schema.optional fs "armor_class" 10 Schema.integer
    <*> Schema.optional fs "saves" [] (Schema.dictionary Schema.integer)
    <*> Schema.optional fs "resistances" [] (Schema.list Schema.text)
    <*> Schema.optional fs "immunities" [] (Schema.list Schema.text)
    <*> Schema.optional fs "vulnerabilities" [] (Schema.list Schema.text)
    <*> Schema.optional fs "error" none (Schema.nullable Schema.text)

def toValue (t : Target) : Value :=
  .object [("id", .text t.id), ("name", .text t.name), ("armor_class", .int t.armorClass),
    ("saves", .ints t.saves), ("resistances", .texts t.resistances),
    ("immunities", .texts t.immunities), ("vulnerabilities", .texts t.vulnerabilities),
    ("error", .ofOption .text t.error)]

def ofActor (a : Actor) : Target :=
  { id := a.id, name := a.name, armorClass := a.armorClass, saves := a.saves,
    resistances := a.resistances, immunities := a.immunities, vulnerabilities := a.vulnerabilities }

/-- A placeholder stands in for a target that could not be found. -/
def isPlaceholder (t : Target) : Bool := t.error.isSome

def isLive (t : Target) : Bool := t.error.isNone

def saveBonus (t : Target) (ability : String) : Int := Encounter.saveBonus t.saves ability

inductive Defence
  | immune
  | resistant
  | vulnerable
  | none
  deriving DecidableEq, Repr

/-- Immunity goes before resistance, and resistance before vulnerability. -/
def defence (t : Target) (damageType : String) : Defence :=
  let damageType := Text.lower damageType
  if t.immunities.contains damageType then .immune
  else if t.resistances.contains damageType then .resistant
  else if t.vulnerabilities.contains damageType then .vulnerable
  else .none

def modifyDamage (t : Target) (amount : Int) (damageType : String) : Int :=
  match t.defence damageType with
  | .immune => 0
  | .resistant => amount / 2
  | .vulnerable => amount * 2
  | .none => amount

/-- Damage as a caller gives it. Only what the target does to it needs a number. -/
def modifyGiven (t : Target) (amount : Value) (damageType : String) : Result Value :=
  match t.defence damageType with
  | .immune => .ok (.int 0)
  | .resistant => amount.halved
  | .vulnerable => amount.doubled
  | .none => .ok amount

end Target
end Encounter
