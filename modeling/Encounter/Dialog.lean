import Encounter.Action
import Encounter.Check.CriticalRange
import Encounter.Check.Kind
import Encounter.Creature.Actor
import Encounter.Pool.Modifier

namespace Encounter

inductive SaveEffect
  | half
  | none
  deriving DecidableEq, Repr

def SaveEffect.name : SaveEffect → String
  | half => "half"
  | none => "none"

def SaveEffect.ofName? (s : String) : Option SaveEffect :=
  [half, none].find? fun k => k.name == s

inductive CheckChoice
  | skill
  | ability
  deriving DecidableEq, Repr

namespace CheckChoice

def action : CheckChoice → Action
  | skill => .skill
  | ability => .ability

def kind : CheckChoice → Check.Kind
  | skill => .skill
  | ability => .ability

def name (c : CheckChoice) : String := c.action.name

def ofName? (s : String) : Option CheckChoice := [skill, ability].find? fun k => k.name == s

end CheckChoice

structure Dialog where
  actorId : String
  itemName : Option String := none
  targetIds : List String := []
  advantage : Bool := false
  disadvantage : Bool := false
  damageAdvantage : Bool := false
  damageDisadvantage : Bool := false
  attackModifiers : List Pool.Modifier := []
  damageModifiers : List Pool.Modifier := []
  saveModifiers : List Pool.Modifier := []
  checkModifiers : List Pool.Modifier := []
  saveDc : Option Int := none
  saveAbility : String := "dexterity"
  saveEffect : SaveEffect := .half
  checkChoice : CheckChoice := .skill
  checkDc : Option Int := none
  criticalRange : Option Check.CriticalRange := none
  rollSeparate : Option Bool := none
  featureState : List (String × Schema.Fields) := []
  extras : Schema.Fields := []

namespace Dialog

def fieldNames : List String :=
  ["actor_id", "item_name", "target_ids", "advantage", "disadvantage", "damage_advantage",
    "damage_disadvantage", "attack_modifiers", "damage_modifiers", "save_modifiers",
    "check_modifiers", "save_dc", "save_ability", "save_effect", "check_type", "check_dc",
    "critical_range", "roll_separate", "feature_state"]

def read : Reader Dialog := Schema.record fun fs =>
  let modifiers (key : String) := Schema.optional fs key [] (Schema.list Pool.Modifier.read)
  let flag (key : String) := Schema.optional fs key false Schema.flag
  let difficulty (key : String) :=
    Schema.optional fs key none (Schema.nullable (Schema.integerFrom 0))
  Dialog.mk
    <$> Schema.required fs "actor_id" Schema.filledText
    <*> Schema.optional fs "item_name" none (Schema.nullable Schema.text)
    <*> Schema.optional fs "target_ids" [] (Schema.list Schema.text)
    <*> flag "advantage"
    <*> flag "disadvantage"
    <*> flag "damage_advantage"
    <*> flag "damage_disadvantage"
    <*> modifiers "attack_modifiers"
    <*> modifiers "damage_modifiers"
    <*> modifiers "save_modifiers"
    <*> modifiers "check_modifiers"
    <*> difficulty "save_dc"
    <*> Schema.optional fs "save_ability" "dexterity" Schema.text
    <*> Schema.optional fs "save_effect" .half (Schema.choice .literalError SaveEffect.ofName?)
    <*> Schema.optional fs "check_type" .skill (Schema.choice .literalError CheckChoice.ofName?)
    <*> difficulty "check_dc"
    <*> Schema.optional fs "critical_range" none (Schema.nullable Check.CriticalRange.read)
    <*> Schema.optional fs "roll_separate" none (Schema.nullable Schema.flag)
    <*> Schema.optional fs "feature_state" [] Actor.readFeatureData
    <*> pure (Schema.extras fs fieldNames)

def toValue (d : Dialog) : Value :=
  let modifiers (ms : List Pool.Modifier) : Value := .list (ms.map Pool.Modifier.toValue)
  .object ([("actor_id", .text d.actorId), ("item_name", .ofOption .text d.itemName),
    ("target_ids", .texts d.targetIds), ("advantage", .bool d.advantage),
    ("disadvantage", .bool d.disadvantage), ("damage_advantage", .bool d.damageAdvantage),
    ("damage_disadvantage", .bool d.damageDisadvantage),
    ("attack_modifiers", modifiers d.attackModifiers),
    ("damage_modifiers", modifiers d.damageModifiers),
    ("save_modifiers", modifiers d.saveModifiers),
    ("check_modifiers", modifiers d.checkModifiers), ("save_dc", .ofOption .int d.saveDc),
    ("save_ability", .text d.saveAbility), ("save_effect", .text d.saveEffect.name),
    ("check_type", .text d.checkChoice.name), ("check_dc", .ofOption .int d.checkDc),
    ("critical_range", .ofOption Check.CriticalRange.toValue d.criticalRange),
    ("roll_separate", .ofOption .bool d.rollSeparate),
    ("feature_state", .object (Entries.mapValues .object d.featureState))] ++ d.extras)

end Dialog
end Encounter
