import Encounter.Check.CriticalRange
import Encounter.Creature.Actor
import Encounter.Dialog
import Encounter.Log.Event
import Encounter.Pool.Modifier

namespace Encounter

structure FeatureData where
  enabled : Bool := false
  extras : Schema.Fields := []

namespace FeatureData

def read : Reader FeatureData := Schema.record fun fs =>
  (fun enabled => ⟨enabled, Schema.extras fs ["enabled"]⟩)
    <$> Schema.optional fs "enabled" false Schema.flag

def get (d : FeatureData) (key : String) (default : Value := .null) : Value :=
  if key == "enabled" then .bool d.enabled else (Entries.get? d.extras key).getD default

def toValue (d : FeatureData) : Value := .object (("enabled", .bool d.enabled) :: d.extras)

end FeatureData

inductive Injection
  | simple
  | html
  deriving DecidableEq, Repr

def Injection.name : Injection → String
  | simple => "simple"
  | html => "html"

def Injection.ofName? (s : String) : Option Injection := [simple, html].find? fun k => k.name == s

structure FeatureContext where
  actor : Actor
  dialogType : String
  data : FeatureData
  dialog : Option Dialog := none
  step : Option String := none

/-- A feature with its hooks. Where it applies is for the feature to say: by default it is what
`affects` and `steps` list. A feature may have no hook for critical ranges at all. The label names it
where it has no id. -/
structure Feature where
  id : String
  name : String
  description : String := ""
  affects : List String := []
  steps : List String := []
  isReactive : Bool := false
  injection : List (String × Injection) := []
  label : String := ""
  affectsDialog : String → Bool := fun dialogType => affects.contains dialogType
  affectsStep : String → Bool := fun step => steps.contains step
  validate : FeatureContext → Result Value := fun _ => .ok (.bool true)
  modifiers : FeatureContext → Result (List Pool.Modifier) := fun _ => .ok []
  ranges : Option (FeatureContext → Result (List Check.RangeModification)) :=
    some fun _ => .ok []
  display : FeatureData → String := fun _ => "-"

namespace Feature

def defaultInjection : List (String × Injection) :=
  [("attack", .simple), ("damage", .html), ("save", .simple)]

def injectionFor (f : Feature) (dialogType : String) : Injection :=
  let table := if f.injection.isEmpty then defaultInjection else f.injection
  (Entries.get? table dialogType).getD .simple

def describe (f : Feature) : Value :=
  .object [("id", .text f.id), ("name", .text f.name), ("description", .text f.description),
    ("affects", .texts f.affects), ("workflow_steps", .texts f.steps),
    ("is_reactive", .bool f.isReactive)]

def summary (f : Feature) : Value :=
  .object [("id", .text f.id), ("name", .text f.name), ("affects", .texts f.affects),
    ("workflow_steps", .texts f.steps), ("is_reactive", .bool f.isReactive)]

def data (f : Feature) (a : Actor) (d : Option Dialog) : Schema.Fields :=
  let own := (Entries.get? a.featureData f.id).getD []
  let given := (d.bind fun d => Entries.get? d.featureState f.id).getD []
  Entries.merge own given

def context (f : Feature) (a : Actor) (dialogType : String) (d : Option Dialog)
    (step : Option String) : Result FeatureContext :=
  (FeatureData.read (.object (f.data a d))).result.map fun data =>
    ⟨a, dialogType, data, d, step⟩

/-- Why a feature may not be used. Only the answer true allows it. -/
def vetoReason (f : Feature) : Result Value → Option String
  | .error e => some ("Validation error: " ++ e.text)
  | .ok (.bool true) => none
  | .ok (.text s) => some (if s.isEmpty then f.name ++ " cannot be used" else s)
  | .ok _ => some (f.name ++ " cannot be used")

def consultEvents (f : Feature) : Result Value → List Log.Event
  | .error _ => [⟨.error, "Feature validation failed", [("feature_id", .text f.id)]⟩]
  | .ok _ => []

def consult (f : Feature) (a : Actor) (dialogType : String) (d : Option Dialog)
    (step : Option String) : Result (Option String × List Log.Event) := do
  let answer := f.validate (← f.context a dialogType d step)
  return (f.vetoReason answer, f.consultEvents answer)

def declare (f : Feature) (name damageType fragment : Value) (enabled dice : Value) :
    Result Pool.Modifier :=
  (Pool.Modifier.read (.object [("modifier_name", name), ("modifier", .text fragment.shown),
    ("modifier_type", damageType), ("is_enabled", enabled), ("is_dice", dice),
    ("feature_name", .text f.name)])).result

/-- A modifier from three to five arguments: name, type, fragment, and whether it is enabled and
holds dice. -/
def declareArguments (f : Feature) : List Value → Result Pool.Modifier
  | [name, damageType, fragment] => f.declare name damageType fragment (.bool true) (.bool false)
  | [name, damageType, fragment, enabled] =>
    f.declare name damageType fragment enabled (.bool false)
  | [name, damageType, fragment, enabled, dice] => f.declare name damageType fragment enabled dice
  | _ => .error (.unexpectedArgument "create_modifier")

end Feature
end Encounter
