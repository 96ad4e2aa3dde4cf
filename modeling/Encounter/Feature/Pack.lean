import Encounter.Feature.Registry

namespace Encounter.Pack

def labelFor (family : String) (id : Value) : String := family ++ "(id=" ++ id.quoted ++ ")"

def attackResolve : String := "attack-resolve"

def criticalRange (family id name description : String) (change : Check.Change)
    (range : Check.CriticalRange) : Feature where
  id := id
  name := name
  description := description
  affects := ["attack"]
  steps := [attackResolve]
  label := labelFor family (.text id)
  ranges := some fun _ => .ok [{ change, range, source := some name }]

def plainCriticalRange (id name description : String) : Feature :=
  criticalRange "CriticalRangeFeature" id name description .expand ⟨20, 20, by decide⟩

def improvedCritical : Feature :=
  criticalRange "ImprovedCritical" "improved-critical" "Improved Critical"
    "Your weapon attacks score a critical hit on a roll of 19 or 20." .expand ⟨19, 20, by decide⟩

def superiorCritical : Feature :=
  criticalRange "SuperiorCritical" "superior-critical" "Superior Critical"
    "Your weapon attacks score a critical hit on a roll of 18-20." .replace ⟨18, 20, by decide⟩

def resourceName : String := "Force Points"
def resourceCost : Int := 1
def empoweredName : String := "Force-Empowered Self"
def kineticType : Value := .text "kinetic"
def smallestDie : String := "1d4"

def kineticDie (level : Int) : String :=
  if 17 ≤ level then "1d10" else if 11 ≤ level then "1d8" else if 5 ≤ level then "1d6"
  else smallestDie

def scalingLevel (scalingClass : Option String) (a : Actor) : Int :=
  match scalingClass with
  | some c => (Entries.get? a.classLevels c).getD 0
  | none => a.level

def kineticDieFor (scalingClass : Option String) (a : Actor) : String :=
  kineticDie (scalingLevel scalingClass a)

def given (v other : Value) : Value := if v.isTruthy then v else other

def notEnough (available : Int) : String :=
  "Not enough " ++ resourceName ++ " for " ++ empoweredName ++ " (need " ++
    Numeral.text resourceCost ++ ", have " ++ Numeral.text available ++ ")"

def empoweredValidate (c : FeatureContext) : Result Value :=
  let available := c.actor.resource resourceName
  .ok (if c.data.enabled && available < resourceCost then .text (notEnough available)
    else .bool true)

def empoweredDisplay (d : FeatureData) : String :=
  "+" ++ (given (d.get "modifier") (.text smallestDie)).shown ++ " " ++
    (given (d.get "modifier_type") kineticType).shown

def empoweredBase : Feature where
  id := "force-empowered-self"
  name := empoweredName
  description := "Channel the Force to enhance your physical strikes with kinetic energy"
  affects := ["damage"]
  steps := ["base-dice-pool-features-damage"]
  injection := [("damage", .html)]
  label := labelFor "ForceEmpoweredSelf" (.text "force-empowered-self")
  validate := empoweredValidate
  display := empoweredDisplay

def empoweredModifiers (scalingClass : Option String) (c : FeatureContext) :
    Result (List Pool.Modifier) :=
  if c.dialogType != "damage" || !c.data.enabled then .ok []
  else do
    let fragment := given (c.data.get "modifier") (.text (kineticDieFor scalingClass c.actor))
    let damageType := given (c.data.get "modifier_type") kineticType
    return [← empoweredBase.declare (.text empoweredName) damageType fragment (.bool true)
      (.bool true)]

def forceEmpoweredSelf (scalingClass : Option String := none) : Feature :=
  { empoweredBase with modifiers := empoweredModifiers scalingClass }

def shipped : List Feature := [forceEmpoweredSelf, improvedCritical, superiorCritical]

def defaultRegistry : Registry := ⟨shipped⟩

end Encounter.Pack
