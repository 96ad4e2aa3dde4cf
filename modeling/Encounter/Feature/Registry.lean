import Encounter.Feature.Basic

namespace Encounter

structure Registry where
  features : List Feature := []

namespace Registry

def withoutId (f : Feature) : Failure :=
  .fault (.make .featureRegistration "Feature has no id" [] [("feature", .text f.label)])

def taken (id : String) : Failure :=
  .fault (.make .featureRegistration ("Feature '" ++ id ++ "' is already registered")
    [("feature_id", .text id)])

def get? (r : Registry) (id : String) : Option Feature := r.features.find? fun f => f.id == id

def contains (r : Registry) (id : String) : Bool := r.features.any fun f => f.id == id

def ids (r : Registry) : List String := r.features.map (·.id)

def register (r : Registry) (f : Feature) : Result Registry :=
  if f.id.isEmpty then .error (withoutId f)
  else if r.contains f.id then .error (taken f.id)
  else .ok ⟨r.features ++ [f]⟩

def ofList (fs : List Feature) : Result Registry := fs.foldlM register {}

def forStep (r : Registry) (step : String) : List Feature :=
  r.features.filter fun f => f.affectsStep step

def stepsFor (r : Registry) (id : String) : List String := ((r.get? id).map (·.steps)).getD []

def reactive (r : Registry) : List Feature := r.features.filter (·.isReactive)

/-- A feature is available through a feat of its name, or through an equipped item that grants its
id. -/
def isAvailable (r : Registry) (a : Actor) (id : String) : Bool :=
  match r.get? id with
  | none => false
  | some f => a.hasFeat f.name || a.items.any fun i => i.grants id

def forDialog (r : Registry) (a : Actor) (dialogType : String) : List Feature :=
  r.features.filter fun f => f.affectsDialog dialogType && r.isAvailable a f.id

def activeAt (r : Registry) (a : Actor) (step : String) (exclude : List String) : List Feature :=
  (r.forStep step).filter fun f => !exclude.contains f.id && r.isAvailable a f.id

def flattened {α : Type} (xs : List (Result (List α))) : Result (List α) := do
  return (← xs.mapM id).flatten

def rollModifiers (r : Registry) (a : Actor) (dialogType : String) (d : Option Dialog)
    (exclude : List String) : Result (List Pool.Modifier) :=
  let chosen := (r.forDialog a dialogType).filter fun f => !exclude.contains f.id
  flattened (chosen.map fun f => do f.modifiers (← f.context a dialogType d none))

def rangeModifications (r : Registry) (a : Actor) (step dialogType : String) (d : Option Dialog)
    (exclude : List String) : Result (List Check.RangeModification) :=
  flattened ((r.activeAt a step exclude).map fun f =>
    match f.ranges with
    | none => .ok []
    | some ranges => do ranges (← f.context a dialogType d (some step)))

def availability (r : Registry) (a : Option Actor) (id : String) : Result Bool :=
  match r.contains id, a with
  | false, _ => .ok false
  | true, some a => .ok (r.isAvailable a id)
  | true, none => .error (.absent "actor")

/-- The actor is needed as soon as a feature of the step is not excluded. -/
def rangeModificationsIfAny (r : Registry) (a : Option Actor) (step dialogType : String)
    (d : Option Dialog) (exclude : List String) : Result (List Check.RangeModification) :=
  match a with
  | some a => r.rangeModifications a step dialogType d exclude
  | none =>
    if (r.forStep step).all fun f => exclude.contains f.id then .ok [] else .error (.absent "actor")

def describe (r : Registry) : Value := .list (r.features.map Feature.summary)

end Registry
end Encounter
