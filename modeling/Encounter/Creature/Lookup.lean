import Encounter.Creature.Source

namespace Encounter

/-- An error or warning recorded while an action is resolved. When it was recorded is read, but not
kept. -/
structure ErrorEntry where
  kind : String
  message : String
  step : Option String := none
  deriving DecidableEq, Repr

namespace ErrorEntry

def read : Reader ErrorEntry := Schema.record fun fs =>
  (fun kind message step _ => ⟨kind, message, step⟩)
    <$> Schema.required fs "type" Schema.text
    <*> Schema.required fs "message" Schema.text
    <*> Schema.optional fs "step" none (Schema.nullable Schema.text)
    <*> Schema.optional fs "timestamp" () Schema.moment

def given (kind message step : Value) : Result ErrorEntry :=
  (read (.object [("type", .text kind.shown), ("message", message), ("step", step)])).result

def toValue (e : ErrorEntry) : Value :=
  .object [("type", .text e.kind), ("message", .text e.message), ("step", .ofOption .text e.step)]

end ErrorEntry

structure Lookup where
  target : Target
  error : Option ErrorEntry := none
  event : Option Log.Event := none

namespace Lookup

def notFound : String := "Target not found or inaccessible"

def failed (id text : String) (step : Option String) : Lookup where
  target := { id, name := "Error Target", error := some ("Error processing target: " ++ text) }
  error := some ⟨"target_error", "Error processing target " ++ id ++ ": " ++ text, step⟩
  event := some ⟨.warning, "Error processing target",
    [("target_id", .text id), ("error", .text text)]⟩

def missing (id reason : String) (step : Option String) : Lookup where
  target := { id, name := "Missing Target", error := some reason }
  error := some ⟨"target_missing", "Target " ++ id ++ " not found or inaccessible", step⟩

/-- A target that is missing, or whose look-up fails, becomes a placeholder with an error entry. An
empty error text leaves a target as it is. -/
def ofAnswer (id : String) (step : Option String) : Result (Option Target) → Lookup
  | .error e => failed id e.text step
  | .ok none => missing id notFound step
  | .ok (some t) =>
    match t.error with
    | some reason => if reason.isEmpty then { target := t } else missing id reason step
    | none => { target := t }

end Lookup

def lookUp (find : String → Result (Option Target)) (ids : List String) (step : Option String) :
    List Lookup :=
  ids.map fun id => Lookup.ofAnswer id step (find id)

/-- Look up ids as a caller gives them. The step is needed only where an error is recorded. -/
def lookUpGiven (find : String → Result (Option Target)) (ids : List Value) (step : Value) :
    Result (List Lookup) :=
  ids.mapM fun v => do
    let id ← ((Schema.text v).under "id").result
    let found := Lookup.ofAnswer id none (find id)
    match found.error with
    | none => return found
    | some e =>
      let step ← ((Schema.nullable Schema.text step).under "step").result
      return { found with error := some { e with step } }

end Encounter
