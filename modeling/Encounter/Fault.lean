import Encounter.Entries
import Encounter.Value

namespace Encounter

inductive FaultKind
  | general
  | configuration
  | validation
  | engine
  | diceRoll
  | workflowConfiguration
  | workflowStep
  | actorNotFound
  | feature
  | featureRegistration
  deriving DecidableEq, Repr

namespace FaultKind

def all : List FaultKind :=
  [general, configuration, validation, engine, diceRoll, workflowConfiguration, workflowStep,
    actorNotFound, feature, featureRegistration]

def name : FaultKind → String
  | general => "TabletopActionsError"
  | configuration => "ConfigurationError"
  | validation => "ValidationError"
  | engine => "GameEngineError"
  | diceRoll => "DiceRollError"
  | workflowConfiguration => "WorkflowConfigurationError"
  | workflowStep => "WorkflowStepError"
  | actorNotFound => "ActorNotFoundError"
  | feature => "FeatureError"
  | featureRegistration => "FeatureRegistrationError"

def ofName? (s : String) : Option FaultKind := all.find? fun k => k.name == s

/-- A kind and the more general kinds that it belongs to, the most general last. -/
def lineage : FaultKind → List FaultKind
  | general => [general]
  | configuration => [configuration, general]
  | validation => [validation, general]
  | engine => [engine, general]
  | diceRoll => [diceRoll, engine, general]
  | workflowConfiguration => [workflowConfiguration, engine, general]
  | workflowStep => [workflowStep, engine, general]
  | actorNotFound => [actorNotFound, engine, general]
  | feature => [feature, general]
  | featureRegistration => [featureRegistration, feature, general]

def subjects : FaultKind → List String
  | general => []
  | configuration => ["config_key"]
  | validation => ["field_name", "invalid_value"]
  | engine => []
  | diceRoll => ["expression"]
  | workflowConfiguration => ["workflow"]
  | workflowStep => ["step"]
  | actorNotFound => ["actor_id"]
  | feature => ["feature_id"]
  | featureRegistration => ["feature_id"]

end FaultKind

structure Fault where
  kind : FaultKind
  message : String
  details : List (String × Value) := []

namespace Fault

def shows (subject : String) (v : Value) : Bool :=
  if subject == "invalid_value" then !v.isNull else v.isTruthy

/-- The given details come first, then the subjects of the kind. -/
def describe (kind : FaultKind) (given context : List (String × Value)) : List (String × Value) :=
  kind.subjects.foldl (fun acc subject =>
    match Entries.get? context subject with
    | some v => if shows subject v then Entries.put acc subject v else acc
    | none => acc) given

def make (kind : FaultKind) (message : String) (context : List (String × Value))
    (given : List (String × Value) := []) : Fault :=
  ⟨kind, message, describe kind (Entries.ofList given) context⟩

def text (f : Fault) : String :=
  if f.details.isEmpty then f.message
  else
    f.message ++ " [" ++
      Value.join (f.details.map fun e => e.1 ++ "=" ++ e.2.quoted) ++ "]"

def display (f : Fault) : String :=
  f.kind.name ++ "(message=" ++ Text.quoted f.message ++ ", details=" ++
    (Value.object f.details).quoted ++ ")"

end Fault
end Encounter
