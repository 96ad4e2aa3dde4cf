import Encounter.Action

namespace Encounter.Check

inductive Kind
  | attack
  | skill
  | save
  | ability
  | contested
  deriving DecidableEq, Repr

namespace Kind

def all : List Kind := [attack, skill, save, ability, contested]

def name : Kind → String
  | attack => "attack"
  | skill => "skill"
  | save => "save"
  | ability => "ability"
  | contested => "contested"

def ofName? (s : String) : Option Kind := all.find? fun k => k.name == s

def unknown (v : Value) : Failure :=
  .fault (.make .validation ("Unknown check type '" ++ v.shown ++ "'")
    [("field_name", .text "check_type"), ("invalid_value", v)])

def ofValue (v : Value) : Result Kind :=
  match v.text?.bind ofName? with
  | some k => .ok k
  | none => .error (unknown v)

def named (s : String) : Result Kind := (ofName? s).elim (.error (.unknownName s)) .ok

end Kind

inductive Policy
  | autoHit
  | autoMiss
  | autoSuccess
  | autoFailure
  deriving DecidableEq, Repr

def Policy.name : Policy → String
  | autoHit => "autoHit"
  | autoMiss => "autoMiss"
  | autoSuccess => "autoSuccess"
  | autoFailure => "autoFailure"

structure Rules where
  threshold : String
  onSuccess : Policy
  onFailure : Policy
  graded : Bool
  deriving DecidableEq, Repr

def Kind.rules : Kind → Rules
  | attack => ⟨"targetAC", .autoHit, .autoMiss, false⟩
  | skill => ⟨"targetDC", .autoSuccess, .autoFailure, true⟩
  | save => ⟨"targetDC", .autoSuccess, .autoFailure, true⟩
  | ability => ⟨"targetDC", .autoSuccess, .autoFailure, true⟩
  | contested => ⟨"opponentRoll", .autoSuccess, .autoFailure, false⟩

def Rules.toValue (r : Rules) : Value :=
  .object [("success_threshold", .text r.threshold), ("critical_success", .text r.onSuccess.name),
    ("critical_failure", .text r.onFailure.name), ("degree_of_success", .bool r.graded)]

inductive Degree
  | criticalSuccess
  | majorSuccess
  | success
  | minorFailure
  | majorFailure
  | criticalFailure
  | failure
  deriving DecidableEq, Repr

namespace Degree

def all : List Degree :=
  [criticalSuccess, majorSuccess, success, minorFailure, majorFailure, criticalFailure, failure]

def name : Degree → String
  | criticalSuccess => "criticalSuccess"
  | majorSuccess => "majorSuccess"
  | success => "success"
  | minorFailure => "minorFailure"
  | majorFailure => "majorFailure"
  | criticalFailure => "criticalFailure"
  | failure => "failure"

def ofName? (s : String) : Option Degree := all.find? fun d => d.name == s

def isSuccess : Degree → Bool
  | criticalSuccess => true
  | majorSuccess => true
  | success => true
  | _ => false

def ofMargin (margin : Int) : Degree :=
  if 10 ≤ margin then criticalSuccess
  else if 5 ≤ margin then majorSuccess
  else if 0 ≤ margin then success
  else if -5 ≤ margin then minorFailure
  else if -10 ≤ margin then majorFailure
  else criticalFailure

/-- A float is graded like the greatest integer that is not greater. -/
def ofFloat (x : Binary64) : Degree :=
  match x with
  | .infinite false => criticalSuccess
  | x => (x.floor?.map ofMargin).getD criticalFailure

def ofValue? : Value → Option Degree
  | .bool b => some (ofMargin (if b then 1 else 0))
  | .int n => some (ofMargin n)
  | .float x => some (ofFloat x)
  | _ => none

end Degree
end Encounter.Check
