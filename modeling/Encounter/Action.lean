import Encounter.Failure

namespace Encounter

inductive Action
  | attack
  | damage
  | save
  | skill
  | ability
  deriving DecidableEq, Repr

namespace Action

def all : List Action := [attack, damage, save, skill, ability]

def name : Action → String
  | attack => "attack"
  | damage => "damage"
  | save => "save"
  | skill => "skill"
  | ability => "ability"

def ofName? (s : String) : Option Action := all.find? fun a => a.name == s

def usesD20 (a : Action) : Bool := a != damage

def dieName : Action → String
  | attack => "Attack Die"
  | damage => ""
  | save => "Save Die"
  | skill => "Check Die"
  | ability => "Check Die"

def unknown (v : Value) : Failure :=
  .fault (.make .validation ("Unknown action type '" ++ v.shown ++ "'")
    [("field_name", .text "action_type"), ("invalid_value", v)])

def ofValue (v : Value) : Result Action :=
  match v.text?.bind ofName? with
  | some a => .ok a
  | none => .error (unknown v)

end Action
end Encounter
