import Encounter.Check.Resolution
import Encounter.Creature.Actor
import Encounter.Json
import Encounter.Workflow

namespace Encounter

/-- Variables in the order in which they were set. -/
abbrev Environment := List (String × String)

namespace Environment

def set (env : Environment) (name : String) (value : Option String) : Environment :=
  match value with
  | some v => Entries.put env name v
  | none => Entries.erase env name

def zeroChar : Char := Char.ofNat 0

/-- A variable has a name without an equals sign, and neither name nor value holds the zero
character. -/
def permits (name value : String) : Bool :=
  !name.isEmpty && !name.contains '=' && !name.contains zeroChar && !value.contains zeroChar

def assign (env : Environment) (name : String) : Value → Result Environment
  | .null => .ok (env.set name none)
  | .text s =>
    if permits name s then .ok (env.set name (some s)) else .error (.unusableVariable name)
  | .garbled s => .ok (env.set name (some s))
  | _ => .error (.wrongType "variable")

end Environment

/-- How the fields of a group are found among variables and arguments. The name of a variable is
that of the field with a start in front, and parts of a path are separated. A variable may be left
out if it is empty, and one text may stand for null. -/
structure Search where
  start : String
  separator : String := "__"
  exact : Bool := false
  skipsEmpty : Bool := false
  nullText : Option String := none
  deriving DecidableEq, Repr

namespace Search

/-- Names are found in any case, unless the search is exact. -/
def fold (s : Search) (name : String) : String := if s.exact then name else Text.lower name

def adjusted (s : Search) (given : Schema.Fields) : Search :=
  let chosen (name : String) : Option Value := (Entries.get? given name).filter (!·.isNull)
  { start := ((chosen "_env_prefix").bind Value.text?).getD s.start
    separator := ((chosen "_env_nested_delimiter").bind Value.text?).getD s.separator
    exact := (chosen "_case_sensitive").elim s.exact Value.isTruthy
    skipsEmpty := (chosen "_env_ignore_empty").elim s.skipsEmpty Value.isTruthy
    nullText := ((chosen "_env_parse_none_str").bind Value.text?).or s.nullText }

/-- The variables by folded name. Of two names that fold to one the later one counts. -/
def visible (s : Search) (env : Environment) : Schema.Fields :=
  let seen := env.filter fun e => !(s.skipsEmpty && e.2.isEmpty)
  Entries.ofList (seen.map fun e =>
    (s.fold e.1, if some e.2 == s.nullText then .null else .text e.2))

def named? (s : Search) (env : Environment) (name : String) : Option Value :=
  Entries.get? (s.visible env) (s.fold (s.start ++ name))

/-- The explicit argument for a field. Of two names that fold to one the first one counts. -/
def argument? (s : Search) (given : Schema.Fields) (name : String) : Option Value :=
  (given.find? fun e => s.fold e.1 == name).map (·.2)

def fields (s : Search) (env : Environment) (names : List String) (given : Schema.Fields) :
    Schema.Fields :=
  let s := s.adjusted given
  names.filterMap fun n => ((s.argument? given n).or (s.named? env n)).map fun v => (n, v)

end Search

structure DiceSettings where
  seed : Option Int := none
  damageType : String := "kinetic"
  deriving DecidableEq, Repr

inductive CriticalRule
  | doubleDice
  | doubleDamage
  deriving DecidableEq, Repr

def CriticalRule.name : CriticalRule → String
  | doubleDice => "double_dice"
  | doubleDamage => "double_damage"

def CriticalRule.ofName? (s : String) : Option CriticalRule :=
  [doubleDice, doubleDamage].find? fun k => k.name == s

structure RuleSettings where
  criticalRule : CriticalRule := .doubleDice
  graded : Bool := true
  deriving DecidableEq, Repr

structure WorkflowSettings where
  rollSeparate : Bool := false
  defaultWorkflow : String := "attack-damage"
  deriving DecidableEq, Repr

structure Settings where
  appName : String := "Tabletop Action Resolver"
  appVersion : String := "0.1.0"
  debug : Bool := false
  logLevel : String := "INFO"
  jsonLogs : Bool := false
  dice : DiceSettings := {}
  rules : RuleSettings := {}
  workflow : WorkflowSettings := {}
  deriving DecidableEq, Repr

namespace DiceSettings

def search : Search := { start := "TABLETOP_ACTIONS_DICE_" }

def read (env : Environment) (given : Schema.Fields) : Verdict DiceSettings :=
  let fs := search.fields env ["seed", "default_damage_type"] given
  DiceSettings.mk
    <$> Schema.optional fs "seed" none (Schema.nullable Schema.integer)
    <*> Schema.optional fs "default_damage_type" "kinetic"
      (fun v => (Schema.filledText v).map normalName)

def toValue (s : DiceSettings) : Value :=
  .object [("seed", .ofOption .int s.seed), ("default_damage_type", .text s.damageType)]

end DiceSettings

namespace RuleSettings

def search : Search := { start := "TABLETOP_ACTIONS_RULES_" }

def read (env : Environment) (given : Schema.Fields) : Verdict RuleSettings :=
  let fs := search.fields env ["critical_hit_rule", "degree_of_success"] given
  RuleSettings.mk
    <$> Schema.optional fs "critical_hit_rule" .doubleDice
      (Schema.choice .literalError CriticalRule.ofName?)
    <*> Schema.optional fs "degree_of_success" true Schema.flag

def toValue (s : RuleSettings) : Value :=
  .object [("critical_hit_rule", .text s.criticalRule.name), ("degree_of_success", .bool s.graded)]

end RuleSettings

namespace WorkflowSettings

def search : Search := { start := "TABLETOP_ACTIONS_WORKFLOW_" }

def knownNames : List String :=
  (Workflow.names Workflow.shipped).mergeSort fun a b => a ≤ b

def unknownDefault (name : String) : Fault :=
  .make .configuration ("Unknown default workflow '" ++ name ++ "'")
    [("config_key", .text "default_workflow")] [("known_workflows", .texts knownNames)]

def knownWorkflow (name : String) : Verdict String :=
  if (Workflow.names Workflow.shipped).contains name then .accepted name
  else .broken (.fault (unknownDefault name))

def read (env : Environment) (given : Schema.Fields) : Verdict WorkflowSettings :=
  let fs := search.fields env ["roll_separate_attacks", "default_workflow"] given
  WorkflowSettings.mk
    <$> Schema.optional fs "roll_separate_attacks" false Schema.flag
    <*> Schema.optional fs "default_workflow" "attack-damage"
      (fun v => (Schema.text v).andThen knownWorkflow)

def toValue (s : WorkflowSettings) : Value :=
  .object [("roll_separate_attacks", .bool s.rollSeparate),
    ("default_workflow", .text s.defaultWorkflow)]

end WorkflowSettings

namespace Settings

def search : Search := { start := "TABLETOP_ACTIONS_" }

def logLevels : List String := ["DEBUG", "INFO", "WARNING", "ERROR", "CRITICAL"]

def logLevel? (s : String) : Option String := logLevels.find? fun l => l == s

mutual

/-- Objects are merged entry by entry, and any other value is replaced. -/
def merged : Value → Value → Value
  | .object old, .object new => .object (mergedEntries old new)
  | _, new => new

def mergedEntries (old : Schema.Fields) : Schema.Fields → Schema.Fields
  | [] => old
  | (k, v) :: rest =>
    let v := match Entries.get? old k with
      | some u => merged u v
      | none => v
    mergedEntries (Entries.put old k v) rest

end

/-- Set the value at the end of a path of keys. A value on the way that is no object ends it. -/
def setPath (v : Value) : List String → Schema.Fields → Schema.Fields
  | [], fs => fs
  | [k], fs => Entries.put fs k v
  | k :: rest, fs =>
    match Entries.get? fs k with
    | none => Entries.put fs k (.object (setPath v rest []))
    | some (.object es) => Entries.put fs k (.object (setPath v rest es))
    | some _ => fs

def dropPrefix? (start s : String) : Option String :=
  if s.startsWith start then some (s.drop start.length).toString else none

/-- The variables whose names are paths into a nested part. Nothing separates no path. -/
def singleVariables (s : Search) (env : Environment) (part : String) : Schema.Fields :=
  if s.separator.isEmpty then []
  else
    (s.visible env).foldl (fun fs e =>
      match dropPrefix? (s.fold (s.start ++ part) ++ s.separator) e.1 with
      | some path => setPath e.2 (path.splitOn s.separator) fs
      | none => fs) []

def foldedKeys (s : Search) (fs : Schema.Fields) : Schema.Fields :=
  Entries.ofList (fs.map fun e => (s.fold e.1, e.2))

/-- What the variables say of a nested part: an object in JSON, and single entries over it. -/
def nestedVariables (s : Search) (env : Environment) (part : String) : Result (Option Value) :=
  let single := singleVariables s env part
  match s.named? env part with
  | none => .ok (if single.isEmpty then none else some (.object single))
  | some (.text written) =>
    match Json.read written with
    | some .null => .ok none
    | some (.object fs) => .ok (some (.object (foldedKeys s (mergedEntries fs single))))
    | some v => .ok (some v)
    | none => .error (.unreadableVariable part)
  | some v => .ok (some v)

/-- A nested part that is not given is read from its own variables, and its problems are then
listed without the name of the part. -/
def readPart {α : Type} (read : Schema.Fields → Verdict α) (part : String) (given : Option Value) :
    Verdict α :=
  match given with
  | none =>
    match read [] with
    | .rejected ps => .broken (.rejected ps)
    | v => v
  | some v => (Schema.record read v).under part

def partGiven (s : Search) (env : Environment) (given : Schema.Fields) (part : String) :
    Result (Option Value) := do
  let own ← nestedVariables s env part
  return match own, s.argument? given part with
    | some u, some v => some (merged u v)
    | some u, none => some u
    | none, v => v

def read (env : Environment) (given : Schema.Fields) : Result Settings := do
  let s := search.adjusted given
  let fs := s.fields env ["app_name", "app_version", "debug", "log_level", "json_logs"] given
  let dice ← partGiven s env given "dice"
  let rules ← partGiven s env given "rules"
  let workflow ← partGiven s env given "workflow"
  Verdict.result (Settings.mk
    <$> Schema.optional fs "app_name" "Tabletop Action Resolver" Schema.text
    <*> Schema.optional fs "app_version" "0.1.0" Schema.text
    <*> Schema.optional fs "debug" false Schema.flag
    <*> Schema.optional fs "log_level" "INFO" (Schema.choice .literalError logLevel?)
    <*> Schema.optional fs "json_logs" false Schema.flag
    <*> readPart (DiceSettings.read env) "dice" dice
    <*> readPart (RuleSettings.read env) "rules" rules
    <*> readPart (WorkflowSettings.read env) "workflow" workflow)

def toValue (s : Settings) : Value :=
  .object [("app_name", .text s.appName), ("app_version", .text s.appVersion),
    ("debug", .bool s.debug), ("log_level", .text s.logLevel), ("json_logs", .bool s.jsonLogs),
    ("dice", s.dice.toValue), ("rules", s.rules.toValue), ("workflow", s.workflow.toValue)]

def level (s : Settings) : String := if s.debug then "DEBUG" else s.logLevel

def engine (s : Settings) : Check.Engine := { graded := s.rules.graded }

end Settings

structure LoadFailure where
  cause : Failure

def LoadFailure.fault (e : LoadFailure) : Fault :=
  .make .configuration ("Failed to load application settings: " ++ e.cause.text) []
    [("original_error", .text e.cause.text)]

/-- The environment, and the settings loaded from it until they are dropped. The count of loads
tells apart settings that were loaded anew. -/
structure SettingsCache where
  env : Environment := []
  loaded : Option Settings := none
  loads : Nat := 0

namespace SettingsCache

def get (c : SettingsCache) : Except LoadFailure Settings × SettingsCache :=
  match c.loaded with
  | some s => (.ok s, c)
  | none =>
    match Settings.read c.env [] with
    | .ok s => (.ok s, { c with loaded := some s, loads := c.loads + 1 })
    | .error e => (.error ⟨e⟩, c)

def clear (c : SettingsCache) : SettingsCache := { c with loaded := none }

/-- Set or unset variables in order, up to the first that cannot be one. -/
def setVariables (c : SettingsCache) : Schema.Fields → Result Unit × SettingsCache
  | [] => (.ok (), c)
  | (name, v) :: rest =>
    match c.env.assign name v with
    | .ok env => { c with env := env }.setVariables rest
    | .error e => (.error e, c)

end SettingsCache
end Encounter
