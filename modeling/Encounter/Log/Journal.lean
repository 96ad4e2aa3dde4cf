import Encounter.Arithmetic
import Encounter.Log.Event

namespace Encounter.Log

def appName : String := "tabletop_actions"

def infoSeverity : Nat := 20
def warningSeverity : Nat := 30

def standardNames : List (String × Nat) :=
  [("CRITICAL", 50), ("ERROR", 40), ("WARNING", 30), ("INFO", 20), ("DEBUG", 10), ("NOTSET", 0)]

def severities : List (String × Nat) := standardNames ++ [("FATAL", 50), ("WARN", 30)]

def upperForms : List (Char × String) :=
  [('ı', "I"), ('ſ', "S"), ('ß', "SS"), ('ﬀ', "FF"), ('ﬁ', "FI"), ('ﬂ', "FL"), ('ﬃ', "FFI"),
    ('ﬄ', "FFL"), ('ﬅ', "ST"), ('ﬆ', "ST")]

def upperName (s : String) : String :=
  String.join (s.toList.map fun c =>
    ((upperForms.find? fun form => form.1 == c).map (·.2)).getD c.toUpper.toString)

/-- The severity that a name stands for. Case does not matter, and an unknown name means info. -/
def severityOf (name : String) : Nat := (Entries.get? severities (upperName name)).getD infoSeverity

def layoutName : String := "BASIC_FORMAT"
def layoutTable : String := "_STYLES"

/-- The severity that a level asks for. The names of layouts ask for none. -/
def askedSeverity (level : String) : Result Nat :=
  let name := upperName level
  if name == layoutName then .error (.unknownKey name)
  else if name == layoutTable then .error (.wrongType name)
  else .ok (severityOf level)

def otherNames : List String :=
  [layoutName, layoutTable, "debug", "info", "warning", "warn", "error", "exception", "critical",
    "fatal", "log", "root", "disable", "shutdown", "lastResort", "basicConfig", "captureWarnings",
    "addLevelName", "getLevelName", "getLevelNamesMapping", "getLogger", "getLoggerClass",
    "getLogRecordFactory", "makeLogRecord", "setLoggerClass", "setLogRecordFactory", "Logger",
    "LoggerAdapter", "RootLogger", "Manager", "LogRecord", "Filter", "Filterer", "Formatter",
    "BufferingFormatter", "Handler", "FileHandler", "NullHandler", "StreamHandler"]

def switches : List String :=
  ["logMultiprocessing", "logProcesses", "logThreads", "raiseExceptions"]

def plainSeverity (name : String) : Result Nat :=
  match Entries.get? severities name with
  | some n => .ok n
  | none =>
    if switches.contains name then .ok 1
    else .error (if otherNames.contains name then .wrongType name else .absent name)

def severityName (n : Nat) : String :=
  (standardNames.find? fun e => e.2 == n).elim ("Level " ++ toString n) (·.1)

abbrev Context := List (String × Value)

/-- What a method of a logger does with its argument. It is an event to report, or to prepare a
report of that is never finished; the severity of an event that comes with the fields, to report or
to prepare; a severity to ask about; the name of a variable of the logger to drop; or refused. -/
inductive Method
  | report (level : Level)
  | prepare
  | reportAt
  | prepareAt
  | ask
  | drop
  | dropIfThere
  | refuse
  deriving DecidableEq, Repr

def reporting : List (String × Level) :=
  [("debug", .debug), ("info", .info), ("msg", .info), ("warning", .warning), ("warn", .warning),
    ("error", .error), ("exception", .error), ("critical", .critical), ("fatal", .critical)]

def methods : List (String × Method) :=
  Entries.mapValues .report reporting ++ reporting.map (fun m => ("a" ++ m.1, .prepare)) ++
    [("log", .reportAt), ("alog", .prepareAt), ("is_enabled_for", .ask), ("unbind", .drop),
      ("try_unbind", .dropIfThere), ("bind", .refuse), ("new", .refuse),
      ("get_effective_level", .refuse)]

def levelAt? (severity : Value) : Option Level :=
  [Level.debug, .info, .warning, .error, .critical].find? fun l =>
    severity.equals (.int l.severity)

def Method.ofName (name : String) : Result Method :=
  (Entries.get? methods name).elim (.error (.absent name)) .ok

/-- What a block bound, and what the variables that it bound were before. -/
structure Block where
  bound : List String
  earlier : Context

structure Journal where
  least : Option Nat := none
  context : Context := []
  blocks : List Block := []
  plainLeast : Nat := warningSeverity
  screen : Bool := false
  fileLeast : Option Nat := none
  file : List String := []

namespace Journal

def configure (j : Journal) (level : String) (toFile : Bool) : Result Journal :=
  (askedSeverity level).map fun n =>
    { j with
      least := some n
      plainLeast := n
      screen := true
      fileLeast := if toFile then some n else none }

def takenOut : List String := ["timestamp", "exc_info", "stack_info"]

/-- The context, then what the call gives, then level and application. Without an event that of the
context is left. -/
def line (context : Context) (level : Level) (event : Value) (fields : Context) : Value :=
  let named := if event.isNull then [] else [("event", event)]
  let fields := Entries.merge context
    (fields ++ named ++ [("level", .text level.name), ("app", .text appName)])
  .object (fields.filter fun f => !(takenOut.contains f.1))

def reports (j : Journal) (l : Level) : Bool :=
  match j.least with
  | some n => n ≤ l.severity
  | none => true

def writes (j : Journal) (l : Level) : Bool := j.least.isSome && j.reports l

def reservedNames (reported : Bool) : List String :=
  ["event", "self"] ++ (if reported then ["method_name"] else [])

def permitted (names : List String) (fields : Context) : Result Unit :=
  match fields.find? fun f => names.contains f.1 with
  | some f => .error (.unexpectedArgument f.1)
  | none => .ok ()

/-- Drop a variable of a logger that has none. Only a plain value can be its name, and no fields go
with it. -/
def dropping (there : Bool) (name : Value) (fields : Context) : Result (List Value) :=
  match fields, name with
  | f :: _, _ => .error (.unexpectedArgument f.1)
  | [], .list _ => .error (.wrongType "name")
  | [], .object _ => .error (.wrongType "name")
  | [], name => if there then .error (.unknownKey name.shown) else .ok []

def eventGiven (names : List String) (fields : Context) : Result Value := do
  permitted names fields
  match Entries.get? fields "event" with
  | some event => return event
  | none => throw (.wrongType "event")

def logAt (j : Journal) (severity : Value) (fields : Context) : Result (List Value) := do
  let event ← eventGiven ["level", "self"] fields
  if ← severity.isLess (.int (j.least.getD 0)) then return []
  let some level := levelAt? severity | throw (.unknownKey severity.shown)
  permitted ["method_name"] fields
  let rest := fields.filter fun f => f.1 != "event"
  return if j.writes level then [line j.context level event rest] else []

def log (j : Journal) (m : Method) (arg : Value) (fields : Context) : Result (List Value) :=
  match m with
  | .report l => do
    permitted (reservedNames (j.reports l)) fields
    return if j.writes l then [line j.context l arg fields] else []
  | .prepare => (permitted (reservedNames false) fields).map fun _ => []
  | .reportAt => j.logAt arg fields
  | .prepareAt => (eventGiven ["level", "self"] fields).map fun _ => []
  | .ask => do
    permitted (fields.map (·.1)) fields
    let _ ← arg.isLess (.int 0)
    return []
  | .drop => dropping true arg fields
  | .dropIfThere => dropping false arg fields
  | .refuse => .error (.wrongType "argument")

def bind (j : Journal) (fields : Context) : Journal :=
  { j with context := Entries.merge j.context fields }

def clear (j : Journal) : Journal := { j with context := [] }

def enter (j : Journal) (workflowId workflow : Value) (extra : Context) : Result Journal :=
  let own : Context := [("workflow_id", workflowId), ("workflow_type", workflow)]
  match extra.find? fun e => (own.map (·.1)).contains e.1 with
  | some e => .error (.unexpectedArgument e.1)
  | none =>
    let fields := own ++ extra
    let keys := fields.map (·.1)
    let block := ⟨keys, j.context.filter fun e => keys.contains e.1⟩
    .ok { j.bind fields with blocks := block :: j.blocks }

def exit (j : Journal) : Result Journal :=
  match j.blocks with
  | [] => .error .pastEnd
  | b :: rest =>
    let kept := j.context.filter fun e => !b.bound.contains e.1
    .ok { j with context := Entries.merge kept b.earlier, blocks := rest }

/-- A plain record goes to the screen and to the file, each from its own severity on. One without
severity goes nowhere. A source without a name is the root, and a message may be several lines. -/
def plain (j : Journal) (level name message : String) : Result (List String × Journal) := do
  let n ← plainSeverity level
  let name := if name.isEmpty then "root" else name
  let lines := ("[" ++ severityName n ++ "] " ++ name ++ ": " ++ message).splitOn "\n"
  let kept := match j.fileLeast with
    | some least => if least ≤ n then lines else []
    | none => []
  return if n == 0 || n < j.plainLeast then ([], j)
    else (if j.screen then lines else [], { j with file := j.file ++ kept })

end Journal

def addApp (event : Context) : Context := Entries.put event "app" (.text appName)

inductive Processor
  | context
  | level
  | time
  | app
  | stack
  | decode
  | failure
  | json
  | console
  deriving DecidableEq, Repr

def processors (json : Bool) : List Processor :=
  [.context, .level, .time, .app, .stack, .decode] ++
    (if json then [.failure, .json] else [.console])

def Processor.rendererName : Processor → String
  | json => "JSONRenderer"
  | console => "ConsoleRenderer"
  | _ => ""

end Encounter.Log
