import Encounter.Arithmetic
import Encounter.Check.CriticalRange
import Encounter.Check.Kind
import Encounter.Dice.Outcome

namespace Encounter.Check

structure Resolution where
  kind : Kind
  total : Int
  natural : Int
  target : Int
  success : Bool
  degree : Degree
  margin : Int
  isCriticalSuccess : Bool := false
  isCriticalFailure : Bool := false
  successRange : CriticalRange
  failureRange : CriticalRange
  deriving DecidableEq

namespace Resolution

def toValue (r : Resolution) : Value :=
  .object [("check_type", .text r.kind.name), ("roll_total", .int r.total),
    ("roll_value", .int r.natural), ("target_number", .int r.target), ("success", .bool r.success),
    ("degree", .text r.degree.name), ("margin", .int r.margin),
    ("is_critical_success", .bool r.isCriticalSuccess),
    ("is_critical_failure", .bool r.isCriticalFailure), ("critical_range", r.successRange.toValue),
    ("critical_failure_range", r.failureRange.toValue)]

def read : Reader Resolution := Schema.record fun fs =>
  Resolution.mk
    <$> Schema.required fs "check_type" (Schema.choice .enum Kind.ofName?)
    <*> Schema.required fs "roll_total" Schema.integer
    <*> Schema.required fs "roll_value" Schema.integer
    <*> Schema.required fs "target_number" Schema.integer
    <*> Schema.required fs "success" Schema.flag
    <*> Schema.required fs "degree" (Schema.choice .enum Degree.ofName?)
    <*> Schema.required fs "margin" Schema.integer
    <*> Schema.optional fs "is_critical_success" false Schema.flag
    <*> Schema.optional fs "is_critical_failure" false Schema.flag
    <*> Schema.required fs "critical_range" CriticalRange.read
    <*> Schema.required fs "critical_failure_range" CriticalRange.read

end Resolution

/-- The rules in force at a table: whether results are graded, and the default ranges. -/
structure Engine where
  graded : Bool := true
  successRange : Kind → CriticalRange := fun _ => .single 20 (by decide)
  failureRange : Kind → CriticalRange := fun _ => .single 1 (by decide)

namespace Engine

def defaultRange (e : Engine) : Side → Kind → CriticalRange
  | .success => e.successRange
  | .failure => e.failureRange

def withRanges (e : Engine) (success failure : List (Kind × CriticalRange)) : Engine :=
  let override (xs : List (Kind × CriticalRange)) (base : Kind → CriticalRange) (k : Kind) :=
    ((xs.reverse.find? fun x => x.1 == k).map (·.2)).getD (base k)
  { e with
    successRange := override success e.successRange
    failureRange := override failure e.failureRange }

def effectiveRange (e : Engine) (kind : Kind) (override : Option CriticalRange)
    (ms : List RangeModification) (side : Side) : CriticalRange :=
  Check.effectiveRange (override.getD (e.defaultRange side kind)) side ms

def namedRange (e : Engine) (kind : Kind) (override : Option CriticalRange)
    (ms : List RangeModification) (side : String) : CriticalRange :=
  match Side.ofName? side with
  | some s => e.effectiveRange kind override ms s
  | none => override.getD (e.failureRange kind)

def plainResult (e : Engine) (kind : Kind) (success : Bool) (margin : Int) : Bool × Degree :=
  if kind.rules.graded && e.graded then (success, .ofMargin margin)
  else (success, if success then .success else .failure)

/-- Success and degree of a roll, given whether it hit the success and the failure range, and what
it would be without them. -/
def result (e : Engine) (kind : Kind) (hit miss plain : Bool) (margin : Int) : Bool × Degree :=
  if hit && [Policy.autoHit, .autoSuccess].contains kind.rules.onSuccess then
    (true, .criticalSuccess)
  else if miss && [Policy.autoMiss, .autoFailure].contains kind.rules.onFailure then
    (false, .criticalFailure)
  else e.plainResult kind plain margin

def classifyAt (e : Engine) (total natural target margin : Int) (kind : Kind)
    (override overrideFailure : Option CriticalRange) (ms : List RangeModification) : Resolution :=
  let successRange := e.effectiveRange kind override ms .success
  let failureRange := e.effectiveRange kind overrideFailure ms .failure
  let hit := successRange.contains natural
  let miss := failureRange.contains natural
  let (success, degree) := e.result kind hit miss (target ≤ total) margin
  { kind, total, natural, target, success, degree, successRange, failureRange, margin
    isCriticalSuccess := hit
    isCriticalFailure := miss }

def classify (e : Engine) (total natural target : Int) (kind : Kind)
    (override overrideFailure : Option CriticalRange) (ms : List RangeModification) : Resolution :=
  e.classifyAt total natural target (total - target) kind override overrideFailure ms

end Engine

def hasInfix (p : List Char) : List Char → Bool
  | [] => p.isEmpty
  | c :: rest => p.isPrefixOf (c :: rest) || hasInfix p rest

def mentionsD20 (formula : String) : Bool :=
  hasInfix ['d', '2', '0'] (Text.lowerFrom [] formula.toList)

def naturalFace (o : Dice.Outcome) : Int := o.natural.getD 0

/-- An outcome without a natural face is suspect if its formula speaks of a twenty-sided die. -/
def lacksNatural (o : Dice.Outcome) : Bool := o.natural.isNone && mentionsD20 o.formula

def Engine.classifyOutcome (e : Engine) (o : Dice.Outcome) (target : Int) (kind : Kind)
    (override : Option CriticalRange) (ms : List RangeModification) : Resolution :=
  e.classify o.total (naturalFace o) target kind override none ms

/-- A roll against a target number, as integers. The margin is the difference of what was given,
which may have been rounded. -/
structure Numbers where
  total : Int
  natural : Int
  target : Int
  margin : Int
  deriving DecidableEq, Repr

def Numbers.read (total natural target : Value) : Result Numbers := do
  let _ ← (Value.int 1).isLess natural
  let margin ← total.minus target
  (Numbers.mk
    <$> (Schema.integer total).under "roll_total"
    <*> (Schema.integer natural).under "roll_value"
    <*> (Schema.integer target).under "target_number"
    <*> (Schema.integer margin).under "margin").result

theorem Numbers.read_int (total natural target : Int) :
    Numbers.read (.int total) (.int natural) (.int target) =
      .ok ⟨total, natural, target, total - target⟩ := rfl

def Engine.classifyGiven (e : Engine) (total natural target : Value) (kind : Kind)
    (override overrideFailure : Option CriticalRange) (ms : List RangeModification) :
    Result Resolution := do
  let n ← Numbers.read total natural target
  return e.classifyAt n.total n.natural n.target n.margin kind override overrideFailure ms

def kindProblems : Value → Result (List String)
  | .list _ => .error (.wrongType "check type")
  | .object _ => .error (.wrongType "check type")
  | v =>
    .ok (if (v.text?.bind Kind.ofName?).isSome then [] else ["Invalid check type: " ++ v.shown])

def boundProblems? (low high : Value) : Option (List String) := do
  let outside := (← low.less? (.int 1)) || (← Value.less? (.int 20) high)
  let crossed ← high.less? low
  return (if outside then ["Critical range must be between 1 and 20"] else []) ++
    (if crossed then ["Critical range min cannot be greater than max"] else [])

def rangeProblems : Value → Result (List String)
  | .object fs =>
    let bound (key : String) : Value := (Entries.get? fs key).getD (.int 20)
    (boundProblems? (bound "min") (bound "max")).elim (.error (.wrongType "bound")) .ok
  | _ => .error (.absent "bound")

def optionProblems (kind range : Option Value) : Result (List String) := do
  let unknown ← (kind.map kindProblems).getD (.ok [])
  let bounds ← (range.map rangeProblems).getD (.ok [])
  return unknown ++ bounds

end Encounter.Check
