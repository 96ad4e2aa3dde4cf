import Encounter.Feature.Registry
import Encounter.Pool.Combined
import Encounter.Pool.Fragment

namespace Encounter.Pool

structure DicePool where
  action : Action
  terms : List Term
  formula : String
  advantage : Bool := false
  disadvantage : Bool := false
  critical : Bool := false
  features : List String := []
  deriving DecidableEq, Repr

namespace DicePool

/-- The damage types of the terms, each once, in the order in which they first come. -/
def damageTypes (p : DicePool) : List String :=
  (p.terms.map (·.damageType)).foldl (fun seen t =>
    if t.isEmpty || seen.contains t then seen else seen ++ [t]) []

def toValue (p : DicePool) : Value :=
  .object [("action_type", .text p.action.name), ("base_pool", .list (p.terms.map Term.toValue)),
    ("formula", .text p.formula), ("advantage", .bool p.advantage),
    ("disadvantage", .bool p.disadvantage), ("critical", .bool p.critical),
    ("feature_names", .texts p.features), ("damage_types", .texts p.damageTypes)]

def read : Reader DicePool := Schema.record fun fs =>
  DicePool.mk
    <$> Schema.required fs "action_type" (Schema.choice .enum Action.ofName?)
    <*> Schema.optional fs "base_pool" [] (Schema.list Term.read)
    <*> Schema.required fs "formula" Schema.text
    <*> Schema.optional fs "advantage" false Schema.flag
    <*> Schema.optional fs "disadvantage" false Schema.flag
    <*> Schema.optional fs "critical" false Schema.flag
    <*> Schema.optional fs "feature_names" [] (Schema.list Schema.text)

end DicePool

structure Request where
  modifiers : List Modifier := []
  action : Action
  advantage : Bool := false
  disadvantage : Bool := false
  critical : Bool := false
  actor : Option Actor := none
  dialog : Option Dialog := none
  vetoed : List String := []

/-- The features in force at a table, and the damage type of untyped damage. -/
structure Builder where
  registry : Option Registry := none
  baseType : String := "kinetic"

def defaultDamageType : String := "kinetic"
def emptyCheckFormula : String := "1d20"

def Builder.make (registry : Option Registry) (baseType : String) : Builder :=
  let name := normalName baseType
  ⟨registry, if name.isEmpty then defaultDamageType else name⟩

def featureStep (a : Action) : String := "base-dice-pool-features-" ++ a.name

def baseDie (a : Action) : Term := { element := "1d20", kind := .dice, name := a.dieName }

def doubleDice (t : Term) : Result Term :=
  if t.isSimpleDice then do
    let quantity ← Result.ofNumeral (Numeral.write (2 * (← t.quantity)))
    return { t with element := quantity ++ "d" ++ Numeral.text (← t.faces) }
  else .ok t

/-- Which of two rolls counts. Advantage and disadvantage cancel out. -/
def selector? (advantage disadvantage : Bool) : Option String :=
  if advantage && !disadvantage then some "max"
  else if disadvantage && !advantage then some "min"
  else none

def callTwice (selector formula : String) : String :=
  selector ++ "(" ++ formula ++ "," ++ formula ++ ")"

/-- Roll the first twenty-sided term twice. -/
def rollTwice (selector : String) : List Term → Result (List Term)
  | [] => .ok []
  | t :: rest => do
    let found := t.isSimpleDice && (← t.faces) == 20 && 0 < (← t.quantity)
    if found then return { t with element := callTwice selector t.element } :: rest
    else return t :: (← rollTwice selector rest)

/-- Elements by damage type, base type first, the others in alphabetical order. -/
abbrev Groups := List (String × List String)

def comesBefore (baseType a b : String) : Bool :=
  if a == baseType then b != baseType else b != baseType && a < b

def Groups.add (baseType damageType element : String) : Groups → Groups
  | [] => [(damageType, [element])]
  | (t, es) :: rest =>
    if damageType == t then (t, es ++ [element]) :: rest
    else if comesBefore baseType damageType t then (damageType, [element]) :: (t, es) :: rest
    else (t, es) :: Groups.add baseType damageType element rest

def groupTerms (baseType : String) (terms : List Term) : Groups :=
  terms.foldl (fun gs t =>
    Groups.add baseType (if t.damageType.isEmpty then baseType else t.damageType) t.element gs) []

def groupText (g : String × List String) : Result (List String) := do
  let combined ← combine g.2
  return if combined == emptyFormula then [] else ["(" ++ combined ++ ")[" ++ g.1 ++ "]"]

def damageFormula (baseType : String) (terms : List Term) : Result String := do
  let parts ← (groupTerms baseType terms).mapM groupText
  let parts := parts.flatten
  return if parts.isEmpty then emptyFormula else "+".intercalate parts

def checkFormula (terms : List Term) : Result String := do
  let formula ← combine (terms.map (·.element))
  return if formula == emptyFormula then emptyCheckFormula else formula

namespace Builder

/-- The terms of a modifier. Damage without a type has the base type. -/
def modifierTerms (b : Builder) (a : Action) (m : Modifier) : Result (List Term) :=
  if m.isEnabled then
    let declared := Text.trim m.damageType
    let lowered := Text.lower declared
    let damageType :=
      if a != .damage then declared else if lowered.isEmpty then b.baseType else lowered
    fragmentTerms ⟨m.name, damageType, m.feature⟩ m.fragment
  else .ok []

def allTerms (b : Builder) (a : Action) (ms : List Modifier) : Result (List Term) := do
  return (← ms.mapM (b.modifierTerms a)).flatten

def featureTerms (b : Builder) (r : Request) (actor : Actor) (f : Feature) :
    Result (List Term) := do
  let c ← f.context actor r.action.name r.dialog (some (featureStep r.action))
  if c.data.enabled then
    let ms ← f.modifiers c
    b.allTerms r.action (ms.map fun m => { m with feature := some f.name })
  else return []

def contributions (b : Builder) (r : Request) : Result (List Term × List String) :=
  match b.registry, r.actor with
  | some registry, some actor => do
    let active := registry.activeAt actor (featureStep r.action) r.vetoed
    let added ← active.mapM fun f => return (f.name, ← b.featureTerms r actor f)
    return (added.flatMap (·.2), (added.filter fun x => !x.2.isEmpty).map (·.1))
  | _, _ => .ok ([], [])

/-- The formula of the terms, rolled twice where that was asked of damage. -/
def formula (b : Builder) (a : Action) (selector : Option String) (terms : List Term) :
    Result String :=
  if a == .damage then do
    let formula ← damageFormula b.baseType terms
    return match selector with
    | some s => if formula == emptyFormula then formula else callTwice s formula
    | none => formula
  else checkFormula terms

def build (b : Builder) (r : Request) : Result DicePool := do
  let declared ← b.allTerms r.action r.modifiers
  let seeded := if r.action.usesD20 then baseDie r.action :: declared else declared
  let (added, features) ← b.contributions r
  let terms := seeded ++ added
  let critical := r.critical && r.action == .damage
  let terms ← if critical then terms.mapM doubleDice else pure terms
  let selector := selector? r.advantage r.disadvantage
  let terms ← match selector with
    | some s => if r.action.usesD20 then rollTwice s terms else pure terms
    | none => pure terms
  let formula ← b.formula r.action selector terms
  return ⟨r.action, terms, formula, r.advantage, r.disadvantage, critical, features⟩

end Builder
end Encounter.Pool
