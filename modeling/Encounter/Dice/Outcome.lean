import Encounter.Dice.Detail
import Encounter.Dice.Selector
import Encounter.Failure
import Encounter.Text.Case

namespace Encounter.Dice

structure Outcome where
  formula : String
  total : Int
  dice : List Nat := []
  natural : Option Int := none
  totalsByType : List (String × Int) := []
  detail : String := ""

structure Findings where
  dice : List Nat := []
  natural : Option Nat := none
  totals : List (String × Int) := []

def labelName (label : List Char) : List Char :=
  let trimmed := Text.trimChars Text.isBlank label
  let bare := Text.trimChars (fun c => c == '[' || c == ']') trimmed
  Text.lowerFrom [] (Text.trimChars Text.isBlank bare)

def addTotal (totals : List (String × Int)) (name : String) (n : Int) : List (String × Int) :=
  Entries.put totals name ((Entries.get? totals name).getD 0 + n)

def Findings.addLabel (f : Findings) (label : List Char) (n : Int) : Findings :=
  match labelName label with
  | [] => f
  | name => { f with totals := addTotal f.totals (String.ofList name) n }

def Findings.addDice (f : Findings) (size : Nat) (faces : List (Bool × Nat)) : Findings :=
  let kept := (faces.filter (·.1)).map (·.2)
  { f with
    dice := f.dice ++ kept
    natural := f.natural <|> (if size == 20 then kept.head? else none) }

mutual

/-- Walk over the kept parts in formula order. -/
def Node.gather (f : Findings) : Node → Findings
  | .number _ => f
  | .dice size faces => f.addDice size faces
  | .unary _ e => e.gather f
  | .binary _ l r => r.gather (l.gather f)
  | .group _ ms => gatherMembers f ms
  | .labelled t e => e.gather (f.addLabel t e.total)

def gatherMembers (f : Findings) : List (Bool × Node) → Findings
  | [] => f
  | (kept, n) :: rest => gatherMembers (if kept then n.gather f else f) rest

end

namespace Trouble

def text : Trouble → String
  | malformed => "<syntax>"
  | numeral flaw => flaw.message
  | noSides => "Cannot roll a 0-sided die."
  | tooManyDice => "Too many dice rolled."

end Trouble

def invalidRoll (message formula : String) : Failure :=
  .fault (.make .diceRoll message [("expression", .text formula)])

def Trouble.failure (formula : String) : Trouble → Failure
  | numeral flaw => .numeral flaw
  | t => invalidRoll ("Invalid dice expression: " ++ t.text) formula

def unbalanced (formula : String) : Failure :=
  invalidRoll "Unbalanced parentheses in formula" formula

def emptyFormula (formula : String) : Failure := invalidRoll "Empty dice expression" formula

/-- Turn the selectors of a formula into groups with a keep. -/
def regroupChars (formula : String) (cs : List Char) : Result (List Char) :=
  match Selector.regroup false [] cs with
  | some out => .ok out
  | none => .error (unbalanced formula)

def regroup (formula : String) : Result String :=
  (regroupChars formula formula.toList).map String.ofList

def Outcome.ofNode (formula : String) (n : Node) : Outcome :=
  let f := n.gather {}
  ⟨formula, n.total, f.dice, f.natural.map Int.ofNat, f.totals, n.breakdown⟩

def readFormula (formula : String) : Result Expr := do
  if formula.toList.all Text.isBlank then throw (emptyFormula formula)
  let cs := formula.toList.filter (· != ' ')
  let cs ← regroupChars (String.ofList cs) cs
  (Expr.read cs).mapError (Trouble.failure formula)

/-- Evaluate a formula with the faces that come next. The position in the stream stays where a
failed roll left it. -/
def evaluate (formula : String) (faces : Faces) : Result Outcome × Faces :=
  match readFormula formula with
  | .error e => (.error e, faces)
  | .ok e =>
    let (rolled, supply) := e.roll.run.run { faces }
    let outcome := match rolled with
      | .error t => .error (t.failure formula)
      | .ok n => (Result.ofNumeral (Numeral.write n.total)).map fun _ => Outcome.ofNode formula n
    (outcome, supply.faces)

def evaluateGiven (formula : Value) (faces : Faces) : Result Outcome × Faces :=
  match formula with
  | .text s => evaluate s faces
  | .garbled s => evaluate s faces
  | v => (.error (if v.isTruthy then .absent "text" else emptyFormula ""), faces)

def Outcome.toValue (o : Outcome) : Value :=
  .object [("formula", .text o.formula), ("total", .int o.total),
    ("dice", .list (o.dice.map fun n : Nat => .int n)),
    ("natural_d20", .ofOption .int o.natural),
    ("totals_by_type", .ints o.totalsByType), ("detail", .text o.detail)]

end Encounter.Dice
