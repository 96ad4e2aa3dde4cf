import Encounter.Failure

namespace Encounter.Pool

inductive ElementKind
  | dice
  | number
  deriving DecidableEq, Repr

def ElementKind.name : ElementKind → String
  | dice => "dice"
  | number => "number"

def ElementKind.ofName? (s : String) : Option ElementKind :=
  [dice, number].find? fun k => k.name == s

/-- A dice group in digits, before its numbers are read. -/
structure DiceForm where
  negative : Bool
  count : List Char
  size : List Char
  deriving DecidableEq, Repr

def withoutBreak (cs : List Char) : List Char :=
  if cs.getLast? == some '\n' then cs.dropLast else cs

def isRun (ds : List Char) : Bool := !ds.isEmpty && ds.all Text.isDigit

def numberForm? (cs : List Char) : Option (Bool × List Char) :=
  let (negative, ds) := Numeral.splitSign (withoutBreak cs)
  if isRun ds then some (negative, ds) else none

def isDie (c : Char) : Bool := c == 'd' || c == 'D'

def diceForm? (cs : List Char) : Option DiceForm :=
  let (negative, body) := Numeral.splitSign (withoutBreak cs)
  match body.dropWhile Text.isDigit with
  | c :: size =>
    if isDie c && isRun size then some ⟨negative, body.takeWhile Text.isDigit, size⟩ else none
  | [] => none

def readInteger (negative : Bool) (ds : List Char) : Result Int :=
  (Result.ofNumeral (Numeral.readDigits ds)).map (Numeral.signed negative)

namespace DiceForm

def quantity (f : DiceForm) : Result Int :=
  if f.count.isEmpty then .ok (Numeral.signed f.negative 1) else readInteger f.negative f.count

def faces (f : DiceForm) : Result Nat := Result.ofNumeral (Numeral.readDigits f.size)

end DiceForm

inductive Element
  | constant (n : Int)
  | dice (quantity : Int) (faces : Nat)
  | verbatim (text : String)
  deriving DecidableEq, Repr

def Element.read (s : String) : Result Element :=
  match numberForm? s.toList with
  | some (negative, ds) => (readInteger negative ds).map .constant
  | none =>
    match diceForm? s.toList with
    | some f => do return .dice (← f.quantity) (← f.faces)
    | none => .ok (.verbatim s)

def diceText (quantity : Int) (faces : Nat) : String :=
  String.ofList (Numeral.intChars quantity ++ 'd' :: Numeral.natChars faces)

end Encounter.Pool
