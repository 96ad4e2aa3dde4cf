import Encounter.Number.Binary64

namespace Encounter.Moment

inductive Flaw
  | malformed
  | outOfRange
  deriving DecidableEq, Repr

def greatestSeconds : Nat := 20000000000

def earliest : Int := -62167219200

def firstYear : Int := -62135596800

def latest : Int := 253402300799

def seconds (n : Int) : Int := if n.natAbs ≤ greatestSeconds then n else n / 1000

def isCounted (s : Int) : Bool := earliest ≤ s && s ≤ latest

def ofSeconds (s : Int) : Except Flaw Unit :=
  if firstYear ≤ s && s ≤ latest then .ok () else .error .outOfRange

def ofInt (n : Int) : Except Flaw Unit := ofSeconds (seconds n)

def ofFloat (x : Binary64) : Except Flaw Unit := x.floor?.elim (.error .outOfRange) ofInt

def exponent? : List Char → Option Int
  | [] => some 0
  | c :: cs =>
    let (negative, ds) := Numeral.splitSign cs
    if (c == 'e' || c == 'E') && !ds.isEmpty && ds.all Char.isDigit then
      some (Numeral.signed negative (Numeral.value ds))
    else none

def ofDecimal? (negative : Bool) (whole rest : List Char) : Option Int := do
  let part := rest.takeWhile Char.isDigit
  let digits := whole ++ part
  let exponent ← exponent? (rest.dropWhile Char.isDigit)
  if digits.isEmpty then none
  (Binary64.ofDecimal negative (Numeral.value digits) (exponent - part.length)).floor?

def ofDigits? (cs : List Char) : Option Int :=
  let (negative, body) := Numeral.splitSign cs
  let whole := body.takeWhile Char.isDigit
  match body.dropWhile Char.isDigit with
  | [] => if whole.isEmpty then none else some (Numeral.signed negative (Numeral.value whole))
  | c :: rest => if c == '.' then ofDecimal? negative whole rest else none

def isLeap (year : Nat) : Bool := year % 4 == 0 && (year % 100 != 0 || year % 400 == 0)

def daysIn (year month : Nat) : Nat :=
  if month == 2 then (if isLeap year then 29 else 28)
  else if [4, 6, 9, 11].contains month then 30
  else 31

def digitPair? (limit : Nat) : List Char → Option (Nat × List Char)
  | a :: b :: rest =>
    let n := Numeral.value [a, b]
    if a.isDigit && b.isDigit && n < limit then some (n, rest) else none
  | _ => none

def skip? (c : Char) : List Char → Option (List Char)
  | d :: rest => if d == c then some rest else none
  | [] => none

def date? (cs : List Char) : Option (Nat × List Char) := do
  let (century, cs) ← digitPair? 100 cs
  let (rest, cs) ← digitPair? 100 cs
  let year := 100 * century + rest
  let (month, cs) ← digitPair? 13 (← skip? '-' cs)
  let (day, cs) ← digitPair? 32 (← skip? '-' cs)
  if month == 0 || day == 0 || daysIn year month < day then none
  return (year, cs)

def fraction? : List Char → Option (List Char)
  | c :: rest =>
    if c == '.' || c == ',' then
      if (rest.takeWhile Char.isDigit).isEmpty then none else some (rest.dropWhile Char.isDigit)
    else some (c :: rest)
  | [] => some []

def secondsOfMinute? : List Char → Option (List Char)
  | ':' :: rest => do fraction? (← digitPair? 60 rest).2
  | cs => some cs

def timeOfDay? (cs : List Char) : Option (List Char) := do
  let (_, cs) ← digitPair? 24 cs
  let (_, cs) ← digitPair? 60 (← skip? ':' cs)
  secondsOfMinute? cs

def isShift (cs : List Char) : Bool :=
  match digitPair? 24 cs with
  | some (_, cs) => (digitPair? 60 ((skip? ':' cs).getD cs)).any fun m => m.2.isEmpty
  | none => false

def isOffset : List Char → Bool
  | [] => true
  | ['Z'] => true
  | ['z'] => true
  | c :: cs => ['+', '-', '−'].contains c && isShift cs

/-- The year of a date that stands alone or with a time of day. -/
def written? (cs : List Char) : Option Nat := do
  let (year, rest) ← date? cs
  match rest with
  | [] => return year
  | c :: rest =>
    if ['T', 't', ' ', '_'].contains c && isOffset (← timeOfDay? rest) then return year else none

/-- Year zero is written like any other, but is none. A number that counts to no year at all is no
text of a time. -/
def ofText (s : String) : Except Flaw Unit :=
  match written? s.toList, ofDigits? s.toList with
  | some year, _ => if year == 0 then .error .outOfRange else .ok ()
  | none, some n => if isCounted (seconds n) then ofInt n else .error .malformed
  | none, none => .error .malformed

end Encounter.Moment
