import Encounter.Text.Blank
import Encounter.Text.Digit
import Encounter.Text.Quoted

namespace Encounter.Numeral

def digitLimit : Nat := 4300

inductive Flaw
  | malformed (text : String)
  | tooManyDigits (count : Nat)
  | tooLargeToWrite
  deriving DecidableEq, Repr

def Flaw.message : Flaw → String
  | malformed text => "invalid literal for int() with base 10: " ++ Text.quoted text
  | tooManyDigits count =>
    "Exceeds the limit (4300 digits) for integer string conversion: value has " ++ toString count ++
      " digits; use sys.set_int_max_str_digits() to increase the limit"
  | tooLargeToWrite =>
    "Exceeds the limit (4300 digits) for integer string conversion; use " ++
      "sys.set_int_max_str_digits() to increase the limit"

def value (cs : List Char) : Nat :=
  cs.foldl (fun n c => 10 * n + (Text.digitValue? c).getD 0) 0

def readDigits (cs : List Char) : Except Flaw Nat :=
  if cs.length ≤ digitLimit then .ok (value cs) else .error (.tooManyDigits cs.length)

def isMinus (c : Char) : Bool := c == '-'

def isSign (c : Char) : Bool := c == '+' || c == '-'

def splitSign : List Char → Bool × List Char
  | c :: rest => if isSign c then (isMinus c, rest) else (false, c :: rest)
  | [] => (false, [])

def signed (negative : Bool) (n : Nat) : Int := if negative then -(n : Int) else n

/-- Digits with single underscores between them. The underscores are dropped. -/
def digitRun? : List Char → Option (List Char)
  | [] => none
  | c :: '_' :: rest => if Text.isDigit c then (digitRun? rest).map (c :: ·) else none
  | [c] => if Text.isDigit c then some [c] else none
  | c :: rest => if Text.isDigit c then (digitRun? rest).map (c :: ·) else none

/-- Read an integer with white space around it, a sign, and underscores between digits. -/
def read (s : String) : Except Flaw Int :=
  let (negative, body) := splitSign (Text.trimChars Text.isSpacing s.toList)
  match digitRun? body with
  | some ds => (readDigits ds).map (signed negative)
  | none => .error (.malformed s)

def natChars (n : Nat) : List Char := Nat.toDigits 10 n

def intChars (n : Int) : List Char :=
  if n < 0 then '-' :: natChars n.natAbs else natChars n.natAbs

def text (n : Int) : String := String.ofList (intChars n)

def write (n : Int) : Except Flaw String :=
  if n.natAbs < Nat.pow 10 digitLimit then .ok (text n) else .error .tooLargeToWrite

end Encounter.Numeral
