import Encounter.Number.Numeral

namespace Encounter.Numeral

/-- Go to the end of a run of zeros and underscores. A number or a minus sign may follow it, and
before a point or the end its last character stays. -/
def afterZeros (last : Char) : List Char → Option (List Char)
  | [] => some [last]
  | c :: rest =>
    if c == '0' || c == '_' then afterZeros c rest
    else if c.isDigit || c == '-' then some (c :: rest)
    else if c == '.' then some (last :: c :: rest)
    else none

def dropZeros : List Char → Option (List Char)
  | [] => none
  | c :: rest =>
    if c == '0' then afterZeros c rest else if c.isDigit then some (c :: rest) else none

def dropFraction (cs : List Char) : List Char :=
  let zeros := (cs.dropWhile (· != '.')).tail
  if !zeros.isEmpty && zeros.all (· == '0') then cs.takeWhile (· != '.') else cs

def hasDoubled : List Char → Bool
  | '_' :: '_' :: _ => true
  | _ :: rest => hasDoubled rest
  | [] => false

def dropUnderscores (cs : List Char) : List Char :=
  if cs.head? == some '_' || cs.getLast? == some '_' || hasDoubled cs then cs
  else cs.filter (· != '_')

/-- Sign and digits of a written number. A minus sign may also come after zeros. -/
def tidied (cs : List Char) : Option (Bool × List Char) :=
  let (negative, body) := splitSign (Text.trimChars Text.isSpacing cs)
  (dropZeros body).map fun ds =>
    match negative, dropUnderscores (dropFraction ds) with
    | false, '-' :: rest => (true, rest)
    | _, ds => (negative, ds)

def isPlain (ds : List Char) : Bool :=
  !ds.isEmpty && ds.all Char.isDigit && (ds.head? != some '0' || ds.tail.isEmpty)

def leadingDigits (cs : List Char) : List Char :=
  let ds := (if cs.head? == some '-' then cs.tail else cs).takeWhile Char.isDigit
  if ds.head? == some '0' then [] else ds

/-- The integer that a text stands for. Too many digits are noticed as such only where they come
first, with nothing to remove before them or between them. -/
def readWritten (s : String) : Except Flaw Int :=
  let count := (leadingDigits s.toList).length
  if digitLimit < count then .error (.tooManyDigits count)
  else
    match tidied s.toList with
    | none => .error (.malformed s)
    | some (negative, ds) =>
      if isPlain ds && ds.length ≤ digitLimit then .ok (signed negative (value ds))
      else .error (.malformed s)

end Encounter.Numeral
