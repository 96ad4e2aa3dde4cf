import Encounter.Entries
import Encounter.Value

namespace Encounter.Json

def isSpace (c : Char) : Bool := c == ' ' || c == '\t' || c == '\n' || c == '\r'

def skip (cs : List Char) : List Char := cs.dropWhile isSpace

def hexValue? (c : Char) : Option Nat :=
  if c.isDigit then some (c.toNat - '0'.toNat)
  else if 'a' ≤ c && c ≤ 'f' then some (c.toNat - 'a'.toNat + 10)
  else if 'A' ≤ c && c ≤ 'F' then some (c.toNat - 'A'.toNat + 10)
  else none

def codeUnit? (cs : List Char) : Option Nat :=
  (cs.mapM hexValue?).map fun ds => ds.foldl (fun n d => 16 * n + d) 0

def isLead (n : Nat) : Bool := 0xD800 ≤ n && n < 0xDC00
def isTrail (n : Nat) : Bool := 0xDC00 ≤ n && n < 0xE000

def isHalf (n : Nat) : Bool := isLead n || isTrail n

def unitChar (n : Nat) : Char := if isHalf n then '\ufffd' else Char.ofNat n

def pairChar (lead trail : Nat) : Char :=
  Char.ofNat (0x10000 + (lead - 0xD800) * 0x400 + (trail - 0xDC00))

def plainEscape? : Char → Option Char
  | '"' => some '"'
  | '\\' => some '\\'
  | '/' => some '/'
  | 'b' => some '\x08'
  | 'f' => some '\x0c'
  | 'n' => some '\n'
  | 'r' => some '\r'
  | 't' => some '\t'
  | _ => none

def textValue (whole : Bool) (s : String) : Value := if whole then .text s else .garbled s

/-- Read the rest of a text after its opening quote. The characters so far are given, last first,
and whether all of them are characters. Control characters must be escaped. -/
def readText : Nat → Bool → List Char → List Char → Option (Bool × String × List Char)
  | 0, _, _, _ => none
  | _ + 1, whole, acc, '"' :: rest => some (whole, String.ofList acc.reverse, rest)
  | fuel + 1, whole, acc, '\\' :: 'u' :: a :: b :: c :: d :: rest => do
    let n ← codeUnit? [a, b, c, d]
    match isLead n, rest with
    | true, '\\' :: 'u' :: e :: f :: g :: h :: after =>
      let m ← codeUnit? [e, f, g, h]
      if isTrail m then readText fuel whole (pairChar n m :: acc) after
      else readText fuel false (unitChar n :: acc) rest
    | _, _ => readText fuel (whole && !(isHalf n)) (unitChar n :: acc) rest
  | fuel + 1, whole, acc, '\\' :: c :: rest => do
    readText fuel whole ((← plainEscape? c) :: acc) rest
  | fuel + 1, whole, acc, c :: rest => if c < ' ' then none else readText fuel whole (c :: acc) rest
  | _ + 1, _, _, [] => none

def readExponent : List Char → Option (Int × List Char)
  | c :: rest =>
    if c == 'e' || c == 'E' then
      let (negative, body) := Numeral.splitSign rest
      let ds := body.takeWhile Char.isDigit
      if ds.isEmpty then none
      else some (Numeral.signed negative (Numeral.value ds), body.dropWhile Char.isDigit)
    else some (0, c :: rest)
  | [] => some (0, [])

def readNumber (cs : List Char) : Option (Value × List Char) := do
  let negative := cs.head? == some '-'
  let cs := if negative then cs.tail else cs
  let whole := cs.takeWhile Char.isDigit
  let rest := cs.dropWhile Char.isDigit
  if whole.isEmpty || (whole.head? == some '0' && whole.tail != []) then none
  let fraction := if rest.head? == some '.' then rest.tail.takeWhile Char.isDigit else []
  let after := if fraction.isEmpty then rest else rest.tail.dropWhile Char.isDigit
  let (e, last) ← readExponent after
  if after.length == last.length && fraction.isEmpty then
    if Numeral.digitLimit < whole.length then none
    return (.int (Numeral.signed negative (Numeral.value whole)), last)
  let digits := Numeral.value (whole ++ fraction)
  return (.float (Binary64.ofDecimal negative digits (e - fraction.length)), last)

mutual

def readValue : Nat → List Char → Option (Value × List Char)
  | 0, _ => none
  | fuel + 1, cs =>
    match skip cs with
    | 'n' :: 'u' :: 'l' :: 'l' :: rest => some (.null, rest)
    | 't' :: 'r' :: 'u' :: 'e' :: rest => some (.bool true, rest)
    | 'f' :: 'a' :: 'l' :: 's' :: 'e' :: rest => some (.bool false, rest)
    | 'N' :: 'a' :: 'N' :: rest => some (.float .nan, rest)
    | 'I' :: 'n' :: 'f' :: 'i' :: 'n' :: 'i' :: 't' :: 'y' :: rest =>
      some (.float (.infinite false), rest)
    | '-' :: 'I' :: 'n' :: 'f' :: 'i' :: 'n' :: 'i' :: 't' :: 'y' :: rest =>
      some (.float (.infinite true), rest)
    | '"' :: rest => do
      let (whole, t, rest) ← readText (rest.length + 1) true [] rest
      return (textValue whole t, rest)
    | '[' :: rest =>
      match skip rest with
      | ']' :: rest => some (.list [], rest)
      | rest => (readItems fuel rest).map fun r => (.list r.1, r.2)
    | '\x7b' :: rest =>
      match skip rest with
      | '\x7d' :: rest => some (.object [], rest)
      | rest => (readEntries fuel rest).map fun r => (.object (Entries.ofList r.1), r.2)
    | cs => readNumber cs

def readItems : Nat → List Char → Option (List Value × List Char)
  | 0, _ => none
  | fuel + 1, cs => do
    let (v, rest) ← readValue fuel cs
    match skip rest with
    | ',' :: rest => (readItems fuel rest).map fun r => (v :: r.1, r.2)
    | ']' :: rest => some ([v], rest)
    | _ => none

def readEntries : Nat → List Char → Option (List (String × Value) × List Char)
  | 0, _ => none
  | fuel + 1, cs =>
    match skip cs with
    | '"' :: rest => do
      let (_, k, rest) ← readText (rest.length + 1) true [] rest
      match skip rest with
      | ':' :: rest =>
        let (v, rest) ← readValue fuel rest
        match skip rest with
        | ',' :: rest => (readEntries fuel rest).map fun r => ((k, v) :: r.1, r.2)
        | '\x7d' :: rest => some ([(k, v)], rest)
        | _ => none
      | _ => none
    | _ => none

end

/-- The value that a whole text stands for. A number with a fraction or an exponent is a float, an
integer of more digits than a numeral may have is refused, and of two entries with one key the later
one counts. -/
def read (s : String) : Option Value :=
  let cs := s.toList
  match readValue (cs.length + 1) cs with
  | some (v, rest) => if (skip rest).isEmpty then some v else none
  | none => none

end Encounter.Json
