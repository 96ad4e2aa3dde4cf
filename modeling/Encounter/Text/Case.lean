import Encounter.Text.CaseTable

namespace Encounter.Text

def isCased (c : Char) : Bool := casedRanges.has c

def isCaseIgnorable (c : Char) : Bool := caseIgnorableRanges.has c

def applyRuns (runs : List CaseRun) (c : Char) : Char :=
  (runs.findSome? fun r => r.apply? c.toNat).elim c Char.ofNat

def nextIsCased (cs : List Char) : Bool :=
  ((cs.dropWhile isCaseIgnorable).head?.map isCased).getD false

/-- The lower case of a character between the text before it, read backwards, and the text after. -/
def lowerBetween (before : List Char) (c : Char) (after : List Char) : List Char :=
  if c == 'Σ' then
    if nextIsCased before && !nextIsCased after then ['ς'] else ['σ']
  else if c == 'İ' then ['i', '\u0307']
  else [applyRuns lowerRuns c]

def titleChar (c : Char) : List Char :=
  match titleExpansions.find? fun e => e.1 == c.toNat with
  | some e => e.2.map Char.ofNat
  | none => [applyRuns titleRuns c]

def lowerFrom (before : List Char) : List Char → List Char
  | [] => []
  | c :: rest => lowerBetween before c rest ++ lowerFrom (c :: before) rest

/-- A letter after a letter with case is lowered, any other is put in title case. -/
def titleFrom (before : List Char) : List Char → List Char
  | [] => []
  | c :: rest =>
    let shown :=
      if (before.head?.map isCased).getD false then lowerBetween before c rest else titleChar c
    shown ++ titleFrom (c :: before) rest

def lower (s : String) : String := String.ofList (lowerFrom [] s.toList)

def title (s : String) : String := String.ofList (titleFrom [] s.toList)

end Encounter.Text
