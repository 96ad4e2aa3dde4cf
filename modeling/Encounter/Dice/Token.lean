import Encounter.Dice.Expr

namespace Encounter.Dice

/-- A stray character begins no token, and what follows it is not looked at. -/
inductive Token
  | number (digits : List Char)
  | die
  | sign (s : Sign)
  | openGroup
  | closeGroup
  | comma
  | keep (k : Keep)
  | label (text : List Char)
  | gap
  | stray
  deriving DecidableEq, Repr

namespace Token

def isGap (c : Char) : Bool := c == '\t' || c == '\n' || c == '\r' || c == '\x0c'

def consDigit (c : Char) : List Token → List Token
  | number ds :: ts => number (c :: ds) :: ts
  | ts => number [c] :: ts

/-- Split a text into tokens. Inside an annotation the characters read so far are given, last
first. -/
def scan : Option (List Char) → List Char → List Token
  | some _, [] => [stray]
  | some acc, ']' :: rest => label ('[' :: (']' :: acc).reverse) :: scan none rest
  | some _, '\n' :: _ => [stray]
  | some acc, c :: rest => scan (some (c :: acc)) rest
  | none, [] => []
  | none, '+' :: rest => sign .plus :: scan none rest
  | none, '-' :: rest => sign .minus :: scan none rest
  | none, '(' :: rest => openGroup :: scan none rest
  | none, ')' :: rest => closeGroup :: scan none rest
  | none, ',' :: rest => comma :: scan none rest
  | none, 'd' :: rest => die :: scan none rest
  | none, 'k' :: 'h' :: '1' :: rest => keep .highest :: scan none rest
  | none, 'k' :: 'l' :: '1' :: rest => keep .lowest :: scan none rest
  | none, '[' :: rest => scan (some []) rest
  | none, c :: rest =>
    if isGap c then gap :: scan none rest
    else if c.isDigit then consDigit c (scan none rest)
    else [stray]

end Token
end Encounter.Dice
