namespace Encounter.Dice

inductive Sign
  | plus
  | minus
  deriving DecidableEq, Repr

def Sign.char : Sign → Char
  | plus => '+'
  | minus => '-'

def Sign.apply : Sign → Int → Int
  | plus, n => n
  | minus, n => -n

inductive Keep
  | highest
  | lowest
  deriving DecidableEq, Repr

def Keep.text : Keep → List Char
  | highest => ['k', 'h', '1']
  | lowest => ['k', 'l', '1']

def Keep.beats : Keep → Int → Int → Bool
  | highest, a, b => b < a
  | lowest, a, b => a < b

/-- A group of one member is a parenthesis. A label is an annotation with its brackets. -/
inductive Expr
  | number (n : Nat)
  | dice (count size : Nat)
  | unary (sign : Sign) (e : Expr)
  | binary (sign : Sign) (left right : Expr)
  | group (keeps : List Keep) (members : List Expr)
  | labelled (label : List Char) (e : Expr)
  deriving Inhabited, Repr

end Encounter.Dice
