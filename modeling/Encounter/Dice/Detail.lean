import Encounter.Dice.Roll

namespace Encounter.Dice

def struckOut (kept dropped : Bool) (cs : List Char) : List Char :=
  if kept || dropped then cs else '~' :: '~' :: cs ++ ['~', '~']

def faceText (size : Nat) (dropped : Bool) (f : Bool × Nat) : List Char :=
  let digits := Numeral.natChars f.2
  let shown := if f.2 == 1 || f.2 == size then '*' :: '*' :: digits ++ ['*', '*'] else digits
  struckOut f.1 dropped shown

def commaSeparated (parts : List (List Char)) : List Char := List.intercalate [',', ' '] parts

namespace Node

mutual

def detail (dropped : Bool) : Node → List Char
  | number n => Numeral.natChars n
  | dice size faces =>
    Numeral.natChars faces.length ++ 'd' :: Numeral.natChars size ++
      ' ' :: '(' :: commaSeparated (faces.map (faceText size dropped)) ++ [')']
  | unary s e => s.char :: e.detail dropped
  | binary s l r => l.detail dropped ++ ' ' :: s.char :: ' ' :: r.detail dropped
  | group ks ms =>
    '(' :: commaSeparated (membersDetail dropped ms) ++ ')' :: ks.flatMap Keep.text
  | labelled t e => e.detail dropped ++ ' ' :: t

def membersDetail (dropped : Bool) : List (Bool × Node) → List (List Char)
  | [] => []
  | (kept, n) :: rest =>
    struckOut kept dropped (n.detail (dropped || !kept)) :: membersDetail dropped rest

end

def breakdown (n : Node) : String :=
  String.ofList (n.detail false ++ " = \x60".toList ++ Numeral.intChars n.total ++ ['\x60'])

end Node
end Encounter.Dice
