import Encounter.Pool.Element

namespace Encounter.Pool

/-- Net quantities by size, largest size first. -/
abbrev DiceSum := List (Nat × Int)

def DiceSum.add (size : Nat) (quantity : Int) : DiceSum → DiceSum
  | [] => [(size, quantity)]
  | (s, q) :: rest =>
    if size == s then (s, q + quantity) :: rest
    else if s < size then (size, quantity) :: (s, q) :: rest
    else (s, q) :: DiceSum.add size quantity rest

def DiceSum.net (d : DiceSum) (size : Nat) : Int :=
  d.foldr (fun e acc => (if e.1 == size then e.2 else 0) + acc) 0

theorem DiceSum.net_add (d : DiceSum) (size s : Nat) (quantity : Int) :
    (d.add size quantity).net s = d.net s + if size = s then quantity else 0 := by
  induction d with
  | nil => by_cases h : size = s <;> simp [DiceSum.add, DiceSum.net, h]
  | cons e d ih =>
    obtain ⟨t, q⟩ := e
    simp only [DiceSum.add]
    grind [DiceSum.net]

structure Tally where
  verbatim : List String := []
  dice : DiceSum := []
  constant : Int := 0

namespace Tally

def add (t : Tally) : Element → Tally
  | .constant n => { t with constant := t.constant + n }
  | .dice quantity faces => { t with dice := t.dice.add faces quantity }
  | .verbatim s => { t with verbatim := t.verbatim ++ [s] }

def addText (t : Tally) (s : String) : Result Tally := (Element.read s).map t.add

def ofElements (elements : List String) : Result Tally := elements.foldlM addText {}

end Tally

def writeDice (e : Nat × Int) : Result (List Char) := do
  let quantity ← Result.ofNumeral (Numeral.write e.2)
  return quantity.toList ++ 'd' :: Numeral.natChars e.1

def Tally.parts (t : Tally) : Result (List (List Char)) := do
  let dice ← (t.dice.filter fun e => e.2 != 0).mapM writeDice
  let constant ←
    if t.constant == 0 then pure []
    else (Result.ofNumeral (Numeral.write t.constant)).map fun s => [s.toList]
  return t.verbatim.map String.toList ++ dice ++ constant

/-- A part with a minus in front joins as it is. -/
def joinSigned (parts : List (List Char)) : List Char :=
  parts.foldl (fun acc p =>
    if acc.isEmpty then p
    else if p.head? == some '-' then acc ++ p
    else acc ++ '+' :: p) []

def emptyFormula : String := "0"

/-- Verbatim elements first, then dice from the largest size to the smallest, then the sum of the
numbers. What adds up to nothing is left out. -/
def combine (elements : List String) : Result String := do
  let t ← Tally.ofElements elements
  let joined := joinSigned (← t.parts)
  return if joined.isEmpty then emptyFormula else String.ofList joined

end Encounter.Pool
