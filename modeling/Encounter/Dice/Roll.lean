import Encounter.Dice.Faces
import Encounter.Dice.Reader

namespace Encounter.Dice

/-- A rolled expression. Dice and members carry whether they are kept. -/
inductive Node
  | number (n : Nat)
  | dice (size : Nat) (faces : List (Bool × Nat))
  | unary (sign : Sign) (e : Node)
  | binary (sign : Sign) (left right : Node)
  | group (keeps : List Keep) (members : List (Bool × Node))
  | labelled (label : List Char) (e : Node)
  deriving Inhabited

def sumKept (xs : List (Bool × Int)) : Int :=
  xs.foldr (fun x acc => if x.1 then x.2 + acc else acc) 0

def bestFrom (k : Keep) (i : Nat) (best : Option (Nat × Int)) :
    List (Bool × Int) → Option (Nat × Int)
  | [] => best
  | (kept, n) :: rest =>
    let better := kept && (best.map fun b => k.beats n b.2).getD true
    bestFrom k (i + 1) (if better then some (i, n) else best) rest

/-- Keep the members that some of the keeps picks, and drop the others. All keeps pick from the same
members. -/
def keepPicked {α : Type} (ks : List Keep) (total : α → Int) (xs : List (Bool × α)) :
    List (Bool × α) :=
  let totals := xs.map fun x => (x.1, total x.2)
  let picked := ks.filterMap fun k => (bestFrom k 0 none totals).map (·.1)
  xs.mapIdx fun i x => (x.1 && picked.contains i, x.2)

namespace Node

mutual

def total : Node → Int
  | number n => n
  | dice _ faces => sumKept (faces.map fun f => (f.1, (f.2 : Int)))
  | unary s e => s.apply e.total
  | binary s l r => l.total + s.apply r.total
  | group _ ms => membersTotal ms
  | labelled _ e => e.total

def membersTotal : List (Bool × Node) → Int
  | [] => 0
  | (kept, n) :: rest => (if kept then n.total else 0) + membersTotal rest

end

/-- Keeps on a parenthesis act on what the parenthesis holds, down to dice or members. -/
def keep (keeps : List Keep) : Node → Node
  | dice size faces => dice size (keepPicked keeps (fun n : Nat => (n : Int)) faces)
  | group ks [(kept, e)] => group ks [(kept, e.keep keeps)]
  | group ks ms => group ks (keepPicked keeps total ms)
  | labelled t e => labelled t (e.keep keeps)
  | n => n

end Node

/-- What is left to roll with: a stream of faces and the count of dice rolled so far. -/
structure Supply where
  faces : Faces
  rolled : Nat := 0

def diceLimit : Nat := 1000

abbrev RollM := ExceptT Trouble (StateM Supply)

/-- Roll a dice group. The dice up to the limit are rolled before the limit is noticed. -/
def rollDice (count size : Nat) : RollM Node := do
  if 0 < count && size == 0 then throw .noSides
  let s ← get
  let rolled := min count (diceLimit - s.rolled)
  set (Supply.mk (s.faces.skip rolled) (s.rolled + rolled))
  if rolled < count then throw .tooManyDice
  return .dice size ((s.faces.next rolled size).map fun f => (true, f))

mutual

def Expr.roll : Expr → RollM Node
  | .number n => return .number n
  | .dice count size => rollDice count size
  | .unary s e => return .unary s (← e.roll)
  | .binary s l r => do
    let l ← l.roll
    let r ← r.roll
    return .binary s l r
  | .group ks ms => do
    let ms ← rollMembers ms
    let n := Node.group ks ms
    return if ks.isEmpty then n else n.keep ks
  | .labelled t e => return .labelled t (← e.roll)

def rollMembers : List Expr → RollM (List (Bool × Node))
  | [] => return []
  | e :: rest => do
    let n ← e.roll
    let ns ← rollMembers rest
    return (true, n) :: ns

end
end Encounter.Dice
