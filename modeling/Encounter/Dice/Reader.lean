import Encounter.Dice.Token
import Encounter.Number.Numeral

namespace Encounter.Dice

inductive Trouble
  | malformed
  | numeral (flaw : Numeral.Flaw)
  | noSides
  | tooManyDice
  deriving DecidableEq, Repr

/-- A group that is being read: its finished members, last first, then the sum before the item at
hand, and the signs in front of that item, innermost first. -/
structure Level where
  members : List Expr := []
  left : Option (Expr × Sign) := none
  signs : List Sign := []
  deriving Inhabited

/-- What has been read of the item at hand. Digits may still turn out to be the count of a dice
group, and a group may still take a keep. They are turned into numbers once the next token fits. -/
inductive Phase
  | start
  | digits (ds : List Char)
  | counted (count : List Char)
  | dice (count size : List Char)
  | group (keeps : List Keep) (members : List Expr)
  | item (e : Expr)
  deriving Inhabited

structure Reading where
  phase : Phase := .start
  level : Level := {}
  outer : List Level := []
  deriving Inhabited

namespace Level

def finish (l : Level) (e : Expr) : Expr :=
  let signed := l.signs.foldl (fun acc s => Expr.unary s acc) e
  match l.left with
  | some (left, s) => .binary s left signed
  | none => signed

def isEmpty (l : Level) : Bool := l.members.isEmpty && l.left.isNone && l.signs.isEmpty

end Level

def readNumber (ds : List Char) : Except Trouble Nat :=
  (Numeral.readDigits ds).mapError Trouble.numeral

def readCount (ds : List Char) : Except Trouble Nat := if ds.isEmpty then .ok 1 else readNumber ds

def Phase.item? : Phase → Except Trouble Expr
  | start => .error .malformed
  | digits ds => (readNumber ds).map Expr.number
  | counted _ => .error .malformed
  | dice count size => do return .dice (← readCount count) (← readNumber size)
  | group ks ms => .ok (.group ks ms)
  | item e => .ok e

def Expr.label (t : List Char) : Expr → Expr
  | labelled u e => labelled (u ++ t) e
  | e => labelled t e

namespace Reading

def isBlank (r : Reading) : Bool := r.level.isEmpty && r.outer.isEmpty

def stepItem (r : Reading) (t : Token) (e : Expr) : Except Trouble Reading :=
  match t, r.outer with
  | .gap, _ => .ok { r with phase := .item e }
  | .label t, _ => .ok { r with phase := .item (e.label t) }
  | .sign s, outer => .ok ⟨.start, { r.level with left := some (r.level.finish e, s), signs := [] },
      outer⟩
  | .comma, l :: outer => .ok ⟨.start, { members := r.level.finish e :: r.level.members },
      l :: outer⟩
  | .closeGroup, l :: outer =>
    .ok ⟨.group [] (r.level.finish e :: r.level.members).reverse, l, outer⟩
  | _, _ => .error .malformed

def endsItem : Token → Bool
  | .gap => true
  | .label _ => true
  | .sign _ => true
  | .comma => true
  | .closeGroup => true
  | _ => false

def step (r : Reading) (t : Token) : Except Trouble Reading :=
  match r.phase, t with
  | .start, .sign s => .ok { r with level := { r.level with signs := s :: r.level.signs } }
  | .start, .number ds => .ok { r with phase := .digits ds }
  | .start, .die => .ok { r with phase := .counted [] }
  | .start, .openGroup => .ok ⟨.start, {}, r.level :: r.outer⟩
  | .start, .gap => if r.isBlank then .error .malformed else .ok r
  | .digits ds, .die => .ok { r with phase := .counted ds }
  | .counted count, .number ds => .ok { r with phase := .dice count ds }
  | .group ks ms, .keep k => .ok { r with phase := .group (ks ++ [k]) ms }
  | phase, t => if endsItem t then phase.item? >>= r.stepItem t else .error .malformed

def finish (r : Reading) : Except Trouble Expr := do
  let e ← r.phase.item?
  if r.outer.isEmpty then return r.level.finish e else throw .malformed

end Reading

def Expr.ofTokens (ts : List Token) : Except Trouble Expr :=
  ts.foldlM Reading.step {} >>= Reading.finish

def Expr.read (cs : List Char) : Except Trouble Expr := Expr.ofTokens (Token.scan none cs)

end Encounter.Dice
