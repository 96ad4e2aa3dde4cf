import Encounter.Number.Binary64

namespace Encounter

/-- A point of the number line: a quotient, or one of the two ends. -/
inductive Point
  | below
  | quotient (num : Int) (den : Nat)
  | above
  deriving DecidableEq, Repr

namespace Point

def ofInt (n : Int) : Point := quotient n 1

def less : Point → Point → Bool
  | below, below => false
  | below, _ => true
  | quotient a b, quotient c d => a * d < c * b
  | quotient _ _, above => true
  | _, _ => false

def minus : Point → Point → Option Point
  | quotient a b, quotient c d => some (quotient (a * d - c * b) (b * d))
  | quotient _ _, below => some above
  | quotient _ _, above => some below
  | below, below => none
  | above, above => none
  | p, _ => some p

def doubled : Point → Point
  | quotient a b => quotient (2 * a) b
  | p => p

def halved? : Point → Option Int
  | quotient a b => some (a / (2 * (b : Int)))
  | _ => none

theorem less_ofInt (a b : Int) : (ofInt a).less (ofInt b) = decide (a < b) := by
  simp [ofInt, less]

end Point

def Binary64.point? : Binary64 → Option Point
  | finite negative m q => some (.quotient (Numeral.signed negative (m * pow2 q)) (pow2 (-q)))
  | infinite negative => some (if negative then .below else .above)
  | nan => none

namespace Binary64

def ofPoint : Point → Binary64
  | .below => infinite true
  | .quotient num den => ofQuotient (num < 0) num.natAbs den
  | .above => infinite false

def minus (x y : Binary64) : Binary64 :=
  match x.point?, y.point? with
  | some p, some q => (p.minus q).elim nan ofPoint
  | _, _ => nan

def doubled (x : Binary64) : Binary64 := x.point?.elim nan fun p => ofPoint p.doubled

def halved (x : Binary64) : Binary64 := (x.point?.bind Point.halved?).elim nan ofInt

end Binary64
end Encounter
