import Encounter.Number.Numeral

namespace Encounter

/-- A finite number is `mantissa * 2 ^ exponent`. -/
inductive Binary64
  | finite (negative : Bool) (mantissa : Nat) (exponent : Int)
  | infinite (negative : Bool)
  | nan
  deriving DecidableEq, Repr

namespace Binary64

def precision : Nat := 53
def leastExponent : Int := -1074
def greatestExponent : Int := 971

/-- Nearest integer to a quotient. A half goes to the even neighbour. -/
def roundQuotient (num den : Nat) : Nat :=
  let q := num / den
  let twice := 2 * (num % den)
  if den < twice || (twice == den && q % 2 == 1) then q + 1 else q

/-- Powers with the exponents below zero taken as zero. -/
def pow2 (q : Int) : Nat := Nat.pow 2 q.toNat

def pow10 (s : Int) : Nat := Nat.pow 10 s.toNat

def scaleDown (num den : Nat) (q : Int) : Nat × Nat :=
  if 0 ≤ q then (num, den * pow2 q) else (num * pow2 (-q), den)

def floorLog (num den : Nat) : Int :=
  let e : Int := (Nat.log2 num : Int) - Nat.log2 den
  let (n, d) := scaleDown num den e
  if n < d then e - 1 else e

def ofQuotient (negative : Bool) (num den : Nat) : Binary64 :=
  if num == 0 then finite negative 0 leastExponent
  else
    let q := max (floorLog num den - (precision - 1)) leastExponent
    let (n, d) := scaleDown num den q
    let m := roundQuotient n d
    let (m, q) := if m == pow2 precision then (pow2 (precision - 1), q + 1) else (m, q)
    if greatestExponent < q then infinite negative else finite negative m q

/-- The number nearest to `digits * 10 ^ exponent`. -/
def ofDecimal (negative : Bool) (digits : Nat) (exponent : Int) : Binary64 :=
  let size : Int := (Numeral.natChars digits).length + exponent
  if digits == 0 || size < -400 then finite negative 0 leastExponent
  else if 400 < size then infinite negative
  else if 0 ≤ exponent then ofQuotient negative (digits * pow10 exponent) 1
  else ofQuotient negative digits (pow10 (-exponent))

def ofInt (n : Int) : Binary64 := ofQuotient (n < 0) n.natAbs 1

def toInt? : Binary64 → Option Int
  | finite negative m q =>
    if 0 ≤ q then some (Numeral.signed negative (m * pow2 q))
    else if m % pow2 (-q) == 0 then some (Numeral.signed negative (m / pow2 (-q)))
    else none
  | _ => none

def floor? : Binary64 → Option Int
  | finite negative m q => some (Numeral.signed negative (m * pow2 q) / (pow2 (-q) : Int))
  | _ => none

def isZero : Binary64 → Bool
  | finite _ m _ => m == 0
  | _ => false

/-- A magnitude and the ends of the interval that rounds to it, over one denominator. -/
structure Cell where
  low : Nat
  mid : Nat
  high : Nat
  den : Nat
  closed : Bool

def cell (m : Nat) (q : Int) : Cell :=
  let below := if m == pow2 (precision - 1) && leastExponent < q then 1 else 2
  let up := pow2 q
  ⟨(4 * m - below) * up, 4 * m * up, (4 * m + 2) * up, 4 * pow2 (-q), m % 2 == 0⟩

def Cell.align (k : Cell) (c : Nat) (s : Int) (x : Nat) : Nat × Nat :=
  (c * pow10 s * k.den, x * pow10 (-s))

def Cell.holds (k : Cell) (c : Nat) (s : Int) : Bool :=
  let (v, low) := k.align c s k.low
  let (_, high) := k.align c s k.high
  if k.closed then low ≤ v && v ≤ high else low < v && v < high

def Cell.nearest (k : Cell) (c : Nat) (s : Int) : Nat :=
  let (v, mid) := k.align c s k.mid
  let (w, _) := k.align (c + 1) s k.mid
  if mid - v < w - mid || (mid - v == w - mid && c % 2 == 0) then c else c + 1

def Cell.onGrid? (k : Cell) (s : Int) : Option Nat :=
  let c := k.mid * pow10 (-s) / (k.den * pow10 s)
  match k.holds c s, k.holds (c + 1) s with
  | true, true => some (k.nearest c s)
  | true, false => some c
  | false, true => some (c + 1)
  | false, false => none

/-- The least `e` up to a bound with the magnitude below `10 ^ e`. -/
def Cell.decimalExponent (k : Cell) : Int :=
  let below (e : Int) : Bool := k.mid * pow10 (-e) < k.den * pow10 e
  ((List.range 640).map fun (i : Nat) => (i : Int) - 324).find? below |>.getD 316

def shortest (m : Nat) (q : Int) : Nat × Int :=
  let k := cell m q
  let top := k.decimalExponent
  let hit := (List.range 17).findSome? fun (i : Nat) =>
    let s := top - ((i : Int) + 1)
    (k.onGrid? s).map fun c => (c, s)
  hit.getD (0, 0)

def stripZeros (ds : List Char) (s : Int) : List Char × Int :=
  let zeros := (ds.reverse.takeWhile (· == '0')).length
  (ds.take (ds.length - zeros), s + zeros)

/-- Positional from `1e-4` to below `1e16` with a fraction always shown, else with a signed
exponent of at least two digits. -/
def layout (ds : List Char) (s : Int) : List Char :=
  let point : Int := ds.length + s
  if -4 < point && point ≤ 16 then
    if point ≤ 0 then '0' :: '.' :: List.replicate (-point).toNat '0' ++ ds
    else if ds.length ≤ point.toNat then
      ds ++ List.replicate (point.toNat - ds.length) '0' ++ ['.', '0']
    else ds.take point.toNat ++ '.' :: ds.drop point.toNat
  else
    let e := point - 1
    let mark := if e < 0 then '-' else '+'
    let es := Numeral.natChars e.natAbs
    let es := if es.length < 2 then '0' :: es else es
    let fraction := if ds.length ≤ 1 then [] else '.' :: ds.drop 1
    ds.take 1 ++ fraction ++ 'e' :: mark :: es

def text : Binary64 → String
  | nan => "nan"
  | infinite negative => if negative then "-inf" else "inf"
  | finite negative m q =>
    let body :=
      if m == 0 then ['0', '.', '0']
      else
        let (c, s) := shortest m q
        let (ds, s) := stripZeros (Numeral.natChars c) s
        layout ds s
    String.ofList (if negative then '-' :: body else body)

end Binary64
end Encounter
