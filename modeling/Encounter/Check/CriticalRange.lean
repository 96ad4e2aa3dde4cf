import Encounter.Schema

namespace Encounter.Check

/-- The faces from `low` to `high`. -/
structure CriticalRange where
  low : Int
  high : Int
  bounds : 1 ≤ low ∧ low ≤ high ∧ high ≤ 20
  deriving DecidableEq

namespace CriticalRange

def outOfBounds (low high : Int) : Fault :=
  .make .validation
    ("Critical range must satisfy 1 <= min <= max <= 20, got " ++ Numeral.text low ++ "-" ++
      Numeral.text high)
    [("field_name", .text "critical_range"), ("invalid_value", .pair (.int low) (.int high))]

def make (low high : Int) : Except Fault CriticalRange :=
  if h : 1 ≤ low ∧ low ≤ high ∧ high ≤ 20 then .ok ⟨low, high, h⟩ else .error (outOfBounds low high)

def single (face : Int) (h : 1 ≤ face ∧ face ≤ 20) : CriticalRange := ⟨face, face, by omega⟩

def contains (r : CriticalRange) (natural : Int) : Bool := r.low ≤ natural && natural ≤ r.high

def holds? (r : CriticalRange) (v : Value) : Option Bool :=
  v.point?.map fun p =>
    p.any fun p => !(p.less (.ofInt r.low)) && !((Point.ofInt r.high).less p)

def union (r s : CriticalRange) : CriticalRange :=
  ⟨min r.low s.low, max r.high s.high, by have := r.bounds; have := s.bounds; omega⟩

def ofBounds (b : Int × Int) : Verdict CriticalRange :=
  match make b.1 b.2 with
  | .ok r => .accepted r
  | .error e => .broken (.fault e)

def read : Reader CriticalRange := Schema.record fun fs =>
  (Prod.mk <$> Schema.required fs "min" Schema.integer
    <*> Schema.required fs "max" Schema.integer).andThen ofBounds

def toValue (r : CriticalRange) : Value := .object [("min", .int r.low), ("max", .int r.high)]

end CriticalRange

inductive Side
  | success
  | failure
  deriving DecidableEq, Repr

def Side.name : Side → String
  | success => "critical_success"
  | failure => "critical_failure"

def Side.ofName? (s : String) : Option Side := [success, failure].find? fun k => k.name == s

inductive Change
  | expand
  | replace
  deriving DecidableEq, Repr

def Change.name : Change → String
  | expand => "expand"
  | replace => "set"

def Change.ofName? (s : String) : Option Change := [expand, replace].find? fun k => k.name == s

structure RangeModification where
  change : Change
  range : CriticalRange
  side : Side := .success
  source : Option String := none
  deriving DecidableEq

namespace RangeModification

def read : Reader RangeModification := Schema.record fun fs =>
  RangeModification.mk
    <$> Schema.required fs "type" (Schema.choice .enum Change.ofName?)
    <*> Schema.required fs "range" CriticalRange.read
    <*> Schema.optional fs "applies_to" .success (Schema.choice .literalError Side.ofName?)
    <*> Schema.optional fs "source" none (Schema.nullable Schema.text)

def toValue (m : RangeModification) : Value :=
  .object [("type", .text m.change.name), ("range", m.range.toValue),
    ("applies_to", .text m.side.name), ("source", .ofOption .text m.source)]

end RangeModification

structure Adjusted where
  expanded : CriticalRange
  replacement : Option CriticalRange := none

def Adjusted.apply (side : Side) (a : Adjusted) (m : RangeModification) : Adjusted :=
  if m.side == side then
    match m.change with
    | .expand => { a with expanded := a.expanded.union m.range }
    | .replace => { a with replacement := some m.range }
  else a

/-- The range in force. A replacement wins over every expansion, and the last replacement wins. -/
def effectiveRange (base : CriticalRange) (side : Side) (ms : List RangeModification) :
    CriticalRange :=
  let a := ms.foldl (Adjusted.apply side) ⟨base, none⟩
  a.replacement.getD a.expanded

end Encounter.Check
