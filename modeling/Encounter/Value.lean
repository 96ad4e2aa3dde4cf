import Encounter.Number.Order
import Encounter.Text.Quoted

namespace Encounter

/-- A value without a fixed shape. The entries of an object keep their order. A garbled text holds
code units that stand for no character, each shown as a replacement character. -/
inductive Value
  | null
  | bool (b : Bool)
  | int (n : Int)
  | float (x : Binary64)
  | text (s : String)
  | garbled (s : String)
  | list (items : List Value)
  | pair (first second : Value)
  | object (entries : List (String × Value))
  deriving Inhabited

namespace Value

/-- Empty, zero and false values do not count as given. -/
def isTruthy : Value → Bool
  | null => false
  | bool b => b
  | int n => n != 0
  | float x => !x.isZero
  | text s => !s.isEmpty
  | garbled _ => true
  | list items => !items.isEmpty
  | pair _ _ => true
  | object entries => !entries.isEmpty

def isNull : Value → Bool
  | null => true
  | _ => false

def text? : Value → Option String
  | text s => some s
  | _ => none

/-- Flags count as numbers. The answer is empty for what is no number at all, and for a float that
stands nowhere it holds no point. -/
def point? : Value → Option (Option Point)
  | bool b => some (some (.ofInt (if b then 1 else 0)))
  | int n => some (some (.ofInt n))
  | float x => some x.point?
  | _ => none

def less? (a b : Value) : Option Bool := do
  match ← a.point?, ← b.point? with
  | some p, some q => return p.less q
  | _, _ => return false

def equals (a b : Value) : Bool :=
  match a.point?, b.point? with
  | some (some p), some (some q) => !p.less q && !q.less p
  | _, _ => false

def ofOption {α : Type} (f : α → Value) : Option α → Value
  | some a => f a
  | none => null

def texts (xs : List String) : Value := list (xs.map text)

def ints (xs : List (String × Int)) : Value := object (xs.map fun e => (e.1, int e.2))

def join (parts : List String) : String := String.intercalate ", " parts

mutual

def quoted : Value → String
  | null => "None"
  | bool b => if b then "True" else "False"
  | int n => Numeral.text n
  | float x => x.text
  | text s => Text.quoted s
  | garbled s => Text.quoted s
  | list items => "[" ++ join (quotedItems items) ++ "]"
  | pair a b => "(" ++ a.quoted ++ ", " ++ b.quoted ++ ")"
  | object entries => "\x7b" ++ join (quotedEntries entries) ++ "\x7d"

def quotedItems : List Value → List String
  | [] => []
  | v :: rest => v.quoted :: quotedItems rest

def quotedEntries : List (String × Value) → List String
  | [] => []
  | (k, v) :: rest => (Text.quoted k ++ ": " ++ v.quoted) :: quotedEntries rest

end

def shown : Value → String
  | text s => s
  | garbled s => s
  | v => v.quoted

end Value

end Encounter
