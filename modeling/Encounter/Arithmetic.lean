import Encounter.Failure

namespace Encounter.Value

def integer? : Value → Option Int
  | int n => some n
  | bool b => some (if b then 1 else 0)
  | _ => none

def toFloat : Value → Result Binary64
  | float x => .ok x
  | v =>
    match v.integer?.map Binary64.ofInt with
    | some (.finite negative m q) => .ok (.finite negative m q)
    | _ => .error .tooLargeForFloat

def minus (a b : Value) : Result Value :=
  match a.integer?, b.integer? with
  | some m, some n => .ok (.int (m - n))
  | _, _ =>
    if a.point?.isNone || b.point?.isNone then .error (.wrongType "number")
    else do return .float ((← a.toFloat).minus (← b.toFloat))

def isLess (a b : Value) : Result Bool := (a.less? b).elim (.error (.wrongType "number")) .ok

def halved (v : Value) : Result Value :=
  match v with
  | float x => .ok (.float x.halved)
  | v => v.integer?.elim (.error (.wrongType "number")) fun n => .ok (.int (n / 2))

/-- Twice a number. A text or a list is repeated. -/
def doubled (v : Value) : Result Value :=
  match v with
  | float x => .ok (.float x.doubled)
  | text s => .ok (.text (s ++ s))
  | garbled s => .ok (.garbled (s ++ s))
  | list xs => .ok (.list (xs ++ xs))
  | v => v.integer?.elim (.error (.wrongType "number")) fun n => .ok (.int (2 * n))

end Encounter.Value
