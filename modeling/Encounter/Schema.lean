import Encounter.Failure
import Encounter.Moment
import Encounter.Number.Written

namespace Encounter

inductive Verdict (α : Type)
  | accepted (a : α)
  | rejected (problems : List Problem)
  | broken (failure : Failure)

namespace Verdict

variable {α β : Type}

def map (f : α → β) : Verdict α → Verdict β
  | accepted a => accepted (f a)
  | rejected ps => rejected ps
  | broken e => broken e

/-- Both parts are read, so that the problems of both are listed. -/
def both : Verdict (α → β) → Verdict α → Verdict β
  | accepted f, v => v.map f
  | rejected ps, rejected qs => rejected (ps ++ qs)
  | rejected ps, accepted _ => rejected ps
  | rejected _, broken e => broken e
  | broken e, _ => broken e

instance : Applicative Verdict where
  pure := accepted
  seq f v := both f (v ())

def andThen (v : Verdict α) (f : α → Verdict β) : Verdict β :=
  match v with
  | accepted a => f a
  | rejected ps => rejected ps
  | broken e => broken e

def under (key : String) : Verdict α → Verdict α
  | rejected ps => rejected (ps.map (Problem.under key))
  | v => v

def problem (kind : ProblemKind) : Verdict α := rejected [⟨[], kind⟩]

def result : Verdict α → Result α
  | accepted a => .ok a
  | rejected ps => .error (.rejected ps)
  | broken e => .error e

end Verdict

abbrev Reader (α : Type) := Value → Verdict α

namespace Schema

open Verdict

variable {α : Type}

def anything : Reader Value := accepted

def text : Reader String
  | .text s => accepted s
  | .garbled s => accepted s
  | _ => problem .stringType

/-- The length of a garbled text is not known. -/
def filledText : Reader String
  | .text s => if s.isEmpty then problem .stringTooShort else accepted s
  | .garbled _ => problem .stringUnicode
  | _ => problem .stringType

def wordLimit : Int := 9223372036854775808

def fitsWord (n : Int) : Bool := -wordLimit ≤ n && n < wordLimit

/-- Whole floats are read as integers within 64 bits. The least integer of 64 bits is left out. -/
def integerFloat (x : Binary64) : Verdict Int :=
  match x with
  | .finite _ _ _ =>
    match x.toInt? with
    | some n => if -wordLimit < n && n < wordLimit then accepted n else problem .intParsingSize
    | none => problem .intFromFloat
  | _ => problem .finiteNumber

def integerText (s : String) : Verdict Int :=
  match Numeral.readWritten s with
  | .ok n => accepted n
  | .error (.malformed _) => problem .intParsing
  | .error _ => problem .intParsingSize

def integer : Reader Int
  | .int n => accepted n
  | .bool b => accepted (if b then 1 else 0)
  | .float x => integerFloat x
  | .text s => integerText s
  | .garbled _ => problem .stringUnicode
  | _ => problem .intType

def integerFrom (least : Int) (v : Value) : Verdict Int :=
  (integer v).andThen fun n => if n < least then problem .greaterThanEqual else accepted n

def yesWords : List String := ["1", "true", "t", "yes", "y", "on"]
def noWords : List String := ["0", "false", "f", "no", "n", "off"]

/-- Zero and one are flags. A number beyond 64 bits is not even of the type. -/
def flagOfInt (n : Int) : Verdict Bool :=
  if n == 0 then accepted false
  else if n == 1 then accepted true
  else if fitsWord n then problem .boolParsing
  else problem .boolType

def flagOfFloat (x : Binary64) : Verdict Bool :=
  match integerFloat x with
  | accepted n => flagOfInt n
  | _ => problem .boolType

def flagOfText? (s : String) : Option Bool :=
  let s := String.ofList (s.toList.map Char.toLower)
  if yesWords.contains s then some true else if noWords.contains s then some false else none

def flag : Reader Bool
  | .bool b => accepted b
  | .int n => flagOfInt n
  | .float x => flagOfFloat x
  | .text s => (flagOfText? s).elim (problem .boolParsing) accepted
  | .garbled _ => problem .stringUnicode
  | _ => problem .boolType

def momentOf : Except Moment.Flaw Unit → Verdict Unit
  | .ok _ => accepted ()
  | .error .malformed => problem .datetimeFromDateParsing
  | .error .outOfRange => problem .datetimeParsing

/-- A point in time. An integer beyond every float is not even of the type. -/
def moment : Reader Unit
  | .int n =>
    match Binary64.ofInt n with
    | .finite _ _ _ => momentOf (Moment.ofInt n)
    | _ => problem .datetimeType
  | .float x => momentOf (Moment.ofFloat x)
  | .text s => momentOf (Moment.ofText s)
  | .garbled _ => problem .stringUnicode
  | _ => problem .datetimeType

def nullable (r : Reader α) : Reader (Option α)
  | .null => accepted none
  | v => (r v).map some

def items (r : Reader α) : Nat → List Value → Verdict (List α)
  | _, [] => accepted []
  | i, v :: rest => List.cons <$> (r v).under (toString i) <*> items r (i + 1) rest

def list (r : Reader α) : Reader (List α)
  | .list vs => items r 0 vs
  | _ => problem .listType

def entries (r : Reader α) : List (String × Value) → Verdict (List (String × α))
  | [] => accepted []
  | (k, v) :: rest => (fun a es => (k, a) :: es) <$> (r v).under k <*> entries r rest

def dictionary (r : Reader α) : Reader (List (String × α))
  | .object es => entries r es
  | _ => problem .dictType

def choice (kind : ProblemKind) (ofName? : String → Option α) : Reader α
  | .text s => (ofName? s).elim (problem kind) accepted
  | .garbled _ => problem .stringUnicode
  | _ => problem kind

abbrev Fields := List (String × Value)

def record (r : Fields → Verdict α) : Reader α
  | .object es => r es
  | _ => problem .modelType

def required (fs : Fields) (key : String) (r : Reader α) : Verdict α :=
  match Entries.get? fs key with
  | some v => (r v).under key
  | none => rejected [⟨[key], .missing⟩]

def optional (fs : Fields) (key : String) (default : α) (r : Reader α) : Verdict α :=
  match Entries.get? fs key with
  | some v => (r v).under key
  | none => accepted default

def extras (fs : Fields) (keys : List String) : Fields := fs.filter fun e => !keys.contains e.1

def closed (fs : Fields) (keys : List String) : Verdict Unit :=
  match extras fs keys with
  | [] => accepted ()
  | es => rejected (es.map fun e => ⟨[e.1], .extraForbidden⟩)

/-- What every record tells of itself, and no caller can set. -/
def ownNames : List String := ["model_extra", "model_fields_set"]

/-- Set a field of a record by name, given the names that are computed and how the field is read.
A name that starts with an underscore is a caller's own, and nothing reads it again. -/
def assign (a : α) (computed : List String) (field : String) (read : Verdict α) : Result α :=
  if field.startsWith "_" then .ok a
  else if (ownNames ++ computed).contains field then .error (.readOnly field)
  else (read.under field).result

end Schema
end Encounter
