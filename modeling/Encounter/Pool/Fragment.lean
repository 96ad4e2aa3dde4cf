import Encounter.Pool.Term

namespace Encounter.Pool

def splitPlus : List Char → List (List Char)
  | [] => [[]]
  | c :: rest =>
    if c == '+' then [] :: splitPlus rest
    else
      match splitPlus rest with
      | [] => [[c]]
      | chunk :: chunks => (c :: chunk) :: chunks

def splitMinus : List Char → List (List Char)
  | [] => []
  | c :: rest =>
    match splitMinus rest with
    | [] => [[c]]
    | token :: tokens =>
      if token.head? == some '-' then [c] :: token :: tokens else (c :: token) :: tokens

/-- A plus ends a token, and a minus that is not the first character of a token starts the next one.
Tokens that are empty, zero, or neither an integer nor dice are dropped later on. -/
def tokens (cs : List Char) : List (List Char) := (splitPlus cs).flatMap splitMinus

def readToken (token : List Char) : Result (Option (String × ElementKind)) :=
  match numberForm? token with
  | some (negative, ds) => do
    let n ← readInteger negative ds
    return if n == 0 then none else some (Numeral.text n, .number)
  | none =>
    match diceForm? token with
    | some f => do
      let quantity ← f.quantity
      let faces ← f.faces
      return if quantity == 0 || faces == 0 then none else some (diceText quantity faces, .dice)
    | none => .ok none

/-- Name, type and feature that every term of a fragment takes on. -/
structure Origin where
  name : String := "Unknown"
  damageType : String := ""
  feature : Option String := none

def Origin.term (o : Origin) (element : String) (kind : ElementKind) : Term :=
  ⟨element, kind, o.damageType, if o.name.isEmpty then "Unknown" else o.name, o.feature⟩

def Origin.read : Reader Origin := Schema.record fun fs =>
  (fun damageType name feature => ⟨name, damageType, feature⟩)
    <$> Schema.optional fs "modifier_type" "" Schema.text
    <*> Schema.optional fs "modifier_name" "" (fun v =>
      if v.isTruthy then Schema.text v else .accepted "")
    <*> Schema.optional fs "feature_name" none (Schema.nullable Schema.text)

/-- The terms of a fragment. What is wrong with their origin shows at the first of them. -/
def termsFrom (origin : Result Origin) (fragment : String) : Result (List Term) := do
  let terms ← (tokens (Text.squeeze fragment)).mapM fun token => do
    match ← readToken token with
    | none => return none
    | some e => return some ((← origin).term e.1 e.2)
  return terms.filterMap id

def fragmentTerms (o : Origin) (fragment : String) : Result (List Term) :=
  termsFrom (.ok o) fragment

end Encounter.Pool
