import Encounter.Check.Resolution

namespace Encounter

/-- What evaluates formulas: die rolls, or outcomes laid down beforehand. The state goes on from
one formula to the next, also past a failure. -/
structure Evaluator (δ : Type) where
  evaluate : String → δ → Result Dice.Outcome × δ

def Dice.roller : Evaluator Dice.Faces := ⟨Dice.evaluate⟩

structure Report where
  total : Value
  natural : Value := .null
  totalsByType : Value := .object []

namespace Report

def ofOutcome (o : Dice.Outcome) : Report :=
  ⟨.int o.total, .ofOption .int o.natural, .ints o.totalsByType⟩

def outcome (r : Report) (formula : String) : Result Dice.Outcome :=
  ((fun total natural totalsByType => { formula, total, natural, totalsByType })
    <$> (Schema.integer r.total).under "total"
    <*> (Schema.nullable Schema.integer r.natural).under "natural"
    <*> (Schema.dictionary Schema.integer r.totalsByType).under "totals_by_type").result

end Report

def scriptReader : Evaluator (List Report) where
  evaluate formula
    | [] => (.error (.scriptEnded formula), [])
    | r :: rest => (r.outcome formula, rest)

structure Reporter (δ : Type) where
  report : Value → δ → Result Report × δ

def Dice.reporter : Reporter Dice.Faces where
  report formula faces :=
    let (o, faces) := Dice.evaluateGiven formula faces
    (o.map Report.ofOutcome, faces)

def scriptReporter : Reporter (List Report) where
  report formula
    | [] => (.error (.scriptEnded formula.shown), [])
    | r :: rest => (.ok r, rest)

namespace Check

structure Entry where
  participant : String
  name : String := ""
  formula : String := ""
  total : Int
  natural : Int := 0
  deriving DecidableEq, Repr

namespace Entry

def read : Reader Entry := Schema.record fun fs =>
  Entry.mk
    <$> Schema.required fs "participant_id" Schema.text
    <*> Schema.optional fs "name" "" Schema.text
    <*> Schema.optional fs "formula" "" Schema.text
    <*> Schema.required fs "roll_total" Schema.integer
    <*> Schema.optional fs "roll_value" 0 Schema.integer

def toValue (e : Entry) : Value :=
  .object [("participant_id", .text e.participant), ("name", .text e.name),
    ("formula", .text e.formula), ("roll_total", .int e.total), ("roll_value", .int e.natural)]

end Entry

structure Ranking where
  rankings : List Entry
  winners : List Entry
  isTie : Bool
  highest : Int
  count : Nat
  deriving DecidableEq, Repr

def Ranking.toValue (r : Ranking) : Value :=
  .object [("rankings", .list (r.rankings.map Entry.toValue)),
    ("winners", .list (r.winners.map Entry.toValue)), ("is_tie", .bool r.isTie),
    ("highest_roll", .int r.highest), ("participant_count", .int r.count)]

def emptyContest : Failure :=
  .fault (.make .validation "A contest needs at least one participant"
    [("field_name", .text "participants")])

def rank (entries : List Entry) : Result Ranking :=
  match entries.mergeSort fun a b => b.total ≤ a.total with
  | [] => .error emptyContest
  | first :: rest =>
    let rankings := first :: rest
    let winners := rankings.filter fun e => e.total == first.total
    .ok ⟨rankings, winners, 1 < winners.length, first.total, entries.length⟩

structure Participant where
  id : Value
  formula : Value
  name : Value := .null

def naturalGiven (formula : Value) (r : Report) : Result Value :=
  match r.natural, (Schema.text formula).result with
  | .null, .ok _ => .ok (.int 0)
  | .null, .error _ => .error (.absent "text")
  | natural, _ => .ok natural

def Participant.entry (p : Participant) (r : Report) : Result Entry := do
  let natural ← naturalGiven p.formula r
  (Entry.read (.object [("participant_id", p.id),
    ("name", if p.name.isTruthy then p.name else p.id), ("formula", p.formula),
    ("roll_total", r.total), ("roll_value", natural)])).result

def rollEntries {δ : Type} (ev : Reporter δ) : List Participant → δ → Result (List Entry) × δ
  | [], s => (.ok [], s)
  | p :: rest, s =>
    let (report, s) := ev.report p.formula s
    match report >>= p.entry with
    | .error e => (.error e, s)
    | .ok entry =>
      let (entries, s) := rollEntries ev rest s
      (entries.map (entry :: ·), s)

def resolveContest {δ : Type} (ev : Reporter δ) (ps : List Participant) (s : δ) :
    Result Ranking × δ :=
  let (entries, s) := rollEntries ev ps s
  (entries >>= rank, s)

end Check
end Encounter
