import Encounter.Proofs.Dice.Named
import Encounter.Proofs.Dice.Natural

namespace Encounter.Dice

namespace Node

mutual

/-- All parts of a rolled expression, each before what it is made of. A part is marked as kept if it
is kept itself and everything that it stands in is kept. -/
def parts (kept : Bool) : Node → List (Bool × Node)
  | number n => [(kept, number n)]
  | dice size faces => [(kept, dice size faces)]
  | unary s e => (kept, unary s e) :: e.parts kept
  | binary s l r => (kept, binary s l r) :: (l.parts kept ++ r.parts kept)
  | group ks ms => (kept, group ks ms) :: membersParts kept ms
  | labelled t e => (kept, labelled t e) :: e.parts kept

def membersParts (kept : Bool) : List (Bool × Node) → List (Bool × Node)
  | [] => []
  | (k, n) :: rest => n.parts (kept && k) ++ membersParts kept rest

end

mutual

theorem dropped_parts : ∀ n : Node, ∀ p ∈ n.parts false, p.1 = false
  | number _ => List.forall_mem_singleton.mpr rfl
  | dice _ _ => List.forall_mem_singleton.mpr rfl
  | unary _ e => List.forall_mem_cons.mpr ⟨rfl, dropped_parts e⟩
  | binary _ l r => List.forall_mem_cons.mpr
    ⟨rfl, List.forall_mem_append.mpr ⟨dropped_parts l, dropped_parts r⟩⟩
  | group _ ms => List.forall_mem_cons.mpr ⟨rfl, dropped_membersParts ms⟩
  | labelled _ e => List.forall_mem_cons.mpr ⟨rfl, dropped_parts e⟩

theorem dropped_membersParts : ∀ ms : List (Bool × Node), ∀ p ∈ membersParts false ms, p.1 = false
  | [] => fun _ h => nomatch h
  | (_, n) :: rest => List.forall_mem_append.mpr ⟨dropped_parts n, dropped_membersParts rest⟩

end

end Node

namespace Findings

def visit (f : Findings) : Bool × Node → Findings
  | (true, .dice size faces) => f.addDice size faces
  | (true, .labelled t e) => f.addLabel t e.total
  | _ => f

theorem visits_dropped (f : Findings) {ps : List (Bool × Node)} (h : ∀ p ∈ ps, p.1 = false) :
    ps.foldl visit f = f := by
  induction ps with
  | nil => rfl
  | cons p ps ih =>
    obtain ⟨hp, hps⟩ := List.forall_mem_cons.mp h
    obtain ⟨_, n⟩ := p
    subst hp
    exact ih hps

end Findings

mutual

/-- The walk visits the parts one after another. -/
theorem gather_eq_visits (f : Findings) : ∀ n : Node,
    n.gather f = (n.parts true).foldl Findings.visit f
  | .number _ => rfl
  | .dice _ _ => rfl
  | .unary _ e => gather_eq_visits f e
  | .binary _ l r => by
    rw [Node.gather, gather_eq_visits _ r, gather_eq_visits f l, ← List.foldl_append]
    rfl
  | .group _ ms => gatherMembers_eq_visits f ms
  | .labelled _ e => gather_eq_visits _ e

theorem gatherMembers_eq_visits (f : Findings) : ∀ ms : List (Bool × Node),
    gatherMembers f ms = (Node.membersParts true ms).foldl Findings.visit f
  | [] => rfl
  | (kept, n) :: rest => by
    rw [gatherMembers, gatherMembers_eq_visits _ rest, Node.membersParts, List.foldl_append,
      Bool.true_and]
    cases kept with
    | false => rw [if_neg Bool.false_ne_true, f.visits_dropped n.dropped_parts]
    | true => rw [if_pos rfl, gather_eq_visits f n]

end

/-- A die that was thrown, with whether it counts. -/
structure Die where
  kept : Bool
  size : Nat
  face : Nat
  deriving DecidableEq, Repr

namespace Die

def ofPart : Bool × Node → List Die
  | (kept, .dice size faces) => faces.map fun f => ⟨kept && f.1, size, f.2⟩
  | _ => []

def isNatural (d : Die) : Bool := d.kept && d.size == 20

def sized (d : Die) : Nat × Nat := (d.size, d.face)

theorem faces_ofPart (size : Nat) (faces : List (Bool × Nat)) :
    ((ofPart (true, .dice size faces)).filter (·.kept)).map (·.face) =
      (faces.filter (·.1)).map (·.2) := by
  rw [ofPart, List.filter_map, List.map_map]
  rfl

theorem find?_ofPart (size : Nat) (faces : List (Bool × Nat)) :
    ((ofPart (true, .dice size faces)).find? isNatural).map (·.face) =
      naturalOf size ((faces.filter (·.1)).map (·.2)) := by
  rw [ofPart, List.find?_map, Option.map_map, naturalOf]
  by_cases hsize : size = 20
  · subst hsize
    rw [if_pos (beq_self_eq_true 20), List.head?_map, List.head?_filter]
    simp [Function.comp_def, isNatural]
  · simp [Function.comp_def, isNatural, hsize]

theorem filter_dropped {kept : Bool} (hkept : kept = false) (n : Node) :
    (ofPart (kept, n)).filter (·.kept) = [] := by
  subst hkept
  refine List.filter_eq_nil_iff.mpr fun d hd => ?_
  cases n with
  | dice size faces =>
    obtain ⟨f, -, rfl⟩ := List.mem_map.mp hd
    exact Bool.false_ne_true
  | _ => cases hd

end Die

/-- All dice of a rolled expression, in the order in which they were thrown. -/
def Node.thrown (n : Node) : List Die := (n.parts true).flatMap Die.ofPart

namespace Findings

theorem dice_visit (f : Findings) (p : Bool × Node) :
    (f.visit p).dice = f.dice ++ ((Die.ofPart p).filter (·.kept)).map (·.face) := by
  obtain ⟨kept, n⟩ := p
  cases kept with
  | false =>
    rw [Die.filter_dropped rfl]
    exact (List.append_nil _).symm
  | true =>
    cases n with
    | dice size faces =>
      rw [Die.faces_ofPart]
      rfl
    | labelled t e => exact (dice_addLabel f t e.total).trans (List.append_nil _).symm
    | _ => exact (List.append_nil _).symm

theorem dice_visits (f : Findings) (ps : List (Bool × Node)) : (ps.foldl visit f).dice =
    f.dice ++ ((ps.flatMap Die.ofPart).filter (·.kept)).map (·.face) := by
  induction ps generalizing f with
  | nil => exact (List.append_nil _).symm
  | cons p ps ih =>
    rw [List.foldl_cons, ih, dice_visit, List.flatMap_cons, List.filter_append, List.map_append,
      List.append_assoc]

theorem natural_visit (f : Findings) (p : Bool × Node) : (f.visit p).natural =
    f.natural.or (((Die.ofPart p).find? Die.isNatural).map (·.face)) := by
  obtain ⟨kept, n⟩ := p
  cases kept with
  | false =>
    have hnone : (Die.ofPart (false, n)).find? Die.isNatural = none := by
      refine List.find?_eq_none.mpr fun d hd hnatural => ?_
      have hmem := List.mem_filter.mpr ⟨hd, (Bool.and_eq_true_iff.mp hnatural).1⟩
      rw [Die.filter_dropped rfl] at hmem
      cases hmem
    rw [hnone]
    exact Option.or_none.symm
  | true =>
    cases n with
    | dice size faces =>
      rw [Die.find?_ofPart]
      exact natural_addDice f size faces
    | labelled t e => exact (natural_addLabel f t e.total).trans Option.or_none.symm
    | _ => exact Option.or_none.symm

theorem natural_visits (f : Findings) (ps : List (Bool × Node)) : (ps.foldl visit f).natural =
    f.natural.or (((ps.flatMap Die.ofPart).find? Die.isNatural).map (·.face)) := by
  induction ps generalizing f with
  | nil => exact Option.or_none.symm
  | cons p ps ih =>
    rw [List.foldl_cons, ih, natural_visit, List.flatMap_cons, List.find?_append, Option.map_or,
      Option.or_assoc]

end Findings

def namedTotal : Bool × Node → Option (String × Int)
  | (true, .labelled t e) =>
    if labelName t = [] then none else some (String.ofList (labelName t), e.total)
  | _ => none

theorem namedTotal_labelled (t : List Char) (e : Node) : namedTotal (true, .labelled t e) =
    if labelName t = [] then none else some (String.ofList (labelName t), e.total) := rfl

def Node.namedTotals (n : Node) : List (String × Int) := (n.parts true).filterMap namedTotal

namespace Findings

theorem totals_visit (f : Findings) (p : Bool × Node) :
    (f.visit p).totals = addTotals f.totals (namedTotal p).toList := by
  obtain ⟨kept, n⟩ := p
  cases kept with
  | false => rfl
  | true =>
    cases n with
    | labelled t e =>
      rw [visit, addLabel, namedTotal_labelled]
      split
      · rename_i hname
        rw [if_pos hname]
        rfl
      · rename_i hname
        rw [if_neg hname]
        rfl
    | _ => rfl

theorem totals_visits (f : Findings) (ps : List (Bool × Node)) :
    (ps.foldl visit f).totals = addTotals f.totals (ps.filterMap namedTotal) := by
  induction ps generalizing f with
  | nil => rfl
  | cons p ps ih =>
    rw [List.foldl_cons, ih, totals_visit, List.filterMap_cons, addTotals, addTotals,
      ← List.foldl_append, addTotals]
    cases namedTotal p <;> rfl

end Findings

section Outcome

variable (formula : String) (n : Node)

theorem dice_eq_thrown :
    (Outcome.ofNode formula n).dice = (n.thrown.filter (·.kept)).map (·.face) := by
  change (n.gather {}).dice = _
  rw [gather_eq_visits, Findings.dice_visits]
  rfl

theorem natural_eq_thrown : (Outcome.ofNode formula n).natural =
    (n.thrown.find? Die.isNatural).map fun d => (d.face : Int) := by
  change (n.gather {}).natural.map Int.ofNat = _
  rw [gather_eq_visits, Findings.natural_visits, Option.none_or, Option.map_map]
  rfl

theorem totals_eq_named :
    (Outcome.ofNode formula n).totalsByType = addTotals [] n.namedTotals := by
  change (n.gather {}).totals = _
  rw [gather_eq_visits, Findings.totals_visits]
  rfl

end Outcome

end Encounter.Dice
