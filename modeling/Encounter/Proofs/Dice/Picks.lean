import Encounter.Dice.Outcome
import Encounter.Proofs.Dice.Roll

namespace Encounter.Dice

namespace Keep

/-- A member beats all that stand before it, and none that stands after it beats it. -/
structure Best {α : Type} (k : Keep) (total : α → Int) (before : List α) (best : α)
    (after : List α) : Prop where
  before : ∀ x ∈ before, k.beats (total best) (total x) = true
  after : ∀ x ∈ after, k.beats (total x) (total best) = false

variable {k : Keep} {a b c : Int}

theorem beats_trans (hab : k.beats a b = true) (hbc : k.beats b c = true) :
    k.beats a c = true := by
  cases k <;> simp only [beats, decide_eq_true_eq] at * <;> omega

theorem beats_of_not_beats (hab : k.beats a b = true) (hcb : k.beats c b = false) :
    k.beats a c = true := by
  cases k <;> simp only [beats, decide_eq_true_eq, decide_eq_false_iff_not] at * <;> omega

end Keep

section Scan

variable {α β : Type} (k : Keep)

theorem bestFrom_cases (total : α → Int) (xs : List α) (i : Nat) (b : Nat × Int) :
    (bestFrom k i (some b) (xs.map fun x => (true, total x)) = some b ∧
        ∀ x ∈ xs, k.beats (total x) b.2 = false) ∨
      ∃ before best after, xs = before ++ best :: after ∧ k.Best total before best after ∧
        k.beats (total best) b.2 = true ∧
        bestFrom k i (some b) (xs.map fun x => (true, total x)) =
          some (i + before.length, total best) := by
  induction xs generalizing i b with
  | nil => exact .inl ⟨rfl, fun _ h => nomatch h⟩
  | cons x xs ih =>
    have hstep : bestFrom k i (some b) ((x :: xs).map fun x => (true, total x)) =
        bestFrom k (i + 1) (if k.beats (total x) b.2 then some (i, total x) else some b)
          (xs.map fun x => (true, total x)) := rfl
    rw [hstep]
    cases hx : k.beats (total x) b.2 with
    | true =>
      rw [if_pos rfl]
      obtain ⟨hstay, hnone⟩ | ⟨before, best, after, rfl, hbest, hbeats, hgo⟩ :=
        ih (i + 1) (i, total x)
      · exact .inr ⟨[], x, xs, rfl, ⟨(fun _ h => nomatch h), hnone⟩, hx, hstay⟩
      · refine .inr ⟨x :: before, best, after, rfl,
          ⟨List.forall_mem_cons.mpr ⟨hbeats, hbest.before⟩, hbest.after⟩,
          Keep.beats_trans hbeats hx, ?_⟩
        rw [hgo, List.length_cons, Nat.add_assoc, Nat.add_comm 1]
    | false =>
      rw [if_neg Bool.false_ne_true]
      obtain ⟨hstay, hnone⟩ | ⟨before, best, after, rfl, hbest, hbeats, hgo⟩ := ih (i + 1) b
      · exact .inl ⟨hstay, List.forall_mem_cons.mpr ⟨hx, hnone⟩⟩
      · have hfirst := Keep.beats_of_not_beats hbeats hx
        refine .inr ⟨x :: before, best, after, rfl,
          ⟨List.forall_mem_cons.mpr ⟨hfirst, hbest.before⟩, hbest.after⟩, hbeats, ?_⟩
        rw [hgo, List.length_cons, Nat.add_assoc, Nat.add_comm 1]

theorem exists_bestFrom (total : α → Int) {xs : List α} (hne : xs ≠ []) :
    ∃ before best after, xs = before ++ best :: after ∧ k.Best total before best after ∧
      bestFrom k 0 none (xs.map fun x => (true, total x)) =
        some (before.length, total best) := by
  obtain ⟨x, xs, rfl⟩ := List.exists_cons_of_ne_nil hne
  have hstep : bestFrom k 0 none ((x :: xs).map fun x => (true, total x)) =
      bestFrom k 1 (some (0, total x)) (xs.map fun x => (true, total x)) := rfl
  rw [hstep]
  obtain ⟨hstay, hnone⟩ | ⟨before, best, after, rfl, hbest, hbeats, hgo⟩ :=
    bestFrom_cases k total xs 1 (0, total x)
  · exact ⟨[], x, xs, rfl, ⟨(fun _ h => nomatch h), hnone⟩, hstay⟩
  · refine ⟨x :: before, best, after, rfl,
      ⟨List.forall_mem_cons.mpr ⟨hbeats, hbest.before⟩, hbest.after⟩, ?_⟩
    rw [hgo, List.length_cons, Nat.add_comm]

theorem mapIdx_dropped (node : α → β) (xs : List α) {picked : Nat → Bool}
    (h : ∀ i < xs.length, picked i = false) :
    ((xs.map fun x => (true, node x)).mapIdx fun i x => (x.1 && picked i, x.2)) =
      xs.map fun x => (false, node x) := by
  induction xs generalizing picked with
  | nil => rfl
  | cons x xs ih =>
    have hrest : ∀ i < xs.length, picked (i + 1) = false := fun i hi =>
      h (i + 1) (Nat.succ_lt_succ hi)
    rw [List.map_cons, List.mapIdx_cons, h 0 (Nat.succ_pos _), ih hrest]
    rfl

theorem exists_keepPicked (node : α → β) (total : β → Int) {xs : List α} (hne : xs ≠ []) :
    ∃ before best after, xs = before ++ best :: after ∧
      k.Best (fun x => total (node x)) before best after ∧
      keepPicked [k] total (xs.map fun x => (true, node x)) =
        (before.map fun x => (false, node x)) ++ (true, node best) ::
          after.map fun x => (false, node x) := by
  obtain ⟨before, best, after, rfl, hbest, hscan⟩ := exists_bestFrom k (fun x => total (node x)) hne
  refine ⟨before, best, after, rfl, hbest, ?_⟩
  have hpicked : keepPicked [k] total ((before ++ best :: after).map fun x => (true, node x)) =
      ((before ++ best :: after).map fun x => (true, node x)).mapIdx fun i x =>
        (x.1 && [before.length].contains i, x.2) := by
    rw [keepPicked, List.map_map]
    simp only [Function.comp_def, List.filterMap_cons, List.filterMap_nil, hscan, Option.map_some]
  have hbefore : ∀ i < before.length, [before.length].contains i = false := fun i hi => by
    simpa using Nat.ne_of_lt hi
  have hafter : ∀ i < after.length,
      [before.length].contains (i + 1 + before.length) = false := fun i _ => by simp
  have hat : [before.length].contains (0 + before.length) = true := by simp
  rw [hpicked, List.map_append, List.mapIdx_append, List.map_cons, List.mapIdx_cons,
    List.length_map, mapIdx_dropped node before hbefore, mapIdx_dropped node after hafter, hat]
  rfl

end Scan

namespace Node

theorem membersTotal_append (xs ys : List (Bool × Node)) :
    membersTotal (xs ++ ys) = membersTotal xs + membersTotal ys := by
  induction xs with
  | nil => exact (Int.zero_add _).symm
  | cons x xs ih =>
    obtain ⟨kept, n⟩ := x
    rw [List.cons_append, membersTotal, ih, membersTotal, Int.add_assoc]

theorem membersTotal_dropped (ns : List Node) : membersTotal (ns.map (false, ·)) = 0 := by
  induction ns with
  | nil => rfl
  | cons n ns ih => exact (Int.zero_add _).trans ih

theorem total_only (ks : List Keep) (before : List Node) (n : Node) (after : List Node) :
    (group ks (before.map (false, ·) ++ (true, n) :: after.map (false, ·))).total = n.total := by
  rw [total, membersTotal_append, membersTotal, membersTotal_dropped, membersTotal_dropped,
    Int.zero_add, if_pos rfl, Int.add_zero]

end Node

theorem gatherMembers_append (f : Findings) (xs ys : List (Bool × Node)) :
    gatherMembers f (xs ++ ys) = gatherMembers (gatherMembers f xs) ys := by
  induction xs generalizing f with
  | nil => rfl
  | cons x xs ih => exact ih _

theorem gatherMembers_dropped (f : Findings) (ns : List Node) :
    gatherMembers f (ns.map (false, ·)) = f := by
  induction ns with
  | nil => rfl
  | cons n ns ih => exact ih

theorem gather_only (f : Findings) (ks : List Keep) (before : List Node) (n : Node)
    (after : List Node) :
    (Node.group ks (before.map (false, ·) ++ (true, n) :: after.map (false, ·))).gather f =
      n.gather f := by
  rw [Node.gather, gatherMembers_append, gatherMembers_dropped, gatherMembers, if_pos rfl,
    gatherMembers_dropped]

end Encounter.Dice
