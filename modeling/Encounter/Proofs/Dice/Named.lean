import Encounter.Proofs.Dice.Evaluate

namespace Encounter.Dice

def addTotals (totals xs : List (String × Int)) : List (String × Int) :=
  xs.foldl (fun acc x => addTotal acc x.1 x.2) totals

def amountOf (xs : List (String × Int)) (name : String) : Int :=
  ((xs.filter fun x => x.1 == name).map (·.2)).sum

theorem amountOf_cons (x : String × Int) (xs : List (String × Int)) (name : String) :
    amountOf (x :: xs) name = (if x.1 = name then x.2 else 0) + amountOf xs name := by
  by_cases hx : x.1 = name <;> simp [amountOf, hx]

theorem amountOf_eq_zero {xs : List (String × Int)} {name : String}
    (h : name ∉ xs.map (·.1)) : amountOf xs name = 0 := by
  have hnil : xs.filter (fun x => x.1 == name) = [] := by
    refine List.filter_eq_nil_iff.mpr fun x hx heq => h ?_
    exact List.mem_map.mpr ⟨x, hx, beq_iff_eq.mp heq⟩
  rw [amountOf, hnil]
  rfl

theorem amountOf_map {ι : Type} (name : ι → String) (amount : ι → Int) (xs : List ι)
    (k : String) : amountOf (xs.map fun x => (name x, amount x)) k =
      ((xs.filter fun x => name x == k).map amount).sum := by
  rw [amountOf, List.filter_map, List.map_map]
  rfl

theorem get?_addTotals (totals xs : List (String × Int)) (name : String) :
    Entries.get? (addTotals totals xs) name =
      if name ∈ xs.map (·.1) then some ((Entries.get? totals name).getD 0 + amountOf xs name)
      else Entries.get? totals name := by
  induction xs generalizing totals with
  | nil => rfl
  | cons x xs ih =>
    have hcons : addTotals totals (x :: xs) = addTotals (addTotal totals x.1 x.2) xs := rfl
    rw [hcons, ih, addTotal, Entries.get?_put, amountOf_cons, List.map_cons]
    by_cases hx : x.1 = name
    · subst hx
      by_cases hxs : x.1 ∈ xs.map (·.1)
      · simp only [hxs, List.mem_cons, true_or, if_true, Option.getD_some, Int.add_assoc]
      · simp only [hxs, amountOf_eq_zero hxs, List.mem_cons, true_or, if_true, if_false,
          Int.add_zero]
    · simp only [List.mem_cons, Ne.symm hx, hx, false_or, if_false, Int.zero_add]

theorem nodup_addTotals {totals : List (String × Int)} (h : (totals.map (·.1)).Nodup)
    (xs : List (String × Int)) : ((addTotals totals xs).map (·.1)).Nodup := by
  induction xs generalizing totals with
  | nil => exact h
  | cons x xs ih => exact ih (nodup_addTotal h x.1 x.2)

theorem mem_keys_addTotals {xs : List (String × Int)} {name : String} :
    name ∈ (addTotals [] xs).map (·.1) ↔ name ∈ xs.map (·.1) := by
  rw [Entries.mem_keys_iff, get?_addTotals]
  by_cases h : name ∈ xs.map (·.1)
  · rw [if_pos h]
    exact iff_of_true rfl h
  · rw [if_neg h]
    exact iff_of_false Bool.false_ne_true h

section Labels

variable {ι : Type} {label : ι → List Char} {name : ι → String} {amount : ι → Int} {xs : List ι}

theorem totals_addLabels (f : Findings)
    (h : ∀ x ∈ xs, name x ≠ "" ∧ labelName (label x) = (name x).toList) :
    (f.addLabels (xs.map fun x => (label x, amount x))).totals =
      addTotals f.totals (xs.map fun x => (name x, amount x)) := by
  induction xs generalizing f with
  | nil => rfl
  | cons x xs ih =>
    obtain ⟨⟨hne, hname⟩, hxs⟩ := List.forall_mem_cons.mp h
    have hadd : (f.addLabel (label x) (amount x)).totals =
        addTotal f.totals (name x) (amount x) := by
      unfold Findings.addLabel
      split
      · rename_i hnil
        exact absurd (String.toList_eq_nil_iff.mp (hname.symm.trans hnil)) hne
      · rw [hname, String.ofList_toList]
    exact (ih _ hxs).trans (by rw [hadd]; rfl)

end Labels

def labelsFrom {ι : Type} (item : ι → Expr) : List ι → Faces → List (List Char × Int)
  | [], _ => []
  | x :: xs, f => ((item x).shown f).keptLabels ++ labelsFrom item xs (f.skip (item x).diceCount)

theorem keptLabels_sumFrom {ι : Type} (sign : ι → Sign) (item : ι → Expr) (e : Expr) (xs : List ι)
    (f : Faces) : ((e.sumFrom sign item xs).shown f).keptLabels =
      (e.shown f).keptLabels ++ labelsFrom item xs (f.skip e.diceCount) := by
  induction xs generalizing e with
  | nil => exact (List.append_nil _).symm
  | cons x xs ih =>
    have hcons : e.sumFrom sign item (x :: xs) =
        (Expr.binary (sign x) e (item x)).sumFrom sign item xs := rfl
    rw [hcons, ih, labelsFrom, Expr.diceCount, ← Faces.skip_skip, ← List.append_assoc]
    rfl

end Encounter.Dice
