import Encounter.Dice.Outcome
import Encounter.Proofs.Dice.Roll
import Mathlib.Algebra.Ring.Int.Defs

namespace Encounter.Dice

namespace Node

mutual

def keptFaces : Node → List Nat
  | number _ => []
  | dice _ faces => (faces.filter (·.1)).map (·.2)
  | unary _ e => e.keptFaces
  | binary _ l r => l.keptFaces ++ r.keptFaces
  | group _ ms => membersFaces ms
  | labelled _ e => e.keptFaces

def membersFaces : List (Bool × Node) → List Nat
  | [] => []
  | (kept, n) :: rest => (if kept then n.keptFaces else []) ++ membersFaces rest

end

mutual

/-- The kept annotations, outermost first, each with the total of its part. -/
def keptLabels : Node → List (List Char × Int)
  | number _ => []
  | dice _ _ => []
  | unary _ e => e.keptLabels
  | binary _ l r => l.keptLabels ++ r.keptLabels
  | group _ ms => membersLabels ms
  | labelled t e => (t, e.total) :: e.keptLabels

def membersLabels : List (Bool × Node) → List (List Char × Int)
  | [] => []
  | (kept, n) :: rest => (if kept then n.keptLabels else []) ++ membersLabels rest

end

end Node

namespace Findings

def addLabels (f : Findings) (ls : List (List Char × Int)) : Findings :=
  ls.foldl (fun f l => f.addLabel l.1 l.2) f

theorem addLabels_append (f : Findings) (ls ms : List (List Char × Int)) :
    f.addLabels (ls ++ ms) = (f.addLabels ls).addLabels ms := List.foldl_append

theorem dice_addLabel (f : Findings) (t : List Char) (n : Int) :
    (f.addLabel t n).dice = f.dice := by
  unfold addLabel
  split <;> rfl

theorem totals_addLabel_congr {f g : Findings} (h : f.totals = g.totals) (t : List Char) (n : Int) :
    (f.addLabel t n).totals = (g.addLabel t n).totals := by
  unfold addLabel
  split
  · exact h
  · rw [h]

theorem totals_addLabels_congr {f g : Findings} (h : f.totals = g.totals)
    (ls : List (List Char × Int)) : (f.addLabels ls).totals = (g.addLabels ls).totals := by
  induction ls generalizing f g with
  | nil => exact h
  | cons l ls ih => exact ih (totals_addLabel_congr h l.1 l.2)

end Findings

mutual

theorem dice_gather (f : Findings) : ∀ n : Node, (n.gather f).dice = f.dice ++ n.keptFaces
  | .number n => (List.append_nil f.dice).symm
  | .dice size faces => rfl
  | .unary s e => dice_gather f e
  | .binary s l r => by
    rw [Node.gather, dice_gather _ r, dice_gather f l, Node.keptFaces, List.append_assoc]
  | .group ks ms => dice_gatherMembers f ms
  | .labelled t e => by
    rw [Node.gather, dice_gather _ e, Findings.dice_addLabel, Node.keptFaces]

theorem dice_gatherMembers (f : Findings) : ∀ ms : List (Bool × Node),
    (gatherMembers f ms).dice = f.dice ++ Node.membersFaces ms
  | [] => (List.append_nil f.dice).symm
  | (kept, n) :: rest => by
    rw [gatherMembers, dice_gatherMembers _ rest, Node.membersFaces, ← List.append_assoc]
    congr 1
    cases kept with
    | false => exact (List.append_nil f.dice).symm
    | true => exact dice_gather f n

end

mutual

theorem totals_gather (f : Findings) : ∀ n : Node,
    (n.gather f).totals = (f.addLabels n.keptLabels).totals
  | .number n => rfl
  | .dice size faces => rfl
  | .unary s e => totals_gather f e
  | .binary s l r => by
    rw [Node.gather, totals_gather _ r, Node.keptLabels, Findings.addLabels_append]
    exact Findings.totals_addLabels_congr (totals_gather f l) _
  | .group ks ms => totals_gatherMembers f ms
  | .labelled t e => totals_gather _ e

theorem totals_gatherMembers (f : Findings) : ∀ ms : List (Bool × Node),
    (gatherMembers f ms).totals = (f.addLabels (Node.membersLabels ms)).totals
  | [] => rfl
  | (kept, n) :: rest => by
    rw [gatherMembers, totals_gatherMembers _ rest, Node.membersLabels, Findings.addLabels_append]
    refine Findings.totals_addLabels_congr ?_ _
    cases kept with
    | false => rfl
    | true => exact totals_gather f n

end

theorem total_append (xs ys : List (String × Int)) :
    Entries.total (xs ++ ys) = Entries.total xs + Entries.total ys := by
  induction xs with
  | nil => exact (Int.zero_add _).symm
  | cons e xs ih =>
    change e.2 + Entries.total (xs ++ ys) = e.2 + Entries.total xs + Entries.total ys
    rw [ih, Int.add_assoc]

theorem total_replace {xs : List (String × Int)} (hxs : (xs.map (·.1)).Nodup) (k : String)
    (n : Int) : Entries.total (xs.map fun e => if e.1 == k then (k, n) else e) =
      Entries.total xs + ((Entries.get? xs k).elim 0 fun m => n - m) := by
  induction xs with
  | nil => rfl
  | cons e xs ih =>
    rw [List.map_cons, List.nodup_cons] at hxs
    have htail := ih hxs.2
    rw [Entries.get?_cons]
    by_cases he : e.1 = k
    · -- no later entry has the key, so the rest stays as it is
      have hnone : Entries.get? xs k = none := by
        cases h : Entries.get? xs k with
        | none => rfl
        | some m => exact absurd (List.mem_map_of_mem (Entries.mem_of_get? h)) (he ▸ hxs.1)
      rw [hnone] at htail
      simp only [List.map_cons, he, beq_self_eq_true, if_true]
      change n + Entries.total _ = e.2 + Entries.total xs + (n - e.2)
      rw [htail]
      simp only [Option.elim_none]
      omega
    · have hkeep : (e.1 == k) = false := by simpa using he
      rw [List.map_cons, hkeep, if_neg Bool.false_ne_true, if_neg he]
      change e.2 + Entries.total _ = e.2 + Entries.total xs + _
      rw [htail, Int.add_assoc]

theorem total_addTotal {xs : List (String × Int)} (hxs : (xs.map (·.1)).Nodup) (k : String)
    (n : Int) : Entries.total (addTotal xs k n) = Entries.total xs + n := by
  have hhas := Entries.has_eq_isSome xs k
  unfold addTotal Entries.put
  cases hget : Entries.get? xs k with
  | none =>
    rw [hhas, hget, if_neg (by decide), total_append]
    change Entries.total xs + (0 + n + 0) = Entries.total xs + n
    omega
  | some m =>
    rw [hhas, hget, Option.isSome_some, if_pos rfl, total_replace hxs, hget]
    change Entries.total xs + (m + n - m) = Entries.total xs + n
    omega

theorem nodup_addTotal {xs : List (String × Int)} (hxs : (xs.map (·.1)).Nodup) (k : String)
    (n : Int) : ((addTotal xs k n).map (·.1)).Nodup := by
  rw [addTotal, Entries.keys_put]
  split
  · exact hxs
  · rename_i hnew
    refine List.nodup_append.mpr ⟨hxs, List.pairwise_singleton _ _, fun a ha b hb heq => hnew ?_⟩
    obtain ⟨e, he, rfl⟩ := List.mem_map.mp ha
    refine List.any_eq_true.mpr ⟨e, he, ?_⟩
    rw [heq, List.mem_singleton.mp hb]
    exact beq_self_eq_true k

namespace Findings

theorem nodup_addLabel {f : Findings} (hf : (f.totals.map (·.1)).Nodup) (t : List Char) (n : Int) :
    ((f.addLabel t n).totals.map (·.1)).Nodup := by
  unfold addLabel
  split
  · exact hf
  · exact nodup_addTotal hf _ n

theorem total_addLabel {f : Findings} (hf : (f.totals.map (·.1)).Nodup) {t : List Char}
    (ht : labelName t ≠ []) (n : Int) :
    Entries.total (f.addLabel t n).totals = Entries.total f.totals + n := by
  unfold addLabel
  split
  · rename_i hname
    exact absurd hname ht
  · exact total_addTotal hf _ n

theorem total_addLabels {f : Findings} (hf : (f.totals.map (·.1)).Nodup)
    {ls : List (List Char × Int)} (hls : ∀ l ∈ ls, labelName l.1 ≠ []) :
    Entries.total (f.addLabels ls).totals = Entries.total f.totals + (ls.map (·.2)).sum := by
  induction ls generalizing f with
  | nil => exact (Int.add_zero _).symm
  | cons l ls ih =>
    have hl := hls l List.mem_cons_self
    have hrest := ih (nodup_addLabel hf l.1 l.2) fun m hm => hls m (List.mem_cons_of_mem l hm)
    rw [List.map_cons, List.sum_cons, ← Int.add_assoc, ← total_addLabel hf hl]
    exact hrest

end Findings
end Encounter.Dice
