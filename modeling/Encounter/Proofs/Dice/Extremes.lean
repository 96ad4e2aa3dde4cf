import Encounter.Proofs.Dice.Evaluate
import Mathlib.Algebra.Order.BigOperators.Group.List
import Mathlib.Algebra.Order.Ring.Int
import Mathlib.Algebra.Order.Ring.Nat

namespace Encounter.Dice

/-- The least that dice of a size add up to, counted with their sign. -/
def leastSum (size : Nat) (net : Int) : Int := if net < 0 then net * size else net

def greatestSum (size : Nat) (net : Int) : Int := if net < 0 then net else net * size

section Sums

variable {size : Nat} {a b : Int}

theorem leastSum_zero (size : Nat) : leastSum size 0 = 0 := rfl

theorem le_mul_size (h : 0 < size) (n : Int) :
    (n < 0 → n * size ≤ n) ∧ (¬ n < 0 → n ≤ n * size) := by
  have hone : (1 : Int) ≤ size := by omega
  constructor
  · intro hn
    have hle := Int.mul_le_mul_of_nonpos_left (by omega : n ≤ 0) hone
    omega
  · intro hn
    have hle := Int.mul_le_mul_of_nonneg_left hone (by omega : 0 ≤ n)
    omega

/-- Dice that are netted have a narrower range than on their own. -/
theorem leastSum_add_le (h : 0 < size) (a b : Int) :
    leastSum size a + leastSum size b ≤ leastSum size (a + b) := by
  have hmul := Int.add_mul a b size
  have ha := le_mul_size h a
  have hb := le_mul_size h b
  unfold leastSum
  split <;> split <;> split <;> omega

theorem leastSum_of_nonneg (h : 0 ≤ a) (size : Nat) : leastSum size a = a := if_neg (by omega)

theorem leastSum_of_nonpos (h : a ≤ 0) (size : Nat) : leastSum size a = a * size := by
  by_cases hneg : a < 0
  · exact if_pos hneg
  · have hzero : a = 0 := by omega
    rw [hzero, leastSum_zero, Int.zero_mul]

theorem leastSum_add (size : Nat) (h : 0 ≤ a * b) :
    leastSum size (a + b) = leastSum size a + leastSum size b := by
  obtain ⟨ha, hb⟩ | ⟨ha, hb⟩ := mul_nonneg_iff.mp h
  · rw [leastSum_of_nonneg (by omega), leastSum_of_nonneg ha, leastSum_of_nonneg hb]
  · rw [leastSum_of_nonpos (by omega), leastSum_of_nonpos ha, leastSum_of_nonpos hb, Int.add_mul]

theorem greatestSum_eq_neg (size : Nat) (a : Int) : greatestSum size a = -leastSum size (-a) := by
  unfold greatestSum
  by_cases hneg : a < 0
  · rw [if_pos hneg, leastSum_of_nonneg (by omega), Int.neg_neg]
  · rw [if_neg hneg, leastSum_of_nonpos (by omega), Int.neg_mul, Int.neg_neg]

theorem greatestSum_zero (size : Nat) : greatestSum size 0 = 0 := Int.zero_mul _

theorem le_greatestSum_add (h : 0 < size) (a b : Int) :
    greatestSum size (a + b) ≤ greatestSum size a + greatestSum size b := by
  have hle := leastSum_add_le h (-a) (-b)
  simp only [greatestSum_eq_neg, Int.neg_add]
  omega

theorem greatestSum_add (size : Nat) (h : 0 ≤ a * b) :
    greatestSum size (a + b) = greatestSum size a + greatestSum size b := by
  have hsign : 0 ≤ -a * -b := by rwa [Int.neg_mul_neg]
  have hadd := leastSum_add size hsign
  simp only [greatestSum_eq_neg, Int.neg_add]
  omega

end Sums

theorem sum_next_bounds (f : Faces) (count : Nat) {size : Nat} (h : 0 < size) :
    count ≤ (f.next count size).sum ∧ (f.next count size).sum ≤ count * size := by
  have hface : ∀ n ∈ f.next count size, 1 ≤ n ∧ n ≤ size := by
    intro n hn
    obtain ⟨i, -, rfl⟩ := List.mem_map.mp hn
    exact shownFace_bounds size _ h
  have hleast := List.card_nsmul_le_sum _ 1 fun n hn => (hface n hn).1
  have hgreatest := List.sum_le_card_nsmul _ size fun n hn => (hface n hn).2
  rw [f.length_next, Nat.nsmul_eq_mul] at hleast hgreatest
  rw [Nat.mul_one] at hleast
  exact ⟨hleast, hgreatest⟩

theorem Lot.net_mul (l : Lot) (n : Nat) : l.net * n =
    if l.net < 0 then -((l.count * n : Nat) : Int) else ((l.count * n : Nat) : Int) := by
  have hcount : (l.count : Int) = if l.net < 0 then -l.net else l.net := by
    unfold Lot.count
    split <;> omega
  rw [Int.natCast_mul, hcount]
  split
  · rw [Int.neg_mul, Int.neg_neg]
  · rfl

theorem Lot.signedSum_bounds (l : Lot) (f : Faces) (h : 0 < l.size) :
    leastSum l.size l.net ≤ signedSum (l, f.next l.count l.size) ∧
      signedSum (l, f.next l.count l.size) ≤ greatestSum l.size l.net := by
  obtain ⟨hleast, hgreatest⟩ := sum_next_bounds f l.count h
  have hmul := l.net_mul l.size
  have hcount : l.count = l.net.natAbs := rfl
  unfold leastSum greatestSum signedSum
  by_cases hneg : l.net < 0
  · simp only [hneg, if_true] at hmul ⊢
    omega
  · simp only [hneg, if_false] at hmul ⊢
    omega

theorem Lot.sum_deal_bounds {ls : List Lot} (h : ∀ l ∈ ls, 0 < l.size) (f : Faces) :
    (ls.map fun l => leastSum l.size l.net).sum ≤ ((deal ls f).map signedSum).sum ∧
      ((deal ls f).map signedSum).sum ≤ (ls.map fun l => greatestSum l.size l.net).sum := by
  induction ls generalizing f with
  | nil => exact ⟨Int.le_refl 0, Int.le_refl 0⟩
  | cons l ls ih =>
    obtain ⟨hl, hls⟩ := List.forall_mem_cons.mp h
    have hone := l.signedSum_bounds f hl
    have hrest := ih hls (f.skip l.count)
    simp only [deal, List.map_cons, List.sum_cons]
    omega

def Faces.showing (raw : Lot → Int) (ls : List Lot) : Faces where
  raw i := ((ls.flatMap fun l => List.replicate l.count (raw l))[i]?).getD 1

theorem Lot.deal_showing (raw : Lot → Int) (ls : List Lot) : deal ls (Faces.showing raw ls) =
    ls.map fun l => (l, List.replicate l.count (shownFace l.size (raw l))) := by
  have hdeal : ∀ f : Faces, (∀ i, f.raw (f.position + i) =
      ((ls.flatMap fun l => List.replicate l.count (raw l))[i]?).getD 1) →
      deal ls f = ls.map fun l => (l, List.replicate l.count (shownFace l.size (raw l))) := by
    induction ls with
    | nil => exact fun _ _ => rfl
    | cons l ls ih =>
      intro f hf
      have hlength : (List.replicate l.count (raw l)).length = l.count := List.length_replicate
      have hnext : f.next l.count l.size =
          List.replicate l.count (shownFace l.size (raw l)) := by
        apply List.eq_replicate_iff.mpr
        refine ⟨f.length_next _ _, ?_⟩
        intro n hn
        obtain ⟨i, hi, rfl⟩ := List.mem_map.mp hn
        have hi : i < l.count := List.mem_range.mp hi
        rw [hf i, List.flatMap_cons, List.getElem?_append_left (by omega),
          List.getElem?_replicate_of_lt hi]
        rfl
      have hskip : deal ls (f.skip l.count) =
          ls.map fun l => (l, List.replicate l.count (shownFace l.size (raw l))) := by
        apply ih
        intro i
        have hi := hf (l.count + i)
        rw [List.flatMap_cons, List.getElem?_append_right (by omega), hlength,
          Nat.add_sub_cancel_left] at hi
        rw [← hi, Faces.skip, Nat.add_assoc]
      rw [deal, hnext, hskip, List.map_cons]
  apply hdeal
  intro i
  rw [Faces.showing, Nat.zero_add]

theorem shownFace_one (size : Nat) : shownFace size 1 = 1 := by
  simp [shownFace]

theorem shownFace_zero {size : Nat} (h : 0 < size) : shownFace size 0 = size := by
  have hmod : (0 - 1 : Int) % size = size - 1 := by
    have hnext : (0 - 1 + size : Int) = size - 1 := by omega
    rw [Int.emod_eq_add_self_emod, hnext]
    exact Int.emod_eq_of_lt (by omega) (by omega)
  rw [shownFace, hmod]
  omega

theorem Lot.signedSum_replicate (l : Lot) (n : Nat) :
    signedSum (l, List.replicate l.count n) = l.net * n := by
  rw [l.net_mul, signedSum, List.sum_replicate_nat]

theorem Lot.sum_deal_showing (raw : Lot → Int) (ls : List Lot) :
    ((deal ls (Faces.showing raw ls)).map signedSum).sum =
      (ls.map fun l => l.net * shownFace l.size (raw l)).sum := by
  rw [deal_showing, List.map_map]
  congr 1
  apply List.map_congr_left
  intro l _
  exact l.signedSum_replicate _

theorem Lot.exists_least {ls : List Lot} (h : ∀ l ∈ ls, 0 < l.size) :
    ∃ f, ((deal ls f).map signedSum).sum = (ls.map fun l => leastSum l.size l.net).sum := by
  refine ⟨_, (sum_deal_showing (fun l => if l.net < 0 then 0 else 1) ls).trans ?_⟩
  congr 1
  apply List.map_congr_left
  intro l hl
  by_cases hneg : l.net < 0
  · simp only [leastSum, hneg, if_true, shownFace_zero (h l hl)]
  · simp only [leastSum, hneg, if_false, shownFace_one, Int.natCast_one, Int.mul_one]

theorem Lot.exists_greatest {ls : List Lot} (h : ∀ l ∈ ls, 0 < l.size) :
    ∃ f, ((deal ls f).map signedSum).sum = (ls.map fun l => greatestSum l.size l.net).sum := by
  refine ⟨_, (sum_deal_showing (fun l => if l.net < 0 then 1 else 0) ls).trans ?_⟩
  congr 1
  apply List.map_congr_left
  intro l hl
  by_cases hneg : l.net < 0
  · simp only [greatestSum, hneg, if_true, shownFace_one, Int.natCast_one, Int.mul_one]
  · simp only [greatestSum, hneg, if_false, shownFace_zero (h l hl)]

def Reaches (formula : String) (n : Int) : Prop :=
  ∃ faces o, (evaluate formula faces).1 = .ok o ∧ o.total = n

/-- A total that some stream gives if it can be written. Otherwise a stream that would give it is
refused. -/
structure Attained (formula : String) (n : Int) : Prop where
  reached : Reaches formula n ↔ Numeral.Fits n.natAbs
  refused : ¬ Numeral.Fits n.natAbs →
    ∃ faces, (evaluate formula faces).1 = .error (.numeral .tooLargeToWrite)

namespace Rolls

variable {formula : String} {e : Expr} {ls : List Lot} {n : Int}

theorem of_evaluate (h : Rolls .plus e ls n) (hread : readFormula formula = .ok e) {faces : Faces}
    {o : Outcome} (ho : (evaluate formula faces).1 = .ok o) :
    o.total = ((Lot.deal ls faces).map Lot.signedSum).sum + n ∧ Lot.dice ls ≤ diceLimit ∧
      Numeral.Fits o.total.natAbs := by
  have heval : evaluate formula faces = (.ok o, (evaluate formula faces).2) := Prod.ext ho rfl
  obtain ⟨e', hread', -, rfl, hfits, -⟩ := exists_of_evaluate heval
  obtain rfl := Except.ok.inj (hread.symm.trans hread')
  refine ⟨h.total faces, ?_, hfits⟩
  rw [← h.count]
  by_contra hbeyond
  rw [evaluate_beyond hread h.sides (Nat.lt_of_not_le hbeyond)] at ho
  cases ho

theorem attained (h : Rolls .plus e ls n) (hread : readFormula formula = .ok e)
    (hcount : Lot.dice ls ≤ diceLimit) {faces : Faces} {total : Int}
    (htotal : ((Lot.deal ls faces).map Lot.signedSum).sum + n = total) :
    Attained formula total := by
  have hshown : (e.shown faces).total = total := (h.total faces).trans htotal
  have hwithin : e.diceCount ≤ diceLimit := by rwa [h.count]
  have heval := evaluate_within hread h.sides hwithin faces
  rw [hshown] at heval
  refine ⟨⟨?_, ?_⟩, ?_⟩
  · rintro ⟨faces', o, ho, rfl⟩
    exact (h.of_evaluate hread ho).2.2
  · intro hfits
    rw [Numeral.write_of_fits hfits] at heval
    exact ⟨faces, _, heval, hshown⟩
  · intro hfits
    rw [Numeral.write_of_not_fits hfits] at heval
    exact ⟨faces, heval⟩

end Rolls
end Encounter.Dice
