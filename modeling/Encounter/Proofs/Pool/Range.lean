import Encounter.Proofs.Dice.Extremes
import Encounter.Proofs.Pool.KeptDie

namespace Encounter.Pool

open Dice (Lot Rolls Attained leastSum greatestSum)

section Weights

variable {w : Nat → Int → Int}

/-- What dice weigh, if those of one size have a weight by their net count. -/
def DiceSum.weigh (w : Nat → Int → Int) (d : DiceSum) : Int := (d.map fun e => w e.1 e.2).sum

theorem DiceSum.weigh_cons (size : Nat) (q : Int) (d : DiceSum) :
    weigh w ((size, q) :: d) = w size q + weigh w d := rfl

theorem DiceSum.Sorted.weigh_add {d : DiceSum} (hd : d.Sorted) (hzero : ∀ size, w size 0 = 0)
    (size : Nat) (q : Int) :
    weigh w (d.add size q) + w size (d.net size) = weigh w d + w size (d.net size + q) := by
  induction d with
  | nil =>
    change w size q + 0 + w size 0 = 0 + w size (0 + q)
    rw [hzero, Int.zero_add, Int.zero_add, Int.add_zero, Int.add_zero]
  | cons e d ih =>
    obtain ⟨s, n⟩ := e
    obtain ⟨hlt, hd⟩ := List.pairwise_cons.mp hd
    simp only [DiceSum.add, beq_iff_eq]
    by_cases heq : size = s
    · subst heq
      have hnone : DiceSum.net d size = 0 := net_eq_zero fun e he => Nat.ne_of_lt (hlt e he)
      rw [if_pos rfl, net_cons, if_pos rfl, hnone, weigh_cons, weigh_cons, Int.add_zero]
      dsimp only
      omega
    · rw [if_neg heq]
      by_cases hless : s < size
      · have hnone : net ((s, n) :: d) size = 0 := by
          apply net_eq_zero
          intro e he
          obtain rfl | he := List.mem_cons.mp he
          · exact Nat.ne_of_lt hless
          · exact Nat.ne_of_lt (Nat.lt_trans (hlt e he) hless)
        rw [if_pos hless, hnone, hzero, weigh_cons, Int.zero_add]
        omega
      · have hrest := ih hd
        rw [if_neg hless, net_cons, if_neg (Ne.symm heq), Int.zero_add, weigh_cons, weigh_cons]
        omega

theorem DiceSum.weigh_filter (hzero : ∀ size, w size 0 = 0) (d : DiceSum) :
    weigh w (d.filter fun e => e.2 != 0) = weigh w d := by
  induction d with
  | nil => rfl
  | cons e d ih =>
    obtain ⟨size, q⟩ := e
    by_cases h : q = 0
    · rw [List.filter_cons_of_neg (by simp [h]), ih, weigh_cons, h, hzero, Int.zero_add]
    · rw [List.filter_cons_of_pos (by simp [h]), weigh_cons, weigh_cons, ih]

end Weights

namespace Part

/-- No size has dice of both signs. -/
def OneSigned (ps : List Part) : Prop :=
  ∀ p ∈ ps, ∀ q ∈ ps, ∀ size ∈ p.size, q.size = some size → 0 ≤ p.net * q.net

/-- The value of a part, whose dice have a weight by their size and count. -/
def worth (w : Nat → Int → Int) (p : Part) : Int :=
  match p.size with
  | none => p.net
  | some size => w size p.net

section Merging

variable {w : Nat → Int → Int} {ps : List Part}

theorem total_concat (ps : List Part) (p : Part) : total (ps ++ [p]) = total ps + p.constant := by
  rw [total, List.map_append, List.sum_append, List.map_singleton, List.sum_singleton, ← total]

theorem weigh_ofParts_number (w : Nat → Int → Int) (ps : List Part) (n : Int) :
    (Tally.ofParts (ps ++ [⟨n, none⟩])).dice.weigh w = (Tally.ofParts ps).dice.weigh w := by
  rw [Tally.ofParts, List.foldl_append]
  rfl

theorem weigh_ofParts_dice (hzero : ∀ size, w size 0 = 0) (ps : List Part) (n : Int) (size : Nat) :
    (Tally.ofParts (ps ++ [⟨n, some size⟩])).dice.weigh w + w size (netDice ps size) =
      (Tally.ofParts ps).dice.weigh w + w size (netDice ps size + n) := by
  have hm := Tally.merges_ofParts ps
  have hadd := hm.sorted.weigh_add hzero size n
  rw [hm.net] at hadd
  rw [Tally.ofParts, List.foldl_append]
  exact hadd

/-- What merging adds to the worth of some parts is of a kind (none, none below zero, or none above
it) if what each die adds to those of its size before it is of this kind. -/
theorem merging_adds {P : Int → Prop} (hnone : P 0) (hboth : ∀ x y, P x → P y → P (x + y))
    (hzero : ∀ size, w size 0 = 0)
    (hstep : ∀ qs n size, qs ++ [⟨n, some size⟩] <+: ps →
      P (w size (netDice qs size + n) - (w size (netDice qs size) + w size n))) :
    P ((Tally.ofParts ps).left.weigh w + total ps - (ps.map (worth w)).sum) := by
  rw [Tally.left, DiceSum.weigh_filter hzero]
  induction ps using List.reverseRecOn with
  | nil => exact hnone
  | append_singleton ps p ih =>
    have hprefix := ih fun qs n size hqs =>
      hstep qs n size (hqs.trans (List.prefix_append ps [p]))
    rw [List.map_append, List.sum_append, List.map_singleton, List.sum_singleton, total_concat]
    obtain ⟨n, _ | size⟩ := p
    · have hsame : (Tally.ofParts (ps ++ [⟨n, none⟩])).dice.weigh w + (total ps + n) -
          ((ps.map (worth w)).sum + n) =
          (Tally.ofParts ps).dice.weigh w + total ps - (ps.map (worth w)).sum := by
        rw [weigh_ofParts_number]
        omega
      exact hsame ▸ hprefix
    · have hadd := hboth _ _ hprefix (hstep ps n size (List.prefix_refl _))
      have hdice := weigh_ofParts_dice hzero ps n size
      have hsame : (Tally.ofParts (ps ++ [⟨n, some size⟩])).dice.weigh w + (total ps + 0) -
          ((ps.map (worth w)).sum + w size n) =
          (Tally.ofParts ps).dice.weigh w + total ps - (ps.map (worth w)).sum +
            (w size (netDice ps size + n) - (w size (netDice ps size) + w size n)) := by
        omega
      exact hsame ▸ hadd

theorem OneSigned.netDice_mul {p : Part} {size : Nat} (h : OneSigned (ps ++ [p]))
    (hp : p.size = some size) : 0 ≤ netDice ps size * p.net := by
  have hall : ∀ q ∈ ps, 0 ≤ (if q.size = some size then q.net else 0) * p.net := by
    intro q hq
    by_cases hsize : q.size = some size
    · rw [if_pos hsize]
      exact h q (List.mem_append_left _ hq) p (List.mem_append_right _ (List.mem_singleton_self p))
        size hsize hp
    · rw [if_neg hsize, Int.zero_mul]
  clear h
  induction ps with
  | nil => exact (Int.zero_mul _).ge
  | cons q ps ih =>
    obtain ⟨hq, hps⟩ := List.forall_mem_cons.mp hall
    have hrest := ih hps
    rw [netDice, List.map_cons, List.sum_cons, Int.add_mul, ← netDice]
    omega

theorem OneSigned.of_prefix {qs : List Part} (h : OneSigned ps) (hqs : qs <+: ps) :
    OneSigned qs := fun p hp q hq => h p (hqs.subset hp) q (hqs.subset hq)

theorem sum_worth_eq (hzero : ∀ size, w size 0 = 0)
    (hadd : ∀ size a b, 0 ≤ a * b → w size (a + b) = w size a + w size b) (hps : OneSigned ps) :
    (ps.map (worth w)).sum = (Tally.ofParts ps).left.weigh w + total ps := by
  symm
  apply Int.eq_of_sub_eq_zero
  apply merging_adds (P := (· = 0))
  · rfl
  · intro x y hx hy
    rw [hx, hy, Int.add_zero]
  · exact hzero
  · intro qs n size hqs
    rw [hadd size _ n ((hps.of_prefix hqs).netDice_mul rfl)]
    exact Int.sub_self _

end Merging

/-- The sum of the least values of some parts: a number is itself, and dice show ones or, with a
minus, their sizes. -/
def sumLeast (ps : List Part) : Int := (ps.map (worth leastSum)).sum

def sumGreatest (ps : List Part) : Int := (ps.map (worth greatestSum)).sum

section Ends

variable {ps : List Part}

theorem Sized.pos_of_prefix {qs : List Part} {n : Int} {size : Nat} (hps : Sized ps)
    (hqs : qs ++ [⟨n, some size⟩] <+: ps) : 0 < size :=
  (hps ⟨n, some size⟩ (hqs.subset (List.mem_append_right _ List.mem_cons_self)) size rfl).1

theorem sumLeast_le (hps : Sized ps) :
    sumLeast ps ≤ (Tally.ofParts ps).left.weigh leastSum + total ps := by
  apply Int.le_of_sub_nonneg
  apply merging_adds (P := (0 ≤ ·))
  · exact Int.le_refl 0
  · exact fun x y hx hy => Int.add_nonneg hx hy
  · exact Dice.leastSum_zero
  · intro qs n size hqs
    exact Int.sub_nonneg_of_le (Dice.leastSum_add_le (hps.pos_of_prefix hqs) _ n)

theorem le_sumGreatest (hps : Sized ps) :
    (Tally.ofParts ps).left.weigh greatestSum + total ps ≤ sumGreatest ps := by
  apply Int.le_of_sub_nonpos
  apply merging_adds (P := (· ≤ 0))
  · exact Int.le_refl 0
  · exact fun x y hx hy => Int.add_nonpos hx hy
  · exact Dice.greatestSum_zero
  · intro qs n size hqs
    exact Int.sub_nonpos_of_le (Dice.le_greatestSum_add (hps.pos_of_prefix hqs) _ n)

end Ends

section Rolling

variable {ps : List Part}

theorem size_pos_of_mem_lotsLeft (hps : Sized ps) : ∀ l ∈ lotsLeft ps, 0 < l.size := by
  intro l hl
  obtain ⟨e, he, rfl⟩ := List.mem_map.mp hl
  obtain ⟨p, hp, hsize⟩ := (Tally.merges_ofParts ps).size e (List.mem_of_mem_filter he)
  exact (hps p hp e.1 hsize).1

theorem sum_lotsLeft (w : Nat → Int → Int) (ps : List Part) :
    ((lotsLeft ps).map fun l => w l.size l.net).sum = (Tally.ofParts ps).left.weigh w := by
  rw [lotsLeft, List.map_map, DiceSum.weigh]
  rfl

theorem rolls_merged (hps : ∀ p ∈ merged ps, p.Canonical) :
    Rolls .plus (sum (merged ps)) (lotsLeft ps) (total ps) := by
  have hrolls := rolls_sum "" hps
  rwa [lots_merged, ← total, total_merged] at hrolls

theorem readFormula_combined (hps : ∀ p ∈ merged ps, p.Canonical) :
    Dice.readFormula (if merged ps = [] then emptyFormula
      else String.ofList (joinSigned ((merged ps).map chars))) = .ok (sum (merged ps)) := by
  by_cases hnil : merged ps = []
  · rw [if_pos hnil, hnil]
    rfl
  · rw [if_neg hnil]
    exact readFormula_once hps hnil

/-- The range of the totals of a formula, with its ends. -/
structure Ranges (ps : List Part) (formula : String) : Prop where
  bounds : ∀ faces o, (Dice.evaluate formula faces).1 = .ok o →
    sumLeast ps ≤ o.total ∧ o.total ≤ sumGreatest ps
  ends : (∃ faces o, (Dice.evaluate formula faces).1 = .ok o) → OneSigned ps →
    Attained formula (sumLeast ps) ∧ Attained formula (sumGreatest ps)

section Formula

variable {formula : String} (hmerged : ∀ p ∈ merged ps, p.Canonical)
  (hread : Dice.readFormula formula = .ok (sum (merged ps)))

include hmerged hread

theorem attained_least (hps : Sized ps) (hcount : Lot.dice (lotsLeft ps) ≤ Dice.diceLimit)
    (hsigned : OneSigned ps) : Attained formula (sumLeast ps) := by
  obtain ⟨low, hlow⟩ := Lot.exists_least (size_pos_of_mem_lotsLeft hps)
  apply (rolls_merged hmerged).attained hread hcount
  rw [hlow, sum_lotsLeft]
  exact (sum_worth_eq Dice.leastSum_zero (fun size a b h => Dice.leastSum_add size h)
    hsigned).symm

theorem attained_greatest (hps : Sized ps) (hcount : Lot.dice (lotsLeft ps) ≤ Dice.diceLimit)
    (hsigned : OneSigned ps) : Attained formula (sumGreatest ps) := by
  obtain ⟨high, hhigh⟩ := Lot.exists_greatest (size_pos_of_mem_lotsLeft hps)
  apply (rolls_merged hmerged).attained hread hcount
  rw [hhigh, sum_lotsLeft]
  exact (sum_worth_eq Dice.greatestSum_zero (fun size a b h => Dice.greatestSum_add size h)
    hsigned).symm

theorem ranges_merged (hps : Sized ps) : Ranges ps formula := by
  have hrolls := rolls_merged hmerged
  constructor
  · intro faces o ho
    obtain ⟨htotal, -, -⟩ := hrolls.of_evaluate hread ho
    obtain ⟨hleast, hgreatest⟩ := Lot.sum_deal_bounds (size_pos_of_mem_lotsLeft hps) faces
    rw [sum_lotsLeft] at hleast hgreatest
    have hlow := sumLeast_le hps
    have hhigh := le_sumGreatest hps
    omega
  · rintro ⟨faces, o, ho⟩ hsigned
    obtain ⟨-, hcount, -⟩ := hrolls.of_evaluate hread ho
    exact ⟨attained_least hmerged hread hps hcount hsigned,
      attained_greatest hmerged hread hps hcount hsigned⟩

end Formula

theorem fits_of_read {s : String} {q : Int} {size : Nat}
    (h : Element.read s = .ok (.dice q size)) : Numeral.Fits size := by
  unfold Element.read at h
  split at h
  · obtain ⟨n, -, hn⟩ := Result.map_eq_ok h
    cases hn
  · split at h
    · obtain ⟨q', -, h⟩ := Result.bind_eq_ok h
      obtain ⟨size', hsize, h⟩ := Result.bind_eq_ok h
      cases h
      exact Numeral.fits_of_readDigits (Result.ofNumeral_eq_ok hsize)
    · cases h

theorem sized_of_read {es : List String}
    (hes : List.Forall₂ (fun s p => Element.read s = .ok p.element) es ps)
    (hsides : ∀ p ∈ ps, p.size ≠ some 0) : Sized ps := by
  induction hes with
  | nil => exact fun _ h => nomatch h
  | @cons s p es ps hread _ ih =>
    obtain ⟨hp, hps⟩ := List.forall_mem_cons.mp hsides
    intro r hr size hsize
    obtain rfl | hr := List.mem_cons.mp hr
    · obtain ⟨q, _ | size'⟩ := r
      · cases hsize
      · cases hsize
        refine ⟨Nat.pos_of_ne_zero ?_, fits_of_read hread⟩
        rintro rfl
        exact hp rfl
    · exact ih hps r hr size hsize

end Rolling

/-- Combined numbers and dice range between the sums of the least and of the greatest values of the
elements. If no size has dice of both signs, they reach each end that can be written. -/
theorem combine_ranges {es : List String} {ps : List Part}
    (hes : List.Forall₂ (fun s p => Element.read s = .ok p.element) es ps)
    (hsides : ∀ p ∈ ps, p.size ≠ some 0) {formula : String} (h : combine es = .ok formula) :
    Ranges ps formula := by
  have hsized := sized_of_read hes hsides
  obtain ⟨hmerged, rfl⟩ := combine_eq_ok (Tally.foldlM_addText hes {}) hsized h
  exact ranges_merged hmerged (readFormula_combined hmerged) hsized

/-- Three dice of six sides are subtracted in two elements, and rolled together. -/
theorem combine_ranges_subtracted :
    let es := ["-2d6", "+3", "1d20", "-d6"]
    let ps : List Part := [⟨-2, some 6⟩, ⟨3, none⟩, ⟨1, some 20⟩, ⟨-1, some 6⟩]
    List.Forall₂ (fun s p => Element.read s = .ok p.element) es ps ∧
      (∀ p ∈ ps, p.size ≠ some 0) ∧ combine es = .ok "1d20-3d6+3" ∧ Ranges ps "1d20-3d6+3" ∧
      Dice.Reaches "1d20-3d6+3" (-14) ∧ Dice.Reaches "1d20-3d6+3" 20 := by
  intro es ps
  have hes : List.Forall₂ (fun s p => Element.read s = .ok p.element) es ps :=
    .cons rfl (.cons rfl (.cons rfl (.cons rfl .nil)))
  have hsides : ∀ p ∈ ps, p.size ≠ some 0 := by decide
  have hcombine : combine es = .ok "1d20-3d6+3" := Result.eq_ok_of_toOption (by decide +kernel)
  have hranges : Ranges ps "1d20-3d6+3" := combine_ranges hes hsides hcombine
  have hrolled : ((Dice.evaluate "1d20-3d6+3" (Dice.Faces.cycle #[1])).1.toOption.map (·.total)) =
      some 1 := by decide +kernel
  obtain ⟨o, ho, -⟩ := Result.exists_of_map_toOption hrolled
  have hsigned : OneSigned ps := by simp [ps, OneSigned]
  obtain ⟨hleast, hgreatest⟩ := hranges.ends ⟨_, o, ho⟩ hsigned
  have hfits : Numeral.Fits 20 := @Numeral.fits_of_readDigits ['2', '0'] 20 rfl
  refine ⟨hes, hsides, hcombine, hranges, ?_, ?_⟩
  · exact hleast.reached.mpr (Nat.lt_of_le_of_lt (by decide : 14 ≤ 20) hfits)
  · exact hgreatest.reached.mpr hfits

section Bonus

variable {n : Nat}

theorem oneSigned_bonus (n : Nat) : OneSigned [d20, ⟨n, none⟩] := by simp [OneSigned, d20]

theorem sumLeast_bonus (n : Nat) : sumLeast [d20, ⟨n, none⟩] = n + 1 := by
  simp [sumLeast, worth, leastSum, d20]
  omega

theorem sumGreatest_bonus (n : Nat) : sumGreatest [d20, ⟨n, none⟩] = n + 20 := by
  simp [sumGreatest, worth, greatestSum, d20]
  omega

theorem attained_bonus (hpos : 0 < n) (hn : Numeral.Fits n) : ∃ formula,
    combine ["1d20", Numeral.text n] = .ok formula ∧
      Attained formula (n + 1) ∧ Attained formula (n + 20) := by
  have hps : ∀ p ∈ [d20, ⟨n, none⟩], p.Canonical := by
    simp [canonical_d20, canonical_number hpos hn]
  have htexts : ([d20, ⟨n, none⟩] : List Part).map text = ["1d20", Numeral.text n] := by
    rw [List.map_cons, List.map_singleton, text_number]
    rfl
  have hmerged := merged_bonus hpos
  have hcanonical : ∀ p ∈ merged [d20, ⟨n, none⟩], p.Canonical := by rwa [hmerged]
  have hcombine := combine_of_fits hps rfl (fun q hq => (hcanonical q hq).fits) (by simp [hmerged])
  have hread := readFormula_once hcanonical (by simp [hmerged])
  have hlots : lotsLeft [d20, ⟨n, none⟩] = [⟨"", 20, 1⟩] := rfl
  have hcount : Lot.dice (lotsLeft [d20, ⟨n, none⟩]) ≤ Dice.diceLimit := by
    rw [hlots]
    decide
  rw [htexts] at hcombine
  refine ⟨_, hcombine, ?_, ?_⟩
  · rw [← sumLeast_bonus]
    exact attained_least hcanonical hread (sized_of_canonical hps) hcount (oneSigned_bonus n)
  · rw [← sumGreatest_bonus]
    exact attained_greatest hcanonical hread (sized_of_canonical hps) hcount (oneSigned_bonus n)

end Bonus

/-- On a number just below the limit, a one makes a total, but the highest face makes one that
cannot be written, so that the upper end of the range is not reached. -/
theorem greatest_unreached : ∃ formula,
    combine ["1d20", Numeral.text (10 ^ Numeral.digitLimit - 2 : Nat)] = .ok formula ∧
      (∃ faces o, (Dice.evaluate formula faces).1 = .ok o) ∧
      OneSigned [d20, ⟨(10 ^ Numeral.digitLimit - 2 : Nat), none⟩] ∧
      ¬ Dice.Reaches formula
        (sumGreatest [d20, ⟨(10 ^ Numeral.digitLimit - 2 : Nat), none⟩]) := by
  have hpow : 2 < 10 ^ Numeral.digitLimit :=
    Nat.lt_of_lt_of_le (by decide : 2 < 10 ^ 1) (Nat.pow_le_pow_right (by decide) (by decide))
  have hfits : Numeral.Fits (10 ^ Numeral.digitLimit - 2) := by
    rw [Numeral.fits_iff]
    omega
  obtain ⟨formula, hcombine, hleast, hgreatest⟩ := attained_bonus (by omega) hfits
  refine ⟨formula, hcombine, ?_, oneSigned_bonus _, ?_⟩
  · have hone : Numeral.Fits ((10 ^ Numeral.digitLimit - 2 : Nat) + 1 : Int).natAbs := by
      rw [Numeral.fits_iff]
      omega
    obtain ⟨faces, o, ho, -⟩ := hleast.reached.mpr hone
    exact ⟨faces, o, ho⟩
  · rw [sumGreatest_bonus, hgreatest.reached, Numeral.fits_iff]
    omega

end Part
end Encounter.Pool
