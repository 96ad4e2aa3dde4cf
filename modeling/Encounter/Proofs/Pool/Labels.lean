import Encounter.Proofs.Dice.Named
import Encounter.Proofs.Dice.Twice
import Encounter.Proofs.Pool.Formula
import Encounter.Proofs.Text.Normal

namespace Encounter.Pool

open Dice (Expr Faces Keep Lot Outcome Annotated Balanced IsSum NoCalls)

/-- A damage type as it comes out of a formula. -/
def unspaced (damageType : String) : String :=
  String.ofList (damageType.toList.filter (· != ' '))

theorem unspaced_eq_self {damageType : String} (h : ' ' ∉ damageType.toList) :
    unspaced damageType = damageType := by
  have hfilter : damageType.toList.filter (· != ' ') = damageType.toList :=
    List.filter_eq_self.mpr fun c hc => by simpa using fun heq : c = ' ' => h (heq ▸ hc)
  rw [unspaced, hfilter, String.ofList_toList]

theorem space_notMem_unspaced (damageType : String) : ' ' ∉ (unspaced damageType).toList := by
  rw [unspaced, String.toList_ofList]
  intro h
  exact absurd (List.mem_filter.mp h).2 (by decide)

theorem isNormal_unspaced {damageType : String} (h : Text.IsNormal damageType.toList) :
    Text.IsNormal (unspaced damageType).toList := by
  rw [unspaced, String.toList_ofList]
  exact h.filter fun c hc => by simpa using fun heq : c = ' ' => absurd (heq ▸ hc) (by decide)

namespace Share

variable {s : Share} {ss : List Share}

def label (s : Share) : List Char := '[' :: (s.labelChars ++ [']'])

def amount (dealt : List (Lot × List Nat)) (s : Share) : Int :=
  ((dealt.filter fun d => d.1.damageType == s.damageType).map Lot.signedSum).sum +
    Part.total s.parts

/-- A share whose damage type is trimmed and in lower case, and closes no parenthesis. -/
structure Named (s : Share) : Prop where
  sound : s.Sound
  normal : Text.IsNormal s.damageType.toList
  closes : ')' ∉ s.damageType.toList

theorem labelName_label (hs : s.Named) :
    unspaced s.damageType ≠ "" ∧ Dice.labelName s.label = (unspaced s.damageType).toList := by
  have htoList : (unspaced s.damageType).toList = s.labelChars := String.toList_ofList
  have hopen := notMem_labelChars hs.sound (d := '[') (by simp)
  have hclose := notMem_labelChars hs.sound (d := ']') (by simp)
  refine ⟨fun hempty => ?_, ?_⟩
  · obtain ⟨c, hc, -⟩ := solid_labelChars hs.sound
    rw [← htoList, hempty] at hc
    cases hc
  · rw [label, Dice.labelName_bracketed hopen hclose, ← htoList]
    exact (isNormal_unspaced hs.normal).lowerFrom_trimChars

theorem damageType_of_mem_lots {l : Lot} (h : l ∈ s.lots) : l.damageType = s.damageType := by
  obtain ⟨p, -, hl⟩ := List.mem_flatMap.mp h
  obtain ⟨n, _ | size⟩ := p
  · cases hl
  · rw [List.mem_singleton.mp hl]

theorem keptLabels_expr (hs : s.Sound) (f : Faces) : (s.expr.shown f).keptLabels =
    [(s.label, ((Lot.deal s.lots f).map Lot.signedSum).sum + Part.total s.parts)] := by
  rw [expr, (Part.bare_sum s.parts).grouped.keptLabels_labelled, ← (rolls_expr hs).total f]
  rfl

theorem amount_append (s t : Share) (ls : List Lot) (f : Faces) :
    t.amount (Lot.deal (s.lots ++ ls) f) =
      (if s.damageType = t.damageType then ((Lot.deal s.lots f).map Lot.signedSum).sum else 0) +
        t.amount (Lot.deal ls (f.skip (Lot.dice s.lots))) := by
  have htype : ∀ d ∈ Lot.deal s.lots f, d.1.damageType = s.damageType :=
    fun d hd => damageType_of_mem_lots (Lot.mem_of_mem_deal hd)
  rw [amount, amount, Lot.deal_append, List.filter_append, List.map_append, List.sum_append,
    Int.add_assoc]
  congr 1
  split
  · rename_i heq
    rw [List.filter_eq_self.mpr fun d hd => by simp [htype d hd, heq]]
  · rename_i hne
    rw [List.filter_eq_nil_iff.mpr fun d hd => by simpa [htype d hd] using hne]
    rfl

theorem amount_of_notMem {ls : List Lot} (h : ∀ l ∈ ls, l.damageType ≠ s.damageType) (f : Faces) :
    s.amount (Lot.deal ls f) = Part.total s.parts := by
  rw [amount, List.filter_eq_nil_iff.mpr fun d hd => by simpa using h _ (Lot.mem_of_mem_deal hd)]
  exact Int.zero_add _

/-- The annotations of shares of different types, with what each makes of all the dice. -/
theorem labelsFrom_expr (hss : ∀ s ∈ ss, s.Sound) (hnodup : (ss.map (·.damageType)).Nodup)
    (f : Faces) : Dice.labelsFrom Share.expr ss f =
      ss.map fun s => (s.label, s.amount (Lot.deal (ss.flatMap Share.lots) f)) := by
  induction ss generalizing f with
  | nil => rfl
  | cons s ss ih =>
    obtain ⟨hs, hss⟩ := List.forall_mem_cons.mp hss
    obtain ⟨hnew, hnodup⟩ := List.nodup_cons.mp hnodup
    have hrest : ∀ l ∈ ss.flatMap Share.lots, l.damageType ≠ s.damageType := by
      intro l hl heq
      obtain ⟨t, ht, hl⟩ := List.mem_flatMap.mp hl
      exact hnew (List.mem_map.mpr ⟨t, ht, (damageType_of_mem_lots hl).symm.trans heq⟩)
    have hothers : ∀ t ∈ ss, t.amount (Lot.deal ((s :: ss).flatMap Share.lots) f) =
        t.amount (Lot.deal (ss.flatMap Share.lots) (f.skip (Lot.dice s.lots))) := by
      intro t ht
      have hne : s.damageType ≠ t.damageType := fun heq => hnew (List.mem_map.mpr ⟨t, ht, heq.symm⟩)
      rw [List.flatMap_cons, amount_append, if_neg hne, Int.zero_add]
    rw [Dice.labelsFrom, keptLabels_expr hs, (rolls_expr hs).count, ih hss hnodup, List.map_cons,
      List.map_congr_left fun t ht => congrArg (t.label, ·) (hothers t ht), List.flatMap_cons,
      amount_append, if_pos rfl, amount_of_notMem hrest]
    rfl

theorem keptLabels_formulaExpr (hss : ∀ s ∈ ss, s.Sound)
    (hnodup : (ss.map (·.damageType)).Nodup) (f : Faces) :
    ((formulaExpr ss).shown f).keptLabels =
      ss.map fun s => (s.label, s.amount (Lot.deal (ss.flatMap Share.lots) f)) := by
  rw [← labelsFrom_expr hss hnodup]
  cases ss with
  | nil => rfl
  | cons s ss => exact Dice.keptLabels_sumFrom _ Share.expr s.expr ss f

theorem balanced_chars (hs : s.Named) : Balanced s.chars := by
  have hsum : '(' ∉ s.sumChars ∧ ')' ∉ s.sumChars :=
    ⟨fun h => absurd (Part.SumChar.of_mem_joinSigned h) (by decide),
      fun h => absurd (Part.SumChar.of_mem_joinSigned h) (by decide)⟩
  have hopen := notMem_labelChars hs.sound (d := '(') (by simp)
  have hclose : ')' ∉ s.labelChars := fun h => hs.closes (List.mem_of_mem_filter h)
  exact (Balanced.of_notMem hsum.1 hsum.2).group.append
    (Balanced.of_notMem (by simp [hopen]) (by simp [hclose]))

theorem balanced_formula (hs : s.Named) (hss : ∀ s ∈ ss, s.Named) :
    Balanced (s.chars ++ restChars ss) :=
  (balanced_chars hs).append (Balanced.flatMap fun t ht =>
    (Balanced.char (by decide) (by decide)).append (balanced_chars (hss t ht)))

end Share

def keep? (advantage disadvantage : Bool) : Option Keep :=
  if advantage && !disadvantage then some .highest
  else if disadvantage && !advantage then some .lowest
  else none

theorem selector?_eq (advantage disadvantage : Bool) : selector? advantage disadvantage =
    (keep? advantage disadvantage).map fun k => String.ofList k.selector := by
  cases advantage <;> cases disadvantage <;> rfl

/-- What the formula of some shares stands for when it is rolled as a pool is. Nothing is not
rolled twice. -/
def selectedExpr (k : Option Keep) (ss : List Share) : Expr :=
  match k, ss with
  | some k, s :: ss => (formulaExpr (s :: ss)).twice k
  | _, ss => formulaExpr ss

def keptFrom (k : Option Keep) (ss : List Share) (f : Faces) : Faces :=
  match k with
  | some k => (formulaExpr ss).keptFrom k f
  | none => f

section Selected

variable {k : Option Keep} {ss : List Share}

theorem filter_callTwice (k : Keep) {formula : String} {cs : List Char}
    (h : formula.toList.filter (· != ' ') = cs) :
    (callTwice (String.ofList k.selector) formula).toList.filter (· != ' ') =
      k.selector ++ '(' :: (cs ++ ',' :: (cs ++ [')'])) := by
  cases k <;> simp [callTwice, Keep.selector, List.filter_append, h]

theorem formulaText_ne_empty (s : Share) (ss : List Share) :
    formulaText (s :: ss) ≠ emptyFormula := by
  intro h
  have hchars := filter_formulaText s ss
  rw [h] at hchars
  cases hchars

theorem selected_nil (selector : Option String) :
    selected selector (formulaText []) = formulaText [] := by
  have hempty : formulaText [] = emptyFormula := rfl
  cases selector with
  | none => rfl
  | some s => rw [hempty, selected, beq_self_eq_true, if_pos rfl]

theorem readFormula_selected (hss : ∀ s ∈ ss, s.Named) :
    Dice.readFormula (selected (k.map fun k => String.ofList k.selector) (formulaText ss)) =
      .ok (selectedExpr k ss) := by
  have hsound : ∀ s ∈ ss, s.Sound := fun s hs => (hss s hs).sound
  obtain _ | k := k
  · exact readFormula_shares hsound
  · obtain _ | ⟨s, ss⟩ := ss
    · rw [selected_nil]
      exact readFormula_shares hsound
    · have hsound := List.forall_mem_cons.mp hsound
      have hnamed := List.forall_mem_cons.mp hss
      rw [Option.map_some, selected, if_neg (by simpa using formulaText_ne_empty s ss)]
      exact Dice.readFormula_twice (filter_callTwice k (filter_formulaText s ss))
        (Share.balanced_formula hnamed.1 hnamed.2) (noCalls_formula hsound.1 hsound.2)
        (isSum_formula hsound.1 hsound.2)

theorem hasSides_selectedExpr (hss : ∀ s ∈ ss, s.Sound) : (selectedExpr k ss).HasSides := by
  have hsides := (rolls_formulaExpr hss).sides
  unfold selectedExpr
  split
  · exact Dice.hasSides_twice hsides
  · exact hsides

theorem annotated_selectedExpr (hss : ∀ s ∈ ss, s.Sound) : Annotated (selectedExpr k ss) := by
  have hannotated := annotated_formulaExpr hss
  unfold selectedExpr
  split
  · exact hannotated.twice
  · exact hannotated

theorem keptLabels_selectedExpr (f : Faces) : ((selectedExpr k ss).shown f).keptLabels =
    ((formulaExpr ss).shown (keptFrom k ss f)).keptLabels := by
  obtain _ | k := k
  · rfl
  · obtain _ | ⟨s, ss⟩ := ss
    · rfl
    · exact Dice.keptLabels_twice f

/-- The totals of a damage formula: what each share makes of the dice of the roll that counts,
under its damage type without spaces. -/
theorem totals_selected (hss : ∀ s ∈ ss, s.Named) (hnodup : (ss.map (·.damageType)).Nodup)
    {faces : Faces} {o : Outcome} (h : (Dice.evaluate
      (selected (k.map fun k => String.ofList k.selector) (formulaText ss)) faces).1 = .ok o) :
    Entries.total o.totalsByType = o.total ∧
      o.totalsByType = Dice.addTotals [] (ss.map fun s => (unspaced s.damageType,
        s.amount (Lot.deal (ss.flatMap Share.lots) (keptFrom k ss faces)))) := by
  have hsound : ∀ s ∈ ss, s.Sound := fun s hs => (hss s hs).sound
  obtain rfl := Dice.eq_ofNode_of_evaluate (readFormula_selected hss)
    (hasSides_selectedExpr hsound) h
  refine ⟨(annotated_selectedExpr hsound).total_totalsByType _ faces, ?_⟩
  change (Dice.Node.gather {} _).totals = _
  rw [Dice.totals_gather, keptLabels_selectedExpr, Share.keptLabels_formulaExpr hsound hnodup]
  exact Dice.totals_addLabels {} fun s hs => Share.labelName_label (hss s hs)

end Selected

end Encounter.Pool
