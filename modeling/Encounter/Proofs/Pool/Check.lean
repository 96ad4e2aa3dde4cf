import Encounter.Proofs.Dice.Natural
import Encounter.Proofs.Pool.Agreement
import Encounter.Proofs.Pool.Labels

namespace Encounter.Pool

open Dice (Expr Faces Keep Sign Lot IsSum IsItem Rolls GoesOn ShowsNatural Balanced NoCalls)

namespace Tally

theorem foldl_add_verbatim (ps : List Part) (t : Tally) (vs : List String) :
    ps.foldl (fun t p => t.add p.element) { t with verbatim := vs } =
      { ps.foldl (fun t p => t.add p.element) t with verbatim := vs } := by
  induction ps generalizing t with
  | nil => rfl
  | cons p ps ih =>
    obtain ⟨n, _ | size⟩ := p
    · exact ih (t.add (.constant n))
    · exact ih (t.add (.dice n size))

theorem ofElements_verbatim {v : String} (hv : Element.read v = .ok (.verbatim v))
    {ps : List Part} (hps : ∀ p ∈ ps, p.Canonical) :
    ofElements (v :: ps.map Part.text) = .ok { ofParts ps with verbatim := [v] } := by
  have hread : addText {} v = .ok { ({} : Tally) with verbatim := [v] } := by
    rw [addText, hv]
    rfl
  rw [ofElements, List.foldlM_cons, hread]
  exact (foldlM_addText_text hps _).trans (congrArg _ (foldl_add_verbatim ps {} [v]))

end Tally

theorem Part.combine_verbatim {v : String} (hv : Element.read v = .ok (.verbatim v))
    (hne : v.toList ≠ []) {ps : List Part} (hps : ∀ p ∈ ps, p.Canonical) {c : String}
    (h : combine (v :: ps.map text) = .ok c) :
    (∀ p ∈ merged ps, p.Canonical) ∧ c.toList = v.toList ++ restChars (merged ps) := by
  obtain ⟨t, ht, h⟩ := Result.bind_eq_ok h
  obtain rfl := Except.ok.inj ((Tally.ofElements_verbatim hv hps).symm.trans ht)
  obtain ⟨parts, hparts, h⟩ := Result.bind_eq_ok h
  obtain ⟨hcanonical, rfl⟩ := parts_ofParts (sized_of_canonical hps) hparts
  refine ⟨hcanonical, ?_⟩
  cases h
  rw [List.map_singleton, List.singleton_append, joinSigned_cons hne, if_neg (by simp [hne]),
    String.toList_ofList]

def d20 : Part := ⟨1, some 20⟩

theorem canonical_d20 : d20.Canonical where
  ne_zero := by decide
  fits := Numeral.fits_one
  size_pos size h := by
    cases h
    decide
  size_fits size h := by
    cases h
    exact (Numeral.fits_iff 20).mpr (Nat.lt_of_lt_of_le (by decide : 20 < 10 ^ 2)
      (Nat.pow_le_pow_right (by decide) (by decide)))

theorem chars_d20 : d20.chars = ['1', 'd', '2', '0'] := rfl

theorem writes_baseDie (a : Action) : (baseDie a).Writes d20 := ⟨canonical_d20, rfl, rfl⟩

/-- The base die as a pool has it: thrown once, or twice if one of two throws counts. -/
def checkDie (a : Action) : Option Keep → Term
  | none => baseDie a
  | some k =>
    { baseDie a with element := callTwice (String.ofList k.selector) (baseDie a).element }

theorem rollTwice_baseDie (a : Action) (k : Keep) (ts : List Term) :
    rollTwice (String.ofList k.selector) (baseDie a :: ts) = .ok (checkDie a (some k) :: ts) := by
  have hfaces := Term.faces_of_writes (writes_baseDie a)
  have hquantity := Term.quantity_of_writes (writes_baseDie a)
  have hsimple : (baseDie a).isSimpleDice = true := by
    rw [Term.isSimpleDice, Term.diceForm?_of_writes (writes_baseDie a)]
    rfl
  rw [rollTwice, hfaces, hquantity, hsimple]
  rfl

namespace Builder

variable {b : Builder} {r : Request} {p : DicePool}

theorem modifierTerms_writes {a : Action} {m : Modifier} {ts : List Term}
    (h : b.modifierTerms a m = .ok ts) : ∀ t ∈ ts, ∃ p, t.Writes p := by
  unfold modifierTerms at h
  split at h
  · exact fun t ht => (fragmentTerms_writes h t ht).1
  · cases h
    exact fun _ h => nomatch h

theorem thrown_baseDie {a : Action} (ha : a.usesD20 = true) (advantage disadvantage : Bool)
    (ts : List Term) : thrown (selector? advantage disadvantage) a (baseDie a :: ts) =
      .ok (checkDie a (keep? advantage disadvantage) :: ts) := by
  rw [thrown.eq_def, selector?_eq, ha]
  cases keep? advantage disadvantage with
  | none => rfl
  | some k => exact rollTwice_baseDie a k ts

theorem build_check (hr : r.action.usesD20 = true) (h : b.build r = .ok p) :
    ∃ others, p.terms = checkDie r.action (keep? r.advantage r.disadvantage) :: others ∧
      (∀ t ∈ others, ∃ q, t.Writes q) ∧ checkFormula p.terms = .ok p.formula := by
  have hdamage : (r.action == .damage) = false := by simpa [Action.usesD20] using hr
  obtain ⟨asked, added, doubled, hs⟩ := exists_stages h
  obtain ⟨features, hadded⟩ := hs.adds
  have hothers : ∀ t ∈ asked ++ added, ∃ q, t.Writes q :=
    gathered_forall (fun _ _ => modifierTerms_writes) hs.asks hadded
  -- nothing is doubled, and a selector goes to the base die, which comes first
  have hdoubled : baseDie r.action :: (asked ++ added) = doubled := by
    have hdoubles := hs.doubles
    rw [hdamage, Bool.and_false, seeded, hr] at hdoubles
    exact Except.ok.inj hdoubles
  have hterms : checkDie r.action (keep? r.advantage r.disadvantage) :: (asked ++ added) =
      p.terms := by
    have hthrows := hs.throws
    rw [← hdoubled, thrown_baseDie hr] at hthrows
    exact Except.ok.inj hthrows
  have hformula := hs.formula
  rw [Builder.formula, hdamage, if_neg Bool.false_ne_true] at hformula
  exact ⟨_, hterms.symm, hothers, hformula⟩

end Builder

namespace Part

/-- The parts of a check besides a base die that is thrown twice. If nothing is left of the base die
and the others, it stands there again. -/
def checkParts (ps : List Part) : Option Keep → List Part
  | none => if merged (d20 :: ps) = [] then [d20] else merged (d20 :: ps)
  | some _ => merged ps

def checkExpr (ps : List Part) : Option Keep → Expr
  | none => sum (checkParts ps none)
  | some k => ((Expr.dice 1 20).twice k).sumFrom sign item (checkParts ps (some k))

variable {ps : List Part}

theorem combine_check (hps : ∀ p ∈ ps, p.Canonical) {c : String}
    (h : combine ((d20 :: ps).map text) = .ok c) :
    (∀ p ∈ checkParts ps none, p.Canonical) ∧ checkParts ps none ≠ [] ∧
      (if c == emptyFormula then emptyCheckFormula else c) =
        String.ofList (joinSigned ((checkParts ps none).map chars)) := by
  obtain ⟨hcanonical, rfl⟩ := combine_text (List.forall_mem_cons.mpr ⟨canonical_d20, hps⟩) h
  by_cases hnil : merged (d20 :: ps) = []
  · rw [checkParts, if_pos hnil, if_pos hnil, beq_self_eq_true, if_pos rfl]
    exact ⟨fun p hp => List.mem_singleton.mp hp ▸ canonical_d20, List.cons_ne_nil _ _, rfl⟩
  · rw [checkParts, if_neg hnil, if_neg hnil,
      if_neg (by simpa using ofList_joinSigned_ne hcanonical)]
    exact ⟨hcanonical, hnil, rfl⟩

theorem toList_callTwice (k : Keep) : (callTwice (String.ofList k.selector) d20.text).toList =
    k.selector ++ '(' :: (d20.chars ++ ',' :: (d20.chars ++ [')'])) := by
  cases k <;> rfl

theorem read_callTwice (k : Keep) : Element.read (callTwice (String.ofList k.selector) d20.text) =
    .ok (.verbatim (callTwice (String.ofList k.selector) d20.text)) := by
  cases k <;> rfl

theorem readFormula_once (hps : ∀ p ∈ ps, p.Canonical) (hne : ps ≠ []) :
    Dice.readFormula (String.ofList (joinSigned (ps.map chars))) = .ok (sum ps) := by
  have hsumChar : ∀ c ∈ joinSigned (ps.map chars), SumChar c := fun _ hc => .of_mem_joinSigned hc
  have hchars : (String.ofList (joinSigned (ps.map chars))).toList.filter (· != ' ') =
      joinSigned (ps.map chars) := by
    rw [String.toList_ofList, filter_sumChars hsumChar]
  refine Dice.readFormula_of_isSum ?_ ?_ ?_
  · obtain ⟨c, hc⟩ := List.exists_mem_of_ne_nil _ (joinSigned_ne_nil hne)
    exact ⟨c, by rwa [String.toList_ofList], (hsumChar c hc).isBlank⟩
  · rw [hchars]
    exact NoCalls.of_notMem fun h => absurd (hsumChar _ h) (by decide)
  · rw [hchars]
    exact isSum_joinSigned hps hne

theorem readFormula_twice (hps : ∀ p ∈ ps, p.Canonical) (k : Keep) {c : String}
    (hc : c.toList = (callTwice (String.ofList k.selector) d20.text).toList ++ restChars ps) :
    Dice.readFormula c = .ok (((Expr.dice 1 20).twice k).sumFrom sign item ps) := by
  have hrest : ∀ c ∈ restChars ps, SumChar c := fun _ hc => .of_mem_restChars hc
  have hchars : c.toList.filter (· != ' ') =
      k.selector ++ '(' :: (d20.chars ++ ',' :: (d20.chars ++ ')' :: restChars ps)) := by
    rw [hc, List.filter_append, filter_sumChars hrest, toList_callTwice]
    cases k <;> rfl
  have hcalls : NoCalls (d20.chars ++ ',' :: (d20.chars ++ ')' :: restChars ps)) := by
    refine NoCalls.of_notMem fun h => ?_
    have hopen : '(' ∉ restChars ps := fun h => absurd (hrest _ h) (by decide)
    simp [chars_d20, hopen] at h
  have hbalanced : Balanced d20.chars := Balanced.of_notMem (by decide) (by decide)
  have hdie : IsSum d20.chars (Expr.dice 1 20) := isSum_first canonical_d20
  refine Dice.readFormula_of_regroup ⟨'m', ?_, by decide⟩ ?_
    ((hdie.pair hdie k).isSum.sumFrom sign fun p hp => isItem (hps p hp))
  · rw [hc, toList_callTwice]
    cases k <;> exact List.mem_cons_self
  · rw [hchars, Dice.regroup_selector k hbalanced hbalanced hcalls]
    rfl

/-- The formula of a check stands for its expression. -/
theorem readFormula_check {a : Action} {k : Option Keep} {others : List Term}
    (hothers : ∀ t ∈ others, ∃ q, t.Writes q) {formula : String}
    (h : checkFormula (checkDie a k :: others) = .ok formula) :
    (∀ p ∈ checkParts (others.map Term.part) k, p.Canonical) ∧
      Dice.readFormula formula = .ok (checkExpr (others.map Term.part) k) := by
  have hps := canonical_parts hothers
  obtain ⟨c, hc, h⟩ := Result.bind_eq_ok h
  rw [List.map_cons, elements_eq hothers] at hc
  cases h
  cases k with
  | none =>
    obtain ⟨hcanonical, hne, hformula⟩ := combine_check hps hc
    rw [hformula]
    exact ⟨hcanonical, readFormula_once hcanonical hne⟩
  | some k =>
    have hverbatim : (callTwice (String.ofList k.selector) d20.text).toList ≠ [] := by
      rw [toList_callTwice]
      exact List.append_ne_nil_of_right_ne_nil _ (List.cons_ne_nil _ _)
    obtain ⟨hcanonical, hchars⟩ := combine_verbatim (read_callTwice k) hverbatim hps hc
    have hformula : c ≠ emptyFormula := by
      rintro rfl
      rw [toList_callTwice] at hchars
      cases k <;> cases hchars
    rw [if_neg (by simpa using hformula)]
    exact ⟨hcanonical, readFormula_twice hcanonical k hchars⟩

theorem showsNatural_item (p : Part) (damageType : String) :
    ShowsNatural p.item (p.lots damageType) := by
  obtain ⟨n, _ | size⟩ := p
  · exact ShowsNatural.number _
  · exact ShowsNatural.dice ⟨damageType, size, n⟩

theorem showsNatural_sum (damageType : String) (hps : ∀ p ∈ ps, p.Canonical) :
    ShowsNatural (sum ps) (ps.flatMap (lots damageType)) := by
  cases ps with
  | nil => exact ShowsNatural.number 0
  | cons p ps =>
    obtain ⟨hp, hps⟩ := List.forall_mem_cons.mp hps
    have hfirst : ShowsNatural p.first (p.lots damageType) := by
      unfold first
      split
      · exact (showsNatural_item p damageType).unary .minus
      · exact showsNatural_item p damageType
    have hrest := (GoesOn.refl p.first).sumFrom (fun q hq => rolls_item (hps q hq) damageType)
      fun q _ => showsNatural_item q damageType
    exact hrest.showsNatural hfirst (rolls_first hp damageType).count

theorem goesOn_checkExpr (k : Keep) (hps : ∀ p ∈ merged ps, p.Canonical) :
    GoesOn ((Expr.dice 1 20).twice k) (checkExpr ps (some k)) ((merged ps).flatMap (lots ""))
      (total ps) := by
  have h := (GoesOn.refl ((Expr.dice 1 20).twice k)).sumFrom
    (fun q hq => rolls_item (hps q hq) "") fun q _ => showsNatural_item q ""
  rwa [List.nil_append, Int.zero_add, ← total, total_merged] at h

end Part

end Encounter.Pool
