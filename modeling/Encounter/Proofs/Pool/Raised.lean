import Encounter.Proofs.Pool.Combined
import Encounter.Proofs.Pool.DamageTypes
import Encounter.Proofs.Pool.NaturalDie

namespace Encounter

namespace Dice

/-- An expression that rolls what another one rolls, and adds a number. -/
structure Shifts (n : Int) (e e' : Expr) : Prop where
  sides : e.HasSides
  sides' : e'.HasSides
  count : e'.diceCount = e.diceCount
  total : ∀ f, (e'.shown f).total = (e.shown f).total + n
  faces : ∀ f, (e'.shown f).keptFaces = (e.shown f).keptFaces

/-- Whatever a formula is rolled to, another one is rolled to a number more with the same dice, if
that can be written. -/
structure Raises (n : Int) (formula formula' : String) (faces : Faces) (o : Outcome) : Prop where
  rolled : Numeral.Fits (o.total + n).natAbs →
    ∃ o', (evaluate formula' faces).1 = .ok o' ∧ o'.total = o.total + n ∧ o'.dice = o.dice
  refused : ¬ Numeral.Fits (o.total + n).natAbs →
    (evaluate formula' faces).1 = .error (.numeral .tooLargeToWrite)

variable {n : Int} {e e' : Expr}

theorem Rolls.shifts {ls : List Lot} {m m' : Int} (h : Rolls .plus e ls m)
    (h' : Rolls .plus e' ls m') : Shifts (m' - m) e e' where
  sides := h.sides
  sides' := h'.sides
  count := h'.count.trans h.count.symm
  total f := by
    have htotal : (e.shown f).total = _ := h.total f
    have htotal' : (e'.shown f).total = _ := h'.total f
    omega
  faces f := (h'.faces f).trans (h.faces f).symm

theorem Shifts.twice (h : Shifts n e e') (k : Keep) : Shifts n (e.twice k) (e'.twice k) := by
  have hbeats (a b : Int) : k.beats (a + n) (b + n) = k.beats a b := by
    cases k <;> simp [Keep.beats]
  have hkept (f : Faces) : e'.keptFrom k f = e.keptFrom k f := by
    rw [Expr.keptFrom, Expr.keptFrom, h.count, h.total, h.total, hbeats]
  refine ⟨hasSides_twice h.sides, hasSides_twice h.sides', ?_, fun f => ?_, fun f => ?_⟩
  · simp only [Expr.twice, Expr.diceCount, Expr.membersCount, h.count]
  · rw [total_twice, total_twice, hkept, h.total]
  · rw [keptFaces_twice, keptFaces_twice, hkept, h.faces]

theorem Shifts.raises (h : Shifts n e e') {formula formula' : String}
    (hread : readFormula formula = .ok e) (hread' : readFormula formula' = .ok e') {faces : Faces}
    {o : Outcome} (ho : (evaluate formula faces).1 = .ok o) :
    Raises n formula formula' faces o := by
  have hcount : e'.diceCount ≤ diceLimit := by
    rw [h.count]
    by_contra hbeyond
    rw [evaluate_beyond hread h.sides (Nat.lt_of_not_le hbeyond)] at ho
    cases ho
  have htotal : o.total = (e.shown faces).total := by
    rw [eq_ofNode_of_evaluate hread h.sides ho]
    rfl
  have heval := evaluate_within hread' h.sides' hcount faces
  rw [h.total, ← htotal] at heval
  refine ⟨fun hfits => ?_, fun hfits => ?_⟩
  · rw [Numeral.write_of_fits hfits] at heval
    refine ⟨_, heval, htotal ▸ h.total faces, ?_⟩
    rw [dice_ofNode, h.faces, eq_ofNode_of_evaluate hread h.sides ho, dice_ofNode]
  · rwa [Numeral.write_of_not_fits hfits] at heval

end Dice

namespace Pool

open Dice (Expr Faces Keep Lot Outcome Shifts Raises evaluate)

namespace Part

variable {ps qs : List Part}

theorem shifts_checkExpr {k : Option Keep} (hps : ∀ p ∈ checkParts ps k, p.Canonical)
    (hqs : ∀ q ∈ checkParts qs k, q.Canonical)
    (hdice : ∀ size, netDice qs size = netDice ps size)
    (hleft : k = none → merged (d20 :: ps) ≠ [] ∧ merged (d20 :: qs) ≠ []) :
    Shifts (total qs - total ps) (checkExpr ps k) (checkExpr qs k) := by
  cases k with
  | none =>
    have hall (size : Nat) : netDice (d20 :: qs) size = netDice (d20 :: ps) size := by
      rw [netDice_d20, netDice_d20, hdice]
    have hrolled {ps : List Part} (hps : ∀ p ∈ checkParts ps none, p.Canonical)
        (hleft : merged (d20 :: ps) ≠ []) : Dice.Rolls .plus (checkExpr ps none)
          ((Tally.ofParts (d20 :: ps)).left.map fun e => ⟨"", e.1, e.2⟩) (total ps) := by
      have hparts : checkParts ps none = merged (d20 :: ps) := if_neg hleft
      have hrolls := rolls_sum "" hps
      rwa [hparts, lots_merged, ← total, total_merged, total_d20, ← hparts] at hrolls
    have hrolls := hrolled hqs (hleft rfl).2
    rw [left_congr hall] at hrolls
    exact (hrolled hps (hleft rfl).1).shifts hrolls
  | some k =>
    have hrolls := Throw.rolls_twice k hps
    have hrolls' := Throw.rolls_twice k hqs
    rw [lotsLeft, left_congr hdice, ← lotsLeft] at hrolls'
    refine ⟨hrolls.sides, hrolls'.sides, hrolls'.count.trans hrolls.count.symm, fun f => ?_,
      fun f => (hrolls'.faces f).trans (hrolls.faces f).symm⟩
    rw [hrolls.total, hrolls'.total]
    omega

end Part

theorem LotBefore.ne {baseType : String} {a b : Lot} (h : LotBefore baseType a b) : a ≠ b := by
  rintro rfl
  obtain h | ⟨-, h⟩ := h
  · exact h.ne rfl
  · exact Nat.lt_irrefl _ h

theorem LotBefore.asymm {baseType : String} {a b : Lot} (h : LotBefore baseType a b) :
    ¬ LotBefore baseType b a := by
  obtain h | ⟨htype, hsize⟩ := h
  · rintro (h' | ⟨htype, -⟩)
    · exact (h.trans h').ne rfl
    · exact h.ne htype.symm
  · rintro (h | ⟨-, h⟩)
    · exact h.ne htype.symm
    · exact Nat.lt_asymm hsize h

theorem Leaves.unique {baseType : String} {ts us : List Term} {ls ms : List Lot}
    (h : Leaves baseType ts ls) (h' : Leaves baseType us ms)
    (hdice : ∀ k size, netDice us k size = netDice ts k size) : ls = ms := by
  refine List.Perm.eq_of_pairwise (fun _ _ _ _ hab hba => absurd hba hab.asymm) h.ordered h'.ordered
    ((List.perm_ext_iff_of_nodup (h.ordered.imp LotBefore.ne) (h'.ordered.imp LotBefore.ne)).mpr
      fun l => ?_)
  rw [h.mem, h'.mem, hdice]

theorem total_shares_eq (baseType : String) {ts : List Term} (hts : ∀ t ∈ ts, t.Sound) :
    ((shares baseType ts).map fun s => Part.total s.parts).sum = (ts.map Term.constant).sum := by
  have hkeys : ∀ t ∈ ts, t.damageType ∈ (groupTerms baseType ts).map (·.1) := by
    intro t ht
    obtain ⟨g, hg, htype⟩ := exists_mem_groupTerms (Term.damageType_ne_empty hts) ht
    exact List.mem_map.mpr ⟨g, hg, htype⟩
  rw [total_shares baseType hts, ← sum_by_key (·.damageType) Term.constant
    (nodup_groupTerms baseType ts) hkeys, List.map_map]
  rfl

theorem shifts_selectedExpr {ss ts : List Share} {n : Int} (k : Option Keep)
    (h : Shifts n (formulaExpr ss) (formulaExpr ts)) :
    Shifts n (selectedExpr k ss) (selectedExpr k ts) := by
  cases k with
  | none => exact h
  | some k =>
    -- nothing is not rolled twice, and comes to the same as if it were
    have hsame {ss : List Share} (hsides : ((formulaExpr ss).twice k).HasSides) :
        Shifts 0 ((formulaExpr ss).twice k) (selectedExpr (some k) ss) := by
      cases ss with
      | nil =>
        refine ⟨hsides, trivial, rfl, fun f => ?_, fun f => ?_⟩
        · rw [Dice.total_twice]
          rfl
        · rw [Dice.keptFaces_twice]
          rfl
      | cons s ss => exact ⟨hsides, hsides, rfl, fun f => (Int.add_zero _).symm, fun f => rfl⟩
    have htwice := h.twice k
    have hss := hsame htwice.sides
    have hts := hsame htwice.sides'
    refine ⟨hss.sides', hts.sides', ?_, fun f => ?_, fun f => ?_⟩
    · rw [hts.count, htwice.count, hss.count]
    · rw [hts.total, htwice.total, hss.total, Int.add_zero, Int.add_zero]
    · rw [hts.faces, htwice.faces, hss.faces]

/-- Terms with the same dice make up shares that differ by their numbers. -/
theorem shifts_shares {baseType : String} {ts us : List Term} (k : Option Keep)
    (hts : ∀ t ∈ ts, t.Sound) (hus : ∀ u ∈ us, u.Sound)
    (hdice : ∀ damageType size, netDice us damageType size = netDice ts damageType size)
    (hss : ∀ s ∈ shares baseType ts, s.Sound) (hss' : ∀ s ∈ shares baseType us, s.Sound) :
    Shifts ((us.map Term.constant).sum - (ts.map Term.constant).sum)
      (selectedExpr k (shares baseType ts)) (selectedExpr k (shares baseType us)) := by
  have hlots : (shares baseType us).flatMap Share.lots = (shares baseType ts).flatMap Share.lots :=
    ((leaves_leftLots baseType hts).unique (leaves_leftLots baseType hus) hdice).symm
  have hrolls := rolls_formulaExpr hss
  have hrolls' := rolls_formulaExpr hss'
  rw [total_shares_eq baseType hts] at hrolls
  rw [total_shares_eq baseType hus, hlots] at hrolls'
  exact shifts_selectedExpr k (hrolls.shifts hrolls')

namespace Term

def IsNumber (t : Term) : Prop := ∃ n, t.Writes ⟨n, none⟩

variable {t : Term}

theorem IsNumber.writes (h : t.IsNumber) : ∃ p, t.Writes p :=
  h.imp' (fun n => ⟨n, none⟩) fun _ hn => hn

theorem IsNumber.diceOf (h : t.IsNumber) (size : Nat) : t.diceOf size = 0 := by
  obtain ⟨n, hn⟩ := h
  exact (diceOf_of_writes hn size).trans (if_neg nofun)

theorem IsNumber.kind (h : t.IsNumber) : t.kind = .number := by
  obtain ⟨n, hn⟩ := h
  exact hn.kind

theorem IsNumber.value (h : t.IsNumber) : t.value = .ok t.constant := by
  obtain ⟨n, hn⟩ := h
  rw [value_of_writes hn, constant_of_writes hn]

theorem IsNumber.doubleDice (h : t.IsNumber) : doubleDice t = .ok t := by
  obtain ⟨n, hn⟩ := h
  have hform : t.isSimpleDice = false := by
    rw [Term.isSimpleDice, Term.diceForm?_of_writes hn]
    rfl
  rw [Pool.doubleDice, hform]
  rfl

end Term

section Numbers

variable {us : List Term}

theorem netCount_numbers (hus : ∀ u ∈ us, u.IsNumber) (ts : List Term) (size : Nat) :
    netCount (us ++ ts) size = netCount ts size := by
  have hzero : us.map (fun u => u.diceOf size) = us.map fun _ => 0 :=
    List.map_congr_left fun u hu => (hus u hu).diceOf size
  rw [netCount, List.map_append, List.sum_append, hzero]
  simp [netCount]

theorem netDice_numbers (hus : ∀ u ∈ us, u.IsNumber) (ts : List Term) (damageType : String)
    (size : Nat) : netDice (us ++ ts) damageType size = netDice ts damageType size := by
  rw [netDice, ofType, List.filter_append]
  exact netCount_numbers (fun u hu => hus u (List.mem_of_mem_filter hu)) _ size

theorem constant_numbers (us ts : List Term) :
    ((us ++ ts).map Term.constant).sum - (ts.map Term.constant).sum =
      (us.map Term.constant).sum := by
  rw [List.map_append, List.sum_append, Int.add_sub_cancel]

end Numbers

/-- Terms whose formula is read as it was made. Damage types do not break it up, and something is
left of a check, unless it throws its base die twice. -/
structure Legible (a : Action) (k : Option Keep) (terms : List Term) : Prop where
  types : a = .damage → ∀ t ∈ terms,
    Share.Plain t.damageType ∧ (k ≠ none → ')' ∉ t.damageType.toList)
  left : a ≠ .damage → k = none → (∃ size, netCount terms size ≠ 0) ∨ numberSum terms ≠ 0

theorem Legible.perm {a : Action} {k : Option Keep} {ts us : List Term} (hts : Legible a k ts)
    (h : ts.Perm us) : Legible a k us where
  types ha t ht := hts.types ha t (h.mem_iff.mpr ht)
  left ha hk := by
    obtain ⟨size, hsize⟩ | hnumbers := hts.left ha hk
    · exact .inl ⟨size, fun hzero => hsize ((h.map _).sum_eq.trans hzero)⟩
    · exact .inr fun hzero => hnumbers ((h.map _).sum_eq.trans hzero)

theorem Legible.merged_ne_nil {a : Action} (ha : a ≠ .damage) {ts : List Term}
    (h : Legible a none (checkDie a none :: ts)) (hts : ∀ t ∈ ts, ∃ p, t.Writes p) :
    Part.merged (d20 :: ts.map Term.part) ≠ [] := by
  intro hnil
  have hwrites : ∀ t ∈ checkDie a none :: ts, ∃ p, t.Writes p :=
    List.forall_mem_cons.mpr ⟨⟨d20, writes_baseDie a⟩, hts⟩
  have hparts : (checkDie a none :: ts).map Term.part = d20 :: ts.map Term.part := by
    rw [List.map_cons, checkDie, Term.part_of_writes (writes_baseDie a)]
  rw [← hparts, Part.merged_eq_nil_iff] at hnil
  obtain ⟨size, hsize⟩ | hnumbers := h.left ha rfl
  · exact hsize ((netDice_parts hwrites size).symm.trans (hnil.1 size))
  · exact hnumbers ((total_parts hwrites).symm.trans hnil.2)

namespace Builder

variable {b : Builder} {k : Option Keep} {ts us : List Term} {formula formula' : String}

theorem readFormula_damage (hsolid : Text.Solid b.baseType)
    (hnormal : Text.IsNormal b.baseType.toList) (hts : ∀ t ∈ ts, b.Makes t)
    (hlegible : Legible .damage k ts) (h : damageFormula b.baseType ts = .ok formula) :
    (∀ s ∈ shares b.baseType ts, s.Sound) ∧
      Dice.readFormula (selected (k.map fun k => String.ofList k.selector) formula) =
        .ok (selectedExpr k (shares b.baseType ts)) := by
  have hplain := hlegible.types rfl
  have hsounds : ∀ t ∈ ts, t.Sound := fun t ht => (hts t ht).sound hsolid
  obtain ⟨hsound, rfl⟩ := damageFormula_eq_ok hsounds (fun t ht => (hplain t ht).1) h
  refine ⟨hsound, ?_⟩
  cases k with
  | none => exact readFormula_shares hsound
  | some k =>
    refine readFormula_selected (k := some k) fun s hs => ?_
    obtain ⟨⟨t, ht, htype⟩, -⟩ := of_mem_shares hsounds hs
    exact ⟨hsound s hs, htype ▸ (hts t ht).isNormal hnormal,
      htype ▸ (hplain t ht).2 (Option.some_ne_none k)⟩

theorem raises_damage (hsolid : Text.Solid b.baseType)
    (hnormal : Text.IsNormal b.baseType.toList) (hts : ∀ t ∈ us ++ ts, b.Makes t)
    (hus : ∀ u ∈ us, u.IsNumber) (hbefore : Legible .damage k ts)
    (hlegible : Legible .damage k (us ++ ts)) (h : damageFormula b.baseType ts = .ok formula)
    (h' : damageFormula b.baseType (us ++ ts) = .ok formula') {faces : Faces} {o : Outcome}
    (ho : (evaluate (selected (k.map fun k => String.ofList k.selector) formula) faces).1 =
      .ok o) :
    Raises (us.map Term.constant).sum (selected (k.map fun k => String.ofList k.selector) formula)
      (selected (k.map fun k => String.ofList k.selector) formula') faces o := by
  have hmem : ∀ t ∈ ts, t ∈ us ++ ts := fun t => List.mem_append_right us
  obtain ⟨hss, hread⟩ :=
    readFormula_damage hsolid hnormal (fun t ht => hts t (hmem t ht)) hbefore h
  obtain ⟨hss', hread'⟩ := readFormula_damage hsolid hnormal hts hlegible h'
  have hshifts := shifts_shares k (fun t ht => (hts t (hmem t ht)).sound hsolid)
    (fun t ht => (hts t ht).sound hsolid) (netDice_numbers hus ts) hss hss'
  rw [constant_numbers] at hshifts
  exact hshifts.raises hread hread' ho

end Builder

theorem raises_check {a : Action} {k : Option Keep} (ha : a ≠ .damage) {ts us : List Term}
    (hts : ∀ t ∈ us ++ ts, ∃ p, t.Writes p) (hus : ∀ u ∈ us, u.IsNumber)
    (hbefore : Legible a k (checkDie a k :: ts))
    (hlegible : Legible a k (checkDie a k :: (us ++ ts))) {formula formula' : String}
    (h : checkFormula (checkDie a k :: ts) = .ok formula)
    (h' : checkFormula (checkDie a k :: (us ++ ts)) = .ok formula') {faces : Faces} {o : Outcome}
    (ho : (evaluate formula faces).1 = .ok o) :
    Raises (us.map Term.constant).sum formula formula' faces o := by
  have hts' : ∀ t ∈ ts, ∃ p, t.Writes p := fun t ht => hts t (List.mem_append_right us ht)
  obtain ⟨hps, hread⟩ := Part.readFormula_check hts' h
  obtain ⟨hps', hread'⟩ := Part.readFormula_check hts h'
  have hdice (size : Nat) : Part.netDice ((us ++ ts).map Term.part) size =
      Part.netDice (ts.map Term.part) size := by
    rw [netDice_parts hts, netDice_parts hts']
    exact netCount_numbers hus ts size
  have hshifts := Part.shifts_checkExpr hps hps' hdice fun hk => by
    subst hk
    exact ⟨hbefore.merged_ne_nil ha hts', hlegible.merged_ne_nil ha hts⟩
  rw [total_parts hts, total_parts hts', constant_numbers] at hshifts
  exact hshifts.raises hread hread' ho

end Pool
end Encounter
