import Encounter.Proofs.Pool.Addends
import Encounter.Proofs.Pool.Permuted
import Encounter.Proofs.Pool.Raised

namespace Encounter.Pool

open Dice (Addend Faces IsSignedSum Keep Outcome Raises evaluate)

theorem write_eq_error {n : Int} {e : Failure}
    (h : Result.ofNumeral (Numeral.write n) = .error e) : e = .numeral .tooLargeToWrite := by
  by_cases hfits : Numeral.Fits n.natAbs
  · rw [Numeral.write_of_fits hfits] at h
    cases h
  · rw [Numeral.write_of_not_fits hfits] at h
    cases h
    rfl

theorem Tally.parts_eq_error {t : Tally} {e : Failure} (h : t.parts = .error e) :
    e = .numeral .tooLargeToWrite := by
  obtain h | ⟨dice, -, h⟩ := Result.bind_eq_error h
  · obtain ⟨d, -, h⟩ := Result.exists_of_mapM_eq_error h
    obtain h | ⟨quantity, -, h⟩ := Result.bind_eq_error h
    · exact write_eq_error h
    · cases h
  · dsimp only at h
    split at h
    · cases h
    · obtain h | ⟨constant, -, h⟩ := Result.bind_eq_error h
      · exact write_eq_error (Result.map_eq_error h)
      · cases h

theorem combine_eq_error {es : List String} {t : Tally} (hread : Tally.ofElements es = .ok t)
    {e : Failure} (h : combine es = .error e) : e = .numeral .tooLargeToWrite := by
  rw [combine, hread] at h
  obtain h | ⟨parts, -, h⟩ := Result.bind_eq_error (x := t.parts) h
  · exact Tally.parts_eq_error h
  · cases h

section Refusals

variable {ts : List Term} {e : Failure}

theorem damageFormula_eq_error {baseType : String} (hts : ∀ t ∈ ts, ∃ p, t.Writes p)
    (h : damageFormula baseType ts = .error e) : e = .numeral .tooLargeToWrite := by
  obtain h | ⟨parts, -, h⟩ := Result.bind_eq_error h
  · rw [mapM_groupText] at h
    obtain ⟨k, -, h⟩ := Result.exists_of_mapM_eq_error h
    obtain h | ⟨combined, -, h⟩ := Result.bind_eq_error h
    · have hgrouped : ∀ t ∈ groupedAs baseType k ts, ∃ p, t.Writes p :=
        fun t ht => hts t (List.mem_of_mem_filter ht)
      rw [elements_eq hgrouped] at h
      exact combine_eq_error (Part.ofElements_canonical (canonical_parts hgrouped)) h
    · cases h
  · cases h

theorem checkFormula_eq_error {a : Action} {k : Option Keep} (hts : ∀ t ∈ ts, ∃ p, t.Writes p)
    (h : checkFormula (checkDie a k :: ts) = .error e) : e = .numeral .tooLargeToWrite := by
  obtain h | ⟨combined, -, h⟩ := Result.bind_eq_error h
  · rw [List.map_cons, elements_eq hts] at h
    cases k with
    | none =>
      exact combine_eq_error (Part.ofElements_canonical
        (List.forall_mem_cons.mpr ⟨canonical_d20, canonical_parts hts⟩)) h
    | some k =>
      exact combine_eq_error
        (Tally.ofElements_verbatim (Part.read_callTwice k) (canonical_parts hts)) h
  · cases h

end Refusals

namespace Builder

variable {b : Builder} {r : Request} {ts us : List Term}

theorem doubledIf_numbers {critical : Bool} {doubled : List Term} (hus : ∀ u ∈ us, u.IsNumber)
    (h : doubledIf critical ts = .ok doubled) :
    doubledIf critical (us ++ ts) = .ok (us ++ doubled) := by
  cases critical with
  | true =>
    have hsame : us.mapM doubleDice = .ok us := by
      rw [Result.mapM_eq_ok (g := id) fun u hu => (hus u hu).doubleDice, List.map_id]
    have hdoubled : ts.mapM doubleDice = .ok doubled := h
    change (us ++ ts).mapM doubleDice = _
    rw [List.mapM_append, hsame, hdoubled]
    rfl
  | false =>
    cases h
    rfl

/-- What numbers do to the terms of a pool and its formula, if that can be written with them. -/
structure Raised (b : Builder) (r : Request) (us terms : List Term) (formula : String)
    (raised : List Term) : Prop where
  writes : ∀ formula',
    b.formula r.action (selector? r.advantage r.disadvantage) raised = .ok formula' →
      Legible r.action (keep? r.advantage r.disadvantage) terms →
        Legible r.action (keep? r.advantage r.disadvantage) raised →
          ∀ faces o, (evaluate formula faces).1 = .ok o →
            Raises (us.map Term.constant).sum formula formula' faces o
  refused : ∀ e, b.formula r.action (selector? r.advantage r.disadvantage) raised = .error e →
    e = .numeral .tooLargeToWrite

theorem exists_raised (hsolid : Text.Solid b.baseType)
    (hnormal : Text.IsNormal b.baseType.toList) (hus : ∀ u ∈ us, u.IsNumber)
    (hwrites : ∀ t ∈ us ++ ts, ∃ p, t.Writes p)
    (hmakes : r.action = .damage → ∀ t ∈ us ++ ts, b.Makes t) {terms : List Term}
    (hterms : finished r ts = .ok terms) {formula : String}
    (hformula : b.formula r.action (selector? r.advantage r.disadvantage) terms = .ok formula) :
    ∃ raised, finished r (us ++ ts) = .ok raised ∧ Raised b r us terms formula raised := by
  by_cases hr : r.action = .damage
  · rw [finished_damage hr] at hterms
    have hdoubled := doubledIf_numbers hus hterms
    have hraised := doubledIf_makes hdoubled (hmakes hr)
    rw [hr] at hformula
    obtain ⟨damage, hdamage, hformula⟩ := Result.bind_eq_ok hformula
    cases hformula
    refine ⟨us ++ terms, (finished_damage hr _).trans hdoubled, ?_, ?_⟩
    · intro formula' hformula' hbefore hlegible faces o ho
      rw [hr] at hformula' hbefore hlegible
      obtain ⟨damage', hdamage', hformula'⟩ := Result.bind_eq_ok hformula'
      cases hformula'
      rw [selector?_eq] at ho ⊢
      exact raises_damage hsolid hnormal hraised hus hbefore hlegible hdamage hdamage' ho
    · intro e he
      rw [hr] at he
      obtain he | ⟨damage', -, he⟩ := Result.bind_eq_error he
      · exact damageFormula_eq_error (fun t ht => (hraised t ht).writes) he
      · cases he
  · have hcheck : r.action.usesD20 = true := bne_iff_ne.mpr hr
    have hformula_check (ts : List Term) :
        b.formula r.action (selector? r.advantage r.disadvantage) ts = checkFormula ts :=
      if_neg (by simpa using hr)
    rw [finished_check hcheck] at hterms
    cases hterms
    rw [hformula_check] at hformula
    refine ⟨_, finished_check hcheck _, ?_, ?_⟩
    · intro formula' hformula' hbefore hlegible faces o ho
      rw [hformula_check] at hformula'
      exact raises_check hr hwrites hus hbefore hlegible hformula hformula' ho
    · intro e he
      rw [hformula_check] at he
      exact checkFormula_eq_error hwrites he

/-- What a modifier that says a number does to every pool that it is added to, at any place. The
pool is built unless a sum in it is too long, and where the formulas are read as they were made,
what the pool is rolled to is raised by the number. -/
def RaisedBy (b : Builder) (m : Modifier) (n : Int) : Prop :=
  ∀ (r : Request) (p : DicePool) (ms : List Modifier), b.build r = .ok p →
    ms.Perm (m :: r.modifiers) →
      (∃ q, b.build { r with modifiers := ms } = .ok q ∧
        (Legible r.action (keep? r.advantage r.disadvantage) p.terms →
          Legible r.action (keep? r.advantage r.disadvantage) q.terms → ∀ faces o,
            (evaluate p.formula faces).1 = .ok o → Raises n p.formula q.formula faces o)) ∨
      b.build { r with modifiers := ms } = .error (.numeral .tooLargeToWrite)

theorem raisedBy_of_numbers (registry : Option Registry) (baseType : String) {m : Modifier}
    {n : Int} (hm : ∀ a, ∃ us, (make registry baseType).modifierTerms a m = .ok us ∧
      (∀ u ∈ us, u.IsNumber) ∧ (us.map Term.constant).sum = n) :
    (make registry baseType).RaisedBy m n := by
  have hsolid := solid_baseType registry baseType
  have hnormal := isNormal_baseType registry baseType
  generalize make registry baseType = b at hm hsolid hnormal ⊢
  intro r p ms hp hms
  obtain ⟨us, hus, hnumbers, rfl⟩ := hm r.action
  rw [build_eq_finished] at hp
  obtain ⟨asked, hasked, hp⟩ := Result.bind_eq_ok hp
  obtain ⟨⟨added, features⟩, hadded, hp⟩ := Result.bind_eq_ok hp
  obtain ⟨terms, hterms, hp⟩ := Result.bind_eq_ok hp
  obtain ⟨formula, hformula, hp⟩ := Result.bind_eq_ok hp
  cases hp
  have hwrites : ∀ t ∈ us ++ (asked ++ added), ∃ p, t.Writes p :=
    List.forall_mem_append.mpr ⟨modifierTerms_writes hus,
      gathered_forall (fun _ _ => modifierTerms_writes) hasked hadded⟩
  have hmakes (hr : r.action = .damage) : ∀ t ∈ us ++ (asked ++ added), b.Makes t :=
    List.forall_mem_append.mpr ⟨modifierTerms_makes (hr ▸ hus),
      gathered_forall (fun _ _ h => modifierTerms_makes (hr ▸ h)) hasked hadded⟩
  obtain ⟨raised, hraised, hraises⟩ :=
    exists_raised hsolid hnormal hnumbers hwrites hmakes hterms hformula
  rw [← List.append_assoc] at hraised hwrites
  -- the modifier may stand anywhere, and the formula is that of its terms in front
  have hcons : b.allTerms r.action (m :: r.modifiers) = .ok (us ++ asked) := by
    obtain ⟨tss, htss, hasked⟩ := Result.bind_eq_ok hasked
    cases hasked
    rw [allTerms, List.mapM_cons, hus, htss]
    rfl
  obtain ⟨asked', hasked', hperm⟩ := allTerms_perm hms.symm hcons
  obtain ⟨terms', hterms', hperm', hsame⟩ :=
    finished_perm (b := b) (hperm.append_right added) hwrites hraised
  have hbuild : b.build { r with modifiers := ms } = (do
      let formula ← b.formula r.action (selector? r.advantage r.disadvantage) raised
      return ⟨r.action, terms', formula, r.advantage, r.disadvantage,
        r.critical && r.action == .damage, features⟩) := by
    rw [build_of_finished (r := { r with modifiers := ms }) hasked' hadded hterms', ← hsame]
  rw [hbuild]
  cases hformula' : b.formula r.action (selector? r.advantage r.disadvantage) raised with
  | ok formula' =>
    exact .inl ⟨_, rfl, fun hbefore hlegible =>
      hraises.writes formula' hformula' hbefore (hlegible.perm hperm'.symm)⟩
  | error e =>
    rw [hraises.refused e hformula']
    exact .inr rfl

end Builder

theorem Origin.writes_number (o : Origin) {n : Int} (hne : n ≠ 0)
    (hfits : Numeral.Fits n.natAbs) : (o.number n).Writes ⟨n, none⟩ :=
  ⟨⟨hne, hfits, nofun, nofun⟩, (Part.text_number n).symm, rfl⟩

theorem exists_numbers_of_addUp {fragment : String} {n : Int}
    (h : AddUp (Text.squeeze fragment) n) (o : Origin) : ∃ ts, fragmentTerms o fragment = .ok ts ∧
      (∀ t ∈ ts, t.IsNumber) ∧ (ts.map Term.constant).sum = n := by
  obtain ⟨ns, hns, rfl, hterms⟩ := fragmentTerms_of_addUp o h
  have hwrites : ∀ m ∈ ns, (o.number m).Writes ⟨m, none⟩ :=
    fun m hm => o.writes_number (hns m hm).1 (hns m hm).2
  refine ⟨_, hterms, fun t ht => ?_, ?_⟩
  · obtain ⟨m, hm, rfl⟩ := List.mem_map.mp ht
    exact ⟨m, hwrites m hm⟩
  · have hconstants : ns.map (Term.constant ∘ o.number) = ns.map id :=
      List.map_congr_left fun m hm => by
        rw [Function.comp_apply, Term.constant_of_writes (hwrites m hm)]
        rfl
    rw [List.map_map, hconstants, List.map_id]

/-- A fragment that is a signed sum, as the roller and as a pool read it. For the roller each sign
of a run counts, and for a pool only the one next to the number, so that they agree just if the
numbers that are misread cancel. A modifier raises what a pool is rolled to by what the pool
reads. -/
theorem fragmentTerms_signedSum {fragment : String}
    (hchars : ∀ c ∈ fragment.toList, Dice.IsSumChar c) {faces : Faces} {o : Outcome}
    (h : (evaluate fragment faces).1 = .ok o) :
    ∃ as, IsSignedSum (Text.squeeze fragment) as ∧ o.total = (as.map Addend.denoted).sum ∧
      (∀ origin, ∃ ts ns, fragmentTerms origin fragment = .ok ts ∧
        (∀ t ∈ ts, t.kind = .number) ∧ ts.mapM Term.value = .ok ns ∧
        ns.sum = (as.map Addend.nearest).sum ∧
        (ns.sum = o.total ↔ ((as.filter Addend.misread).map Addend.denoted).sum = 0)) ∧
      ∀ registry baseType, ∀ m : Modifier, m.fragment = fragment → m.isEnabled = true →
        (Builder.make registry baseType).RaisedBy m (as.map Addend.nearest).sum := by
  obtain ⟨as, has, htotal⟩ := Dice.exists_signedSum hchars h
  have hnumbers := exists_numbers_of_addUp (addUp_of_isSignedSum has)
  refine ⟨as, has, htotal, fun origin => ?_, fun registry baseType m hm henabled => ?_⟩
  · obtain ⟨ts, hts, hnumber, hsum⟩ := hnumbers origin
    refine ⟨ts, ts.map Term.constant, hts, fun t ht => (hnumber t ht).kind,
      Result.mapM_eq_ok fun t ht => (hnumber t ht).value, hsum, ?_⟩
    rw [hsum, htotal]
    exact Addend.sum_nearest_eq_iff as
  · refine Builder.raisedBy_of_numbers registry baseType fun a => ?_
    rw [Builder.modifierTerms, if_pos henabled, hm]
    exact hnumbers _

def doubleMinus : Modifier := { fragment := "5--2" }

def plainAttack : DicePool := { action := .attack, terms := [baseDie .attack], formula := "1d20" }

def doubleMinusPool : DicePool where
  action := .attack
  terms := [baseDie .attack, ⟨"5", .number, "", "Unknown", none⟩,
    ⟨"-2", .number, "", "Unknown", none⟩]
  formula := "1d20+3"

theorem sumChars_doubleMinus : ∀ c ∈ doubleMinus.fragment.toList, Dice.IsSumChar c :=
  @of_decide_eq_true _ (List.decidableBAll Dice.IsSumChar doubleMinus.fragment.toList) rfl

theorem evaluate_doubleMinus : ∃ o,
    (evaluate doubleMinus.fragment (Faces.cycle #[10])).1 = .ok o ∧ o.total = 7 :=
  Result.exists_of_map_toOption (x := (evaluate doubleMinus.fragment (Faces.cycle #[10])).1)
    (f := (·.total)) (by decide +kernel)

theorem values_doubleMinus : ∃ ts, fragmentTerms {} doubleMinus.fragment = .ok ts ∧
    ts.mapM Term.value = .ok [5, -2] :=
  ⟨doubleMinusPool.terms.tail, Result.eq_ok_of_toOption (by decide +kernel),
    Result.eq_ok_of_toOption (by decide +kernel)⟩

/-- The pool is raised by what it reads, which is less than what the roller reads. -/
theorem fragmentTerms_signedSum_doubleMinus :
    (∀ c ∈ doubleMinus.fragment.toList, Dice.IsSumChar c) ∧
    ∃ o as, (evaluate doubleMinus.fragment (Faces.cycle #[10])).1 = .ok o ∧ o.total = 7 ∧
      IsSignedSum (Text.squeeze doubleMinus.fragment) as ∧ o.total = (as.map Addend.denoted).sum ∧
      (as.map Addend.nearest).sum = 3 ∧
      (Builder.make none "kinetic").build { action := .attack } = .ok plainAttack ∧
      (Builder.make none "kinetic").build { action := .attack, modifiers := [doubleMinus] } =
        .ok doubleMinusPool ∧
      ∀ faces o, (evaluate plainAttack.formula faces).1 = .ok o →
        Raises 3 plainAttack.formula doubleMinusPool.formula faces o := by
  have hchars := sumChars_doubleMinus
  obtain ⟨o, ho, htotal⟩ := evaluate_doubleMinus
  obtain ⟨ts, hts, hvalues⟩ := values_doubleMinus
  obtain ⟨as, has, hdenoted, hterms, hraised⟩ := fragmentTerms_signedSum hchars ho
  obtain ⟨ts', ns, hts', -, hns, hsum, -⟩ := hterms {}
  obtain rfl := Except.ok.inj (hts.symm.trans hts')
  obtain rfl := Except.ok.inj (hvalues.symm.trans hns)
  have hplain : (Builder.make none "kinetic").build { action := .attack } = .ok plainAttack :=
    Result.eq_ok_of_toOption (by decide +kernel)
  have hbuild : (Builder.make none "kinetic").build
      { action := .attack, modifiers := [doubleMinus] } = .ok doubleMinusPool :=
    Result.eq_ok_of_toOption (by decide +kernel)
  have hlegible {ts : List Term} (hdice : netCount ts 20 ≠ 0) : Legible .attack none ts :=
    ⟨nofun, fun _ _ => .inl ⟨20, hdice⟩⟩
  refine ⟨hchars, o, as, ho, htotal, has, hdenoted, hsum.symm, hplain, hbuild, ?_⟩
  obtain ⟨q, hq, hraises⟩ | herror :=
    hraised none "kinetic" doubleMinus rfl rfl { action := .attack } plainAttack [doubleMinus]
      hplain (.refl _)
  · obtain rfl := Except.ok.inj (hbuild.symm.trans hq)
    rw [← hsum] at hraises
    exact hraises (hlegible (by decide +kernel)) (hlegible (by decide +kernel))
  · cases hbuild.symm.trans herror

/-- Two minus signs make a plus for the roller. For a pool the first of them stands alone, and is
dropped. -/
theorem misread_doubleMinus : (∀ c ∈ doubleMinus.fragment.toList, Dice.IsSumChar c) ∧
    ∃ o ts ns, (evaluate doubleMinus.fragment (Faces.cycle #[10])).1 = .ok o ∧
      fragmentTerms {} doubleMinus.fragment = .ok ts ∧ ts.mapM Term.value = .ok ns ∧
      o.total = 7 ∧ ns.sum = 3 ∧ ns.sum ≠ o.total := by
  obtain ⟨o, ho, htotal⟩ := evaluate_doubleMinus
  obtain ⟨ts, hts, hvalues⟩ := values_doubleMinus
  refine ⟨sumChars_doubleMinus, o, ts, [5, -2], ho, hts, hvalues, htotal, rfl, ?_⟩
  rw [htotal]
  decide

end Encounter.Pool
