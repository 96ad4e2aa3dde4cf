import Encounter.Proofs.Pool.Check
import Encounter.Proofs.Pool.Combined

namespace Encounter

theorem Result.exists_mapM_of_perm {α β : Type} {f : α → Result β} {xs ys : List α}
    (h : xs.Perm ys) {us : List β} (hus : xs.mapM f = .ok us) :
    ∃ vs, ys.mapM f = .ok vs ∧ us.Perm vs := by
  induction h generalizing us with
  | nil => exact ⟨us, hus, .refl us⟩
  | cons x _ ih =>
    rw [List.mapM_cons] at hus
    obtain ⟨u, hu, hus⟩ := bind_eq_ok hus
    obtain ⟨us, hrest, hus⟩ := bind_eq_ok hus
    cases hus
    obtain ⟨vs, hvs, hperm⟩ := ih hrest
    refine ⟨u :: vs, ?_, hperm.cons u⟩
    rw [List.mapM_cons, hu, hvs]
    rfl
  | swap x y xs =>
    rw [List.mapM_cons, List.mapM_cons] at hus
    obtain ⟨v, hv, hus⟩ := bind_eq_ok hus
    obtain ⟨us, hrest, hus⟩ := bind_eq_ok hus
    obtain ⟨u, hu, hrest⟩ := bind_eq_ok hrest
    obtain ⟨ws, hws, hrest⟩ := bind_eq_ok hrest
    cases hrest
    cases hus
    refine ⟨u :: v :: ws, ?_, .swap u v ws⟩
    rw [List.mapM_cons, List.mapM_cons, hu, hv, hws]
    rfl
  | trans _ _ ih ih' =>
    obtain ⟨vs, hvs, hperm⟩ := ih hus
    obtain ⟨ws, hws, hperm'⟩ := ih' hvs
    exact ⟨ws, hws, hperm.trans hperm'⟩

namespace Pool

open Dice (Keep)

theorem Tally.parts_congr {t u : Tally} (hverbatim : t.verbatim = u.verbatim)
    (hleft : t.left = u.left) (hconstant : t.constant = u.constant) : t.parts = u.parts := by
  change (t.left.mapM writeDice >>= _) = (u.left.mapM writeDice >>= _)
  rw [hverbatim, hleft, hconstant]

namespace Part

variable {ps qs : List Part}

theorem combine_congr {es es' vs : List String} (h : ps.Perm qs)
    (hes : Tally.ofElements es = .ok { Tally.ofParts ps with verbatim := vs })
    (hes' : Tally.ofElements es' = .ok { Tally.ofParts qs with verbatim := vs }) :
    combine es = combine es' := by
  have hdice (size : Nat) : netDice ps size = netDice qs size := (h.map _).sum_eq
  have htotal : total ps = total qs := (h.map _).sum_eq
  have hconstant : (Tally.ofParts ps).constant = (Tally.ofParts qs).constant := by
    rw [(Tally.merges_ofParts ps).constant, (Tally.merges_ofParts qs).constant, htotal]
  have hparts : Tally.parts { Tally.ofParts ps with verbatim := vs } =
      Tally.parts { Tally.ofParts qs with verbatim := vs } :=
    Tally.parts_congr rfl (left_congr hdice) hconstant
  rw [combine, combine, hes, hes']
  change (Tally.parts _ >>= _) = (Tally.parts _ >>= _)
  rw [hparts]

theorem ofElements_canonical (hps : ∀ p ∈ ps, p.Canonical) :
    Tally.ofElements (ps.map text) = .ok { Tally.ofParts ps with verbatim := [] } := by
  rw [Tally.ofElements_text hps, ← (Tally.merges_ofParts ps).verbatim]

theorem combine_perm (h : ps.Perm qs) (hps : ∀ p ∈ ps, p.Canonical) :
    combine (ps.map text) = combine (qs.map text) :=
  combine_congr h (ofElements_canonical hps)
    (ofElements_canonical fun q hq => hps q (h.mem_iff.mpr hq))

theorem combine_verbatim_perm {v : String} (hv : Element.read v = .ok (.verbatim v))
    (h : ps.Perm qs) (hps : ∀ p ∈ ps, p.Canonical) :
    combine (v :: ps.map text) = combine (v :: qs.map text) :=
  combine_congr h (Tally.ofElements_verbatim hv hps)
    (Tally.ofElements_verbatim hv fun q hq => hps q (h.mem_iff.mpr hq))

end Part

section Terms

variable {ts us : List Term}

theorem combine_elements_perm (h : ts.Perm us) (hts : ∀ t ∈ ts, ∃ p, t.Writes p) :
    combine (ts.map (·.element)) = combine (us.map (·.element)) := by
  rw [elements_eq hts, elements_eq fun u hu => hts u (h.mem_iff.mpr hu)]
  exact Part.combine_perm (h.map _) (canonical_parts hts)

theorem checkFormula_perm (a : Action) (k : Option Keep) (h : ts.Perm us)
    (hts : ∀ t ∈ ts, ∃ p, t.Writes p) :
    checkFormula (checkDie a k :: ts) = checkFormula (checkDie a k :: us) := by
  have hcombine : combine ((checkDie a k :: ts).map (·.element)) =
      combine ((checkDie a k :: us).map (·.element)) := by
    cases k with
    | none =>
      exact combine_elements_perm (h.cons _)
        (List.forall_mem_cons.mpr ⟨⟨d20, writes_baseDie a⟩, hts⟩)
    | some k =>
      rw [List.map_cons, List.map_cons, elements_eq hts,
        elements_eq fun u hu => hts u (h.mem_iff.mpr hu)]
      exact Part.combine_verbatim_perm (Part.read_callTwice k) (h.map _) (canonical_parts hts)
  rw [checkFormula, checkFormula, hcombine]

theorem groupedAs_perm (baseType k : String) (h : ts.Perm us) :
    (groupedAs baseType k ts).Perm (groupedAs baseType k us) := h.filter _

theorem types_groupTerms_perm (baseType : String) (h : ts.Perm us) :
    (groupTerms baseType ts).map (·.1) = (groupTerms baseType us).map (·.1) :=
  types_groupTerms_congr fun k => by
    rw [← List.length_eq_zero_iff, (groupedAs_perm baseType k h).length_eq, List.length_eq_zero_iff]

def typeText (baseType : String) (terms : List Term) (k : String) : Result (List String) :=
  groupText (k, (groupedAs baseType k terms).map (·.element))

theorem mapM_groupText (baseType : String) (terms : List Term) :
    (groupTerms baseType terms).mapM groupText =
      ((groupTerms baseType terms).map (·.1)).mapM (typeText baseType terms) := by
  rw [List.mapM_map]
  refine Result.mapM_congr fun g hg => ?_
  rw [Function.comp_apply, typeText, ← (grouped_of_mem hg).2]

theorem typeText_perm (baseType : String) (h : ts.Perm us) (hts : ∀ t ∈ ts, ∃ p, t.Writes p)
    (k : String) : typeText baseType ts k = typeText baseType us k := by
  have hcombine := combine_elements_perm (groupedAs_perm baseType k h) fun t ht =>
    hts t (List.mem_of_mem_filter ht)
  rw [typeText, typeText, groupText, groupText, hcombine]

theorem damageFormula_perm (baseType : String) (h : ts.Perm us)
    (hts : ∀ t ∈ ts, ∃ p, t.Writes p) : damageFormula baseType ts = damageFormula baseType us := by
  rw [damageFormula, damageFormula, mapM_groupText, mapM_groupText,
    types_groupTerms_perm baseType h, Result.mapM_congr fun k _ => typeText_perm baseType h hts k]

end Terms

namespace Builder

variable {b : Builder} {r : Request} {p : DicePool} {ts us : List Term}

/-- The terms of a pool, as they are made of those that were asked for and added. -/
def finished (r : Request) (ts : List Term) : Result (List Term) := do
  let doubled ← doubledIf (r.critical && r.action == .damage) (seeded r.action ts)
  thrown (selector? r.advantage r.disadvantage) r.action doubled

theorem finished_check (hr : r.action.usesD20 = true) (ts : List Term) :
    finished r ts = .ok (checkDie r.action (keep? r.advantage r.disadvantage) :: ts) := by
  have hdamage : (r.action == .damage) = false := by simpa [Action.usesD20] using hr
  rw [finished, hdamage, Bool.and_false, seeded, if_pos hr]
  exact thrown_baseDie hr r.advantage r.disadvantage ts

theorem finished_damage (hr : r.action = .damage) (ts : List Term) :
    finished r ts = doubledIf r.critical ts := by
  have hthrown (us : List Term) :
      thrown (selector? r.advantage r.disadvantage) .damage us = .ok us := by
    cases selector? r.advantage r.disadvantage <;> rfl
  rw [finished, hr, beq_self_eq_true, Bool.and_true]
  change (doubledIf r.critical ts >>= _) = _
  simp only [hthrown]
  exact bind_pure _

theorem doubledIf_perm {critical : Bool} {ts' : List Term} (h : ts.Perm ts')
    (hts : doubledIf critical ts = .ok us) :
    ∃ us', doubledIf critical ts' = .ok us' ∧ us.Perm us' := by
  cases critical with
  | true => exact Result.exists_mapM_of_perm h hts
  | false =>
    cases hts
    exact ⟨ts', rfl, h⟩

/-- Terms in another order come out as the same terms in another order, with the same formula. -/
theorem finished_perm {ts' : List Term} (h : ts.Perm ts') (hts : ∀ t ∈ ts, ∃ p, t.Writes p)
    (hus : finished r ts = .ok us) : ∃ us', finished r ts' = .ok us' ∧ us.Perm us' ∧
      b.formula r.action (selector? r.advantage r.disadvantage) us' =
        b.formula r.action (selector? r.advantage r.disadvantage) us := by
  by_cases hr : r.action = .damage
  · rw [finished_damage hr] at hus
    obtain ⟨us', hus', hperm⟩ := doubledIf_perm h hus
    have hwrites := doubledIf_forall (fun _ _ ht htu => (doubleDice_writes ht htu).1) hus hts
    refine ⟨us', (finished_damage hr ts').trans hus', hperm, ?_⟩
    rw [hr]
    simp only [formula, beq_self_eq_true, if_true, damageFormula_perm b.baseType hperm hwrites]
  · have hcheck : r.action.usesD20 = true := bne_iff_ne.mpr hr
    rw [finished_check hcheck] at hus
    cases hus
    refine ⟨_, finished_check hcheck ts', h.cons _, ?_⟩
    rw [formula, formula, if_neg (by simpa using hr), if_neg (by simpa using hr),
      checkFormula_perm r.action _ h hts]

theorem build_eq_finished (b : Builder) (r : Request) : b.build r = (do
    let asked ← b.allTerms r.action r.modifiers
    let (added, features) ← b.contributions r
    let terms ← finished r (asked ++ added)
    let formula ← b.formula r.action (selector? r.advantage r.disadvantage) terms
    return ⟨r.action, terms, formula, r.advantage, r.disadvantage,
      r.critical && r.action == .damage, features⟩) := by
  have hseeded (ts us : List Term) : seeded r.action ts ++ us = seeded r.action (ts ++ us) := by
    unfold seeded
    split <;> rfl
  rw [build_eq]
  simp only [finished, bind_assoc, hseeded]

theorem build_of_finished {asked added terms : List Term} {features : List String}
    (hasked : b.allTerms r.action r.modifiers = .ok asked)
    (hadded : b.contributions r = .ok (added, features))
    (hterms : finished r (asked ++ added) = .ok terms) : b.build r = (do
      let formula ← b.formula r.action (selector? r.advantage r.disadvantage) terms
      return ⟨r.action, terms, formula, r.advantage, r.disadvantage,
        r.critical && r.action == .damage, features⟩) := by
  rw [build_eq_finished, hasked]
  change (b.contributions r >>= _) = _
  rw [hadded]
  change (finished r (asked ++ added) >>= _) = _
  rw [hterms]
  rfl

theorem allTerms_perm {a : Action} {ms ms' : List Modifier} (h : ms.Perm ms')
    (hts : b.allTerms a ms = .ok ts) : ∃ ts', b.allTerms a ms' = .ok ts' ∧ ts.Perm ts' := by
  obtain ⟨tss, htss, hts⟩ := Result.bind_eq_ok hts
  cases hts
  obtain ⟨tss', htss', hperm⟩ := Result.exists_mapM_of_perm h htss
  refine ⟨tss'.flatten, ?_, hperm.flatten⟩
  rw [allTerms, htss']
  rfl

theorem exists_build_of_perm {ms : List Modifier} (h : r.modifiers.Perm ms)
    (hp : b.build r = .ok p) : ∃ terms, b.build { r with modifiers := ms } =
      .ok { p with terms } ∧ p.terms.Perm terms := by
  rw [build_eq_finished] at hp
  obtain ⟨asked, hasked, hp⟩ := Result.bind_eq_ok hp
  obtain ⟨⟨added, features⟩, hadded, hp⟩ := Result.bind_eq_ok hp
  obtain ⟨terms, hterms, hp⟩ := Result.bind_eq_ok hp
  obtain ⟨formula, hformula, hp⟩ := Result.bind_eq_ok hp
  cases hp
  have hwrites : ∀ t ∈ asked ++ added, ∃ q, t.Writes q :=
    gathered_forall (fun _ _ => modifierTerms_writes) hasked hadded
  obtain ⟨asked', hasked', hperm⟩ := allTerms_perm h hasked
  obtain ⟨terms', hterms', hperm', hsame⟩ :=
    finished_perm (b := b) (hperm.append_right added) hwrites hterms
  refine ⟨terms', ?_, hperm'⟩
  rw [build_of_finished (r := { r with modifiers := ms }) hasked' hadded hterms']
  change (b.formula r.action (selector? r.advantage r.disadvantage) terms' >>= _) = _
  rw [hsame, hformula]
  rfl

/-- The order of the modifiers is that of their terms. A pool is built in every order or in none,
and its formula is the same. -/
theorem build_perm (b : Builder) (r : Request) {ms : List Modifier} (h : r.modifiers.Perm ms) :
    (∃ p q, b.build r = .ok p ∧ b.build { r with modifiers := ms } = .ok q ∧
      p.formula = q.formula ∧ p.features = q.features ∧ p.terms.Perm q.terms) ∨
    ∃ e e', b.build r = .error e ∧ b.build { r with modifiers := ms } = .error e' := by
  cases hp : b.build r with
  | ok p =>
    obtain ⟨terms, hq, hperm⟩ := exists_build_of_perm h hp
    exact .inl ⟨p, _, rfl, hq, rfl, rfl, hperm⟩
  | error e =>
    cases hq : b.build { r with modifiers := ms } with
    | ok q =>
      obtain ⟨terms, hp', -⟩ := exists_build_of_perm (r := { r with modifiers := ms }) h.symm hq
      exact absurd (hp.symm.trans hp') nofun
    | error e' => exact .inr ⟨e, e', rfl, rfl⟩

/-- Critical damage of two types, from the last modifier to the first. -/
theorem build_perm_flames : ∃ q,
    (make none "kinetic").build { flames with modifiers := flames.modifiers.reverse } = .ok q ∧
      q.formula = flamePool.formula ∧ flamePool.terms.Perm q.terms := by
  have hbuild : (make none "kinetic").build flames = .ok flamePool :=
    Result.eq_ok_of_toOption (by decide +kernel)
  obtain ⟨p, q, hp, hq, hformula, -, hperm⟩ | ⟨e, -, he, -⟩ :=
    build_perm (make none "kinetic") flames (List.reverse_perm flames.modifiers).symm
  · obtain rfl := Except.ok.inj (hbuild.symm.trans hp)
    exact ⟨q, hq, hformula.symm, hperm⟩
  · cases hbuild.symm.trans he

end Builder
end Pool
end Encounter
