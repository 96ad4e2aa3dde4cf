import Encounter.Proofs.Pool.SumModifiers

namespace Encounter.Pool

namespace Part

variable {p : Part} {ps : List Part}

theorem constant_doubled (p : Part) : p.doubled.constant = p.constant := by
  obtain ⟨n, _ | size⟩ := p <;> rfl

theorem natAbs_le_doubled (p : Part) : p.net.natAbs ≤ p.doubled.net.natAbs := by
  obtain ⟨n, _ | size⟩ := p
  · exact Nat.le_refl _
  · change n.natAbs ≤ (2 * n).natAbs
    omega

theorem netDice_doubled (ps : List Part) (size : Nat) :
    netDice (ps.map doubled) size = 2 * netDice ps size := by
  induction ps with
  | nil => rfl
  | cons p ps ih =>
    have hp : (if p.doubled.size = some size then p.doubled.net else 0) =
        2 * if p.size = some size then p.net else 0 := by
      obtain ⟨n, _ | s⟩ := p
      · rfl
      · rw [size_doubled]
        split <;> rfl
    rw [netDice, netDice, List.map_map] at ih
    rw [netDice, netDice, List.map_map, List.map_cons, List.map_cons, List.sum_cons, List.sum_cons,
      ih, Function.comp_apply, hp, Int.mul_add]

theorem total_doubled (ps : List Part) : total (ps.map doubled) = total ps := by
  rw [total, total, List.map_map]
  exact congrArg List.sum (List.map_congr_left fun p _ => constant_doubled p)

theorem left_doubled (ps : List Part) : (Tally.ofParts (ps.map doubled)).left =
    (Tally.ofParts ps).left.map fun e => (e.1, 2 * e.2) := by
  refine (sorted_left _).eq_of_mem (List.pairwise_map.mpr (sorted_left ps)) fun e => ?_
  rw [mem_left, netDice_doubled, List.mem_map]
  constructor
  · rintro ⟨hnet, hne⟩
    have hleft : netDice ps e.1 ≠ 0 := by omega
    exact ⟨(e.1, netDice ps e.1), mem_left.mpr ⟨rfl, hleft⟩, Prod.ext rfl hnet.symm⟩
  · rintro ⟨d, hd, rfl⟩
    obtain ⟨hnet, hne⟩ := mem_left.mp hd
    exact ⟨congrArg (2 * ·) hnet, Int.mul_ne_zero (by decide) hne⟩

theorem merged_doubled (ps : List Part) : merged (ps.map doubled) = (merged ps).map doubled := by
  rw [merged, merged, left_doubled, total_doubled, List.map_append, List.map_map, List.map_map]
  split <;> rfl

end Part

namespace Share

def doubled (s : Share) : Share := ⟨s.damageType, s.parts.map Part.doubled⟩

/-- A share with twice as many dice of each size as another one, in the same order and with the same
constant. -/
structure Doubles (d s : Share) : Prop where
  damageType : d.damageType = s.damageType
  sizes : d.parts.map (·.size) = s.parts.map (·.size)
  dice : ∀ size, Part.netDice d.parts size = 2 * Part.netDice s.parts size
  constant : Part.total d.parts = Part.total s.parts

theorem doubles_doubled (s : Share) : s.doubled.Doubles s := by
  refine ⟨rfl, ?_, Part.netDice_doubled s.parts, Part.total_doubled s.parts⟩
  rw [doubled, List.map_map]
  exact List.map_congr_left fun p _ => p.size_doubled

end Share

namespace Term

def doubled (t : Term) : Term := { t with element := t.part.doubled.text }

variable {t : Term} {p : Part}

theorem Writes.doubled (h : t.Writes p) (hfits : Numeral.Fits p.doubled.net.natAbs) :
    t.doubled.Writes p.doubled :=
  ⟨h.canonical.doubled hfits, by rw [Term.doubled, part_of_writes h],
    h.kind.trans p.kind_doubled.symm⟩

end Term

section Terms

variable {baseType : String} {ts : List Term}

def CanDouble (ts : List Term) : Prop := ∀ t ∈ ts, Numeral.Fits t.part.doubled.net.natAbs

theorem doubleDice_part {t : Term} (ht : ∃ p, t.Writes p) :
    doubleDice t = if Numeral.Fits t.part.doubled.net.natAbs then .ok t.doubled
      else .error (.numeral .tooLargeToWrite) := doubleDice_eq (Term.writes_part ht)

theorem mapM_doubleDice (hts : ∀ t ∈ ts, ∃ p, t.Writes p) :
    CanDouble ts ∧ ts.mapM doubleDice = .ok (ts.map Term.doubled) ∨
      ¬ CanDouble ts ∧ ts.mapM doubleDice = .error (.numeral .tooLargeToWrite) := by
  by_cases hfits : CanDouble ts
  · refine .inl ⟨hfits, Result.mapM_eq_ok fun t ht => ?_⟩
    rw [doubleDice_part (hts t ht), if_pos (hfits t ht)]
  · refine .inr ⟨hfits, ?_⟩
    cases h : ts.mapM doubleDice with
    | ok us =>
      have hone : ∀ t ∈ ts, ∀ u, doubleDice t = .ok u →
          Numeral.Fits t.part.doubled.net.natAbs ∧ u = t.doubled := by
        intro t ht u hu
        rw [doubleDice_part (hts t ht)] at hu
        split at hu
        · rename_i hfits
          exact ⟨hfits, (Except.ok.inj hu).symm⟩
        · cases hu
      exact absurd (Result.mapM_eq_map hone h).1 hfits
    | error e =>
      obtain ⟨t, ht, h⟩ := Result.exists_of_mapM_eq_error h
      rw [doubleDice_part (hts t ht)] at h
      split at h
      · cases h
      · cases h
        rfl

theorem sound_doubled (hts : ∀ t ∈ ts, t.Sound) (hfits : CanDouble ts) :
    ∀ t ∈ ts.map Term.doubled, t.Sound := by
  intro u hu
  obtain ⟨t, ht, rfl⟩ := List.mem_map.mp hu
  exact ⟨⟨_, (Term.writes_part (hts t ht).writes).doubled (hfits t ht)⟩, (hts t ht).solid⟩

theorem partsOf_doubled (hts : ∀ t ∈ ts, t.Sound) (hfits : CanDouble ts) (damageType : String) :
    partsOf damageType (ts.map Term.doubled) = (partsOf damageType ts).map Part.doubled := by
  have htype : ofType damageType (ts.map Term.doubled) =
      (ofType damageType ts).map Term.doubled := List.filter_map
  rw [partsOf, htype, partsOf, List.map_map, List.map_map]
  refine List.map_congr_left fun t ht => ?_
  have ht : t ∈ ts := List.mem_of_mem_filter ht
  have hwrites := (Term.writes_part (hts t ht).writes).doubled (hfits t ht)
  rw [Function.comp_apply, Function.comp_apply, Term.part_of_writes hwrites]

theorem netDice_doubled (hts : ∀ t ∈ ts, t.Sound) (hfits : CanDouble ts) (damageType : String)
    (size : Nat) :
    netDice (ts.map Term.doubled) damageType size = 2 * netDice ts damageType size := by
  rw [← netDice_partsOf (sound_doubled hts hfits), partsOf_doubled hts hfits,
    Part.netDice_doubled, netDice_partsOf hts]

theorem constantSum_doubled (hts : ∀ t ∈ ts, t.Sound) (hfits : CanDouble ts)
    (damageType : String) :
    constantSum (ts.map Term.doubled) damageType = constantSum ts damageType := by
  rw [← total_partsOf (sound_doubled hts hfits), partsOf_doubled hts hfits, Part.total_doubled,
    total_partsOf hts]

theorem shares_doubled (hts : ∀ t ∈ ts, t.Sound) (hfits : CanDouble ts) :
    shares baseType (ts.map Term.doubled) = (shares baseType ts).map Share.doubled := by
  have htypes : (groupTerms baseType (ts.map Term.doubled)).map (·.1) =
      (groupTerms baseType ts).map (·.1) := by
    refine types_groupTerms_congr fun k => ?_
    have hgrouped : groupedAs baseType k (ts.map Term.doubled) =
        (groupedAs baseType k ts).map Term.doubled := List.filter_map
    rw [hgrouped, List.map_eq_nil_iff]
  have hof : Share.ofTerms (ts.map Term.doubled) = Share.doubled ∘ Share.ofTerms ts := by
    funext k
    rw [Share.ofTerms, partsOf_doubled hts hfits, Part.merged_doubled]
    rfl
  have hshares (us : List Term) : shares baseType us =
      (((groupTerms baseType us).map (·.1)).map (Share.ofTerms us)).filter fun s =>
        !s.parts.isEmpty := by
    rw [List.map_map]
    rfl
  rw [hshares, hshares, htypes, hof, ← List.map_map, List.filter_map]
  refine congrArg _ (List.filter_congr fun s _ => ?_)
  simp [Share.doubled]

def Writable (baseType : String) (ts : List Term) : Prop :=
  ∀ s ∈ shares baseType ts, ∀ p ∈ s.parts, Numeral.Fits p.net.natAbs

theorem damageFormula_cases (baseType : String) (hts : ∀ t ∈ ts, t.Sound) :
    Writable baseType ts ∧ damageFormula baseType ts = .ok (formulaText (shares baseType ts)) ∨
      ¬ Writable baseType ts ∧ damageFormula baseType ts = .error (.numeral .tooLargeToWrite) := by
  by_cases hfits : Writable baseType ts
  · exact .inl ⟨hfits, damageFormula_of_fits hts hfits⟩
  · refine .inr ⟨hfits, ?_⟩
    cases h : damageFormula baseType ts with
    | ok formula =>
      have hcanonical := (damageFormula_eq_formulaText hts h).1
      exact absurd (fun s hs p hp => (hcanonical s hs p hp).fits) hfits
    | error e => rw [damageFormula_eq_error (fun t ht => (hts t ht).writes) h]

theorem writable_doubled_iff (hts : ∀ t ∈ ts, t.Sound) (hfits : CanDouble ts) :
    Writable baseType (ts.map Term.doubled) ↔
      ∀ s ∈ shares baseType ts, ∀ p ∈ s.parts, Numeral.Fits p.doubled.net.natAbs := by
  rw [Writable, shares_doubled hts hfits, List.forall_mem_map]
  exact forall₂_congr fun s _ => List.forall_mem_map

theorem Writable.of_doubled (hts : ∀ t ∈ ts, t.Sound) (hfits : CanDouble ts)
    (h : Writable baseType (ts.map Term.doubled)) : Writable baseType ts :=
  fun s hs p hp => Nat.lt_of_le_of_lt p.natAbs_le_doubled
    ((writable_doubled_iff hts hfits).mp h s hs p hp)

/-- Terms that a critical hit leaves within the limit of numerals, each by itself and all those of a
damage type together. -/
structure Doublable (ts : List Term) : Prop where
  terms : ∀ t ∈ ts, ∀ size, Numeral.Fits (2 * t.diceOf size).natAbs
  net : ∀ damageType size, Numeral.Fits (2 * netDice ts damageType size).natAbs

theorem Part.Canonical.fits_doubled_iff {p : Part} (hp : p.Canonical) :
    Numeral.Fits p.doubled.net.natAbs ↔
      ∀ size, Numeral.Fits (2 * if p.size = some size then p.net else 0).natAbs := by
  obtain ⟨n, _ | s⟩ := p
  · exact iff_of_true hp.fits fun _ => Numeral.fits_zero
  · constructor
    · intro h size
      split
      · exact h
      · exact Numeral.fits_zero
    · intro h
      have hs := h s
      rwa [if_pos rfl] at hs

theorem canDouble_iff (hts : ∀ t ∈ ts, ∃ p, t.Writes p) :
    CanDouble ts ↔ ∀ t ∈ ts, ∀ size, Numeral.Fits (2 * t.diceOf size).natAbs := by
  refine forall₂_congr fun t ht => ?_
  have hp := Term.writes_part (hts t ht)
  simp only [hp.canonical.fits_doubled_iff, Term.diceOf_of_writes hp]

theorem doublable_iff (hts : ∀ t ∈ ts, t.Sound) (hwritable : Writable baseType ts) :
    Doublable ts ↔ CanDouble ts ∧ Writable baseType (ts.map Term.doubled) := by
  have hcan := canDouble_iff fun t ht => (hts t ht).writes
  constructor
  · rintro ⟨hterms, hnet⟩
    refine ⟨hcan.mpr hterms, (writable_doubled_iff hts (hcan.mpr hterms)).mpr fun s hs p hp => ?_⟩
    have hfits := hwritable s hs p hp
    obtain ⟨g, -, rfl⟩ := List.mem_map.mp (List.mem_of_mem_filter hs)
    obtain ⟨e, he, rfl⟩ | ⟨-, rfl⟩ := Part.mem_merged hp
    · have hnet := hnet g.1 e.1
      rwa [← netDice_partsOf hts, ← (Part.mem_left.mp he).1] at hnet
    · exact hfits
  · rintro ⟨hfits, hdoubled⟩
    refine ⟨hcan.mp hfits, fun damageType size => ?_⟩
    by_cases hzero : netDice ts damageType size = 0
    · rw [hzero]
      exact Numeral.fits_zero
    · obtain ⟨t, ht, rfl⟩ := exists_of_netDice hzero
      have hgroup : ∃ g ∈ groupTerms baseType ts, g.1 = t.damageType :=
        exists_mem_groupTerms (Term.damageType_ne_empty hts) ht
      rw [← netDice_partsOf hts] at hzero ⊢
      obtain ⟨e, he, rfl⟩ := Part.exists_mem_left.mpr hzero
      have hpart : (⟨e.2, some e.1⟩ : Part) ∈ (Share.ofTerms ts t.damageType).parts :=
        List.mem_append_left _ (List.mem_map_of_mem he)
      have hshare : Share.ofTerms ts t.damageType ∈ shares baseType ts :=
        List.mem_filter.mpr ⟨List.mem_map.mpr (hgroup.imp fun g hg => ⟨hg.1, by rw [hg.2]⟩),
          by simpa using List.ne_nil_of_mem hpart⟩
      rw [← (Part.mem_left.mp he).1]
      exact (writable_doubled_iff hts hfits).mp hdoubled _ hshare _ hpart

end Terms

theorem callTwice_ne_empty (selector formula : String) :
    callTwice selector formula ≠ emptyFormula := by
  intro h
  have hmem : '(' ∈ (callTwice selector formula).toList := by simp [callTwice]
  rw [h] at hmem
  exact absurd hmem (by decide)

theorem selected_eq_empty_iff (selector : Option String) (ss : List Share) :
    selected selector (formulaText ss) = emptyFormula ↔ ss = [] := by
  obtain _ | ⟨s, ss⟩ := ss
  · rw [selected_nil]
    exact iff_of_true rfl rfl
  · refine iff_of_false ?_ (List.cons_ne_nil s ss)
    have hne := formulaText_ne_empty s ss
    cases selector with
    | none => exact hne
    | some selector =>
      rw [selected, if_neg (by simpa using hne)]
      exact callTwice_ne_empty selector _

/-- The pool of a critical hit beside that of a plain one. It has twice the dice and the same
constants, under the same damage types and in the same call. -/
structure DicePool.Doubles (baseType : String) (selector : Option String) (q p : DicePool) :
    Prop where
  terms : q.terms = p.terms.map Term.doubled
  dice : ∀ damageType size, netDice q.terms damageType size = 2 * netDice p.terms damageType size
  constants : ∀ damageType, constantSum q.terms damageType = constantSum p.terms damageType
  plain : p.formula = selected selector (formulaText (shares baseType p.terms))
  formula : q.formula = selected selector (formulaText (shares baseType q.terms))
  shares : List.Forall₂ Share.Doubles (shares baseType q.terms) (shares baseType p.terms)
  empty : q.formula = emptyFormula ↔ p.formula = emptyFormula
  damageTypes : q.damageTypes = p.damageTypes
  critical : q.critical = true ∧ p.critical = false
  others : q.action = p.action ∧ q.advantage = p.advantage ∧ q.disadvantage = p.disadvantage ∧
    q.features = p.features

theorem DicePool.damageTypes_doubled {p q : DicePool} (h : q.terms = p.terms.map Term.doubled) :
    q.damageTypes = p.damageTypes := by
  rw [DicePool.damageTypes, DicePool.damageTypes, h, List.map_map]
  rfl

namespace Builder

variable {b : Builder} {r : Request}

def gathered (b : Builder) (r : Request) : Result (List Term × List String) := do
  let asked ← b.allTerms r.action r.modifiers
  let (added, features) ← b.contributions r
  return (asked ++ added, features)

/-- Terms as they are for a plain hit or for a critical one, with their formula. -/
def damageTerms (baseType : String) (critical : Bool) (ts : List Term) :
    Result (List Term × String) := do
  let terms ← doubledIf critical ts
  return (terms, ← damageFormula baseType terms)

def damagePool (r : Request) (critical : Bool) (features : List String)
    (terms : List Term × String) : DicePool :=
  ⟨.damage, terms.1, selected (selector? r.advantage r.disadvantage) terms.2, r.advantage,
    r.disadvantage, critical, features⟩

theorem build_eq_damage (b : Builder) (hr : r.action = .damage) (critical : Bool) :
    b.build { r with critical } = (do
      let (ts, features) ← b.gathered r
      let terms ← damageTerms b.baseType critical ts
      return damagePool r critical features terms) := by
  have hadded : b.contributions { r with critical } = b.contributions r := rfl
  rw [build_eq_finished, hadded, gathered]
  dsimp only
  rw [hr]
  simp only [bind_assoc, pure_bind]
  refine bind_congr fun asked => bind_congr fun added => ?_
  rw [finished_damage rfl, beq_self_eq_true, Bool.and_true, damageTerms]
  simp only [bind_assoc, pure_bind]
  refine bind_congr fun terms => ?_
  rw [formula, beq_self_eq_true, if_pos rfl]
  exact bind_assoc _ _ _

theorem build_of_not_damage (b : Builder) (hr : r.action ≠ .damage) (critical : Bool) :
    b.build { r with critical } = b.build { r with critical := false } := by
  have hdamage : (r.action == .damage) = false := by simpa using hr
  rw [build_eq, build_eq]
  simp only [hdamage, Bool.and_false]
  rfl

theorem damageTerms_critical (baseType : String) {ts : List Term} (hts : ∀ t ∈ ts, t.Sound) :
    (CanDouble ts ∧ Writable baseType (ts.map Term.doubled)) ∧
        damageTerms baseType true ts =
          .ok (ts.map Term.doubled, formulaText (shares baseType (ts.map Term.doubled))) ∨
      ¬ (CanDouble ts ∧ Writable baseType (ts.map Term.doubled)) ∧
        damageTerms baseType true ts = .error (.numeral .tooLargeToWrite) := by
  change _ ∧ (ts.mapM doubleDice >>= _) = _ ∨ _ ∧ (ts.mapM doubleDice >>= _) = _
  obtain ⟨hfits, hdoubled⟩ | ⟨hfits, hdoubled⟩ := mapM_doubleDice fun t ht => (hts t ht).writes
  · rw [hdoubled]
    change _ ∧ (damageFormula baseType _ >>= _) = _ ∨ _ ∧ (damageFormula baseType _ >>= _) = _
    obtain ⟨hwritable, hformula⟩ | ⟨hwritable, hformula⟩ :=
      damageFormula_cases baseType (sound_doubled hts hfits)
    · rw [hformula]
      exact .inl ⟨⟨hfits, hwritable⟩, rfl⟩
    · rw [hformula]
      exact .inr ⟨fun h => hwritable h.2, rfl⟩
  · rw [hdoubled]
    exact .inr ⟨fun h => hfits h.1, rfl⟩

theorem damageTerms_plain (baseType : String) {ts : List Term} (hts : ∀ t ∈ ts, t.Sound) :
    Writable baseType ts ∧
        damageTerms baseType false ts = .ok (ts, formulaText (shares baseType ts)) ∨
      ¬ Writable baseType ts ∧
        damageTerms baseType false ts = .error (.numeral .tooLargeToWrite) := by
  change _ ∧ (damageFormula baseType ts >>= _) = _ ∨ _ ∧ (damageFormula baseType ts >>= _) = _
  obtain ⟨hwritable, hformula⟩ | ⟨hwritable, hformula⟩ := damageFormula_cases baseType hts
  · rw [hformula]
    exact .inl ⟨hwritable, rfl⟩
  · rw [hformula]
    exact .inr ⟨hwritable, rfl⟩

theorem doubles_damagePool (baseType : String) (r : Request) (features : List String)
    {ts : List Term} (hts : ∀ t ∈ ts, t.Sound) (hfits : CanDouble ts) :
    DicePool.Doubles baseType (selector? r.advantage r.disadvantage)
      (damagePool r true features (ts.map Term.doubled,
        formulaText (shares baseType (ts.map Term.doubled))))
      (damagePool r false features (ts, formulaText (shares baseType ts))) where
  terms := rfl
  dice := netDice_doubled hts hfits
  constants := constantSum_doubled hts hfits
  plain := rfl
  formula := rfl
  shares := by
    change List.Forall₂ _ (Pool.shares baseType (ts.map Term.doubled)) _
    rw [shares_doubled hts hfits]
    exact List.forall₂_map_left_iff.mpr (List.forall₂_same.mpr fun s _ => s.doubles_doubled)
  empty := by
    rw [damagePool, damagePool, selected_eq_empty_iff, selected_eq_empty_iff,
      shares_doubled hts hfits, List.map_eq_nil_iff]
  damageTypes := DicePool.damageTypes_doubled rfl
  critical := ⟨rfl, rfl⟩
  others := ⟨rfl, rfl, rfl, rfl⟩

/-- How a critical hit is built where a plain one is. It doubles the dice, unless a doubled number
is too long to be written. Where the plain one fails, the critical one fails alike. -/
structure DoublesDamage (b : Builder) (r : Request) : Prop where
  fails : ∀ e, b.build { r with critical := false } = .error e →
    b.build { r with critical := true } = .error e
  doubles : ∀ p, b.build { r with critical := false } = .ok p → Doublable p.terms →
    ∃ q, b.build { r with critical := true } = .ok q ∧
      q.Doubles b.baseType (selector? r.advantage r.disadvantage) p
  refuses : ∀ p, b.build { r with critical := false } = .ok p → ¬ Doublable p.terms →
    b.build { r with critical := true } = .error (.numeral .tooLargeToWrite)

theorem doublesDamage_of_error {e : Failure} (hr : r.action = .damage)
    (hgathered : b.gathered r = .error e) : b.DoublesDamage r := by
  have hbuild (critical : Bool) : b.build { r with critical } = .error e := by
    rw [build_eq_damage b hr, hgathered]
    rfl
  refine ⟨fun e' he' => ?_, fun p hp => ?_, fun p hp => ?_⟩
  · rw [← he', hbuild, hbuild]
  · cases (hbuild false).symm.trans hp
  · cases (hbuild false).symm.trans hp

theorem build_of_gathered {ts : List Term} {features : List String} (hr : r.action = .damage)
    (hgathered : b.gathered r = .ok (ts, features)) (critical : Bool) :
    b.build { r with critical } = (do
      let terms ← damageTerms b.baseType critical ts
      return damagePool r critical features terms) := by
  rw [build_eq_damage b hr, hgathered]
  rfl

theorem doublesDamage_of_gathered {ts : List Term} {features : List String}
    (hr : r.action = .damage) (hgathered : b.gathered r = .ok (ts, features))
    (hts : ∀ t ∈ ts, t.Sound) : b.DoublesDamage r := by
  have hplain := build_of_gathered hr hgathered false
  have hcritical := build_of_gathered hr hgathered true
  obtain ⟨hwritable, hterms⟩ | ⟨hwritable, hterms⟩ := damageTerms_plain b.baseType hts
  · rw [hterms] at hplain
    refine ⟨fun e he => (nomatch hplain.symm.trans he), fun p hp hd => ?_, fun p hp hd => ?_⟩
    · cases hplain.symm.trans hp
      have hcan := (doublable_iff hts hwritable).mp hd
      obtain ⟨-, hdoubled⟩ | ⟨hcannot, -⟩ := damageTerms_critical b.baseType hts
      · rw [hdoubled] at hcritical
        exact ⟨_, hcritical, doubles_damagePool b.baseType r features hts hcan.1⟩
      · exact absurd hcan hcannot
    · cases hplain.symm.trans hp
      obtain ⟨hcan, -⟩ | ⟨-, hrefused⟩ := damageTerms_critical b.baseType hts
      · exact absurd ((doublable_iff hts hwritable).mpr hcan) hd
      · rw [hrefused] at hcritical
        exact hcritical
  · rw [hterms] at hplain
    refine ⟨fun e he => ?_, fun p hp => (nomatch hplain.symm.trans hp),
      fun p hp => (nomatch hplain.symm.trans hp)⟩
    cases hplain.symm.trans he
    -- what cannot be written as it is cannot be written with its dice doubled
    obtain ⟨⟨hfits, hwritten⟩, -⟩ | ⟨-, hrefused⟩ := damageTerms_critical b.baseType hts
    · exact absurd (Writable.of_doubled hts hfits hwritten) hwritable
    · rw [hrefused] at hcritical
      exact hcritical

theorem gathered_sound (hb : Text.Solid b.baseType) (hr : r.action = .damage) {ts : List Term}
    {features : List String} (h : b.gathered r = .ok (ts, features)) : ∀ t ∈ ts, t.Sound := by
  obtain ⟨asked, hasked, h⟩ := Result.bind_eq_ok h
  obtain ⟨⟨added, features⟩, hadded, h⟩ := Result.bind_eq_ok h
  cases h
  intro t ht
  exact (gathered_forall (fun _ _ h => modifierTerms_makes (hr ▸ h)) hasked hadded t ht).sound hb

/-- A critical hit doubles the dice of damage and only the dice. It changes no other action. -/
theorem build_critical (registry : Option Registry) (baseType : String) (r : Request) :
    (r.action ≠ .damage →
      (make registry baseType).build { r with critical := true } =
        (make registry baseType).build { r with critical := false } ∧
      ∀ p, (make registry baseType).build { r with critical := true } = .ok p →
        p.critical = false) ∧
    (r.action = .damage → (make registry baseType).DoublesDamage r) := by
  constructor
  · intro hr
    refine ⟨build_of_not_damage _ hr true, fun p hp => ?_⟩
    rw [(build_marks hp).1, beq_eq_false_iff_ne.mpr hr, Bool.and_false]
  · intro hr
    cases hgathered : (make registry baseType).gathered r with
    | error e => exact doublesDamage_of_error hr hgathered
    | ok gathered =>
      exact doublesDamage_of_gathered hr hgathered
        (gathered_sound (solid_baseType registry baseType) hr hgathered)

/-- The critical hit with the same modifiers has the pool of flames, and the plain one half of its
dice. -/
theorem build_critical_flames : ∃ p,
    (make none "kinetic").build { flames with critical := false } = .ok p ∧
      p.formula = "(1d8-1d4-1)[kinetic]+(1d6+3)[fire]" ∧
      (make none "kinetic").build { flames with critical := true } = .ok flamePool ∧
      flamePool.Doubles (make none "kinetic").baseType none p := by
  have hcritical : (make none "kinetic").build { flames with critical := true } =
      .ok flamePool := Result.eq_ok_of_toOption (by decide +kernel)
  have hplain : ∃ p, (make none "kinetic").build { flames with critical := false } = .ok p ∧
      p.formula = "(1d8-1d4-1)[kinetic]+(1d6+3)[fire]" :=
    Result.exists_of_map_toOption (by decide +kernel)
  obtain ⟨p, hp, hformula⟩ := hplain
  have h := (build_critical none "kinetic" flames).2 rfl
  by_cases hd : Doublable p.terms
  · obtain ⟨q, hq, hdoubles⟩ := h.doubles p hp hd
    cases hcritical.symm.trans hq
    exact ⟨p, hp, hformula, hcritical, hdoubles⟩
  · cases hcritical.symm.trans (h.refuses p hp hd)

def cancelled (n : Nat) : Request where
  modifiers := [{ fragment := Part.text ⟨n, some 20⟩ }, { fragment := Part.text ⟨-n, some 20⟩ }]
  action := .damage

def untyped (b : Builder) (q : Int) : Term :=
  ⟨Part.text ⟨q, some 20⟩, .dice, b.baseType, "Unknown", none⟩

section Cancelled

variable {n : Nat}

theorem writes_untyped (b : Builder) {q : Int} (hne : q ≠ 0) (hq : Numeral.Fits q.natAbs) :
    (b.untyped q).Writes ⟨q, some 20⟩ :=
  ⟨⟨hne, hq, canonical_d20.size_pos, canonical_d20.size_fits⟩, rfl, rfl⟩

theorem modifierTerms_untyped (b : Builder) {q : Int} (hne : q ≠ 0)
    (hq : Numeral.Fits q.natAbs) :
    b.modifierTerms .damage { fragment := Part.text ⟨q, some 20⟩ } = .ok [b.untyped q] := by
  have huntyped : (Text.lower (Text.trim "")).isEmpty = true := by rfl
  rw [modifierTerms, if_pos rfl]
  simp only [bne_self_eq_false, Bool.false_eq_true, if_false, huntyped, if_true]
  exact fragmentTerms_text (b.writes_untyped hne hq).canonical ⟨"Unknown", b.baseType, none⟩

theorem allTerms_cancelled (b : Builder) (hpos : 0 < n) (hn : Numeral.Fits n) :
    b.allTerms .damage (cancelled n).modifiers = .ok [b.untyped n, b.untyped (-n)] := by
  have hfirst := b.modifierTerms_untyped (q := n) (by omega) hn
  have hsecond := b.modifierTerms_untyped (q := -n) (by omega) (by rwa [Int.natAbs_neg])
  rw [allTerms, cancelled, List.mapM_cons, List.mapM_cons, hfirst, hsecond]
  rfl

theorem shares_cancelled (b : Builder) (hb : Text.Solid b.baseType) (hpos : 0 < n)
    (hn : Numeral.Fits n) : shares b.baseType [b.untyped n, b.untyped (-n)] = [] := by
  have hparts : partsOf b.baseType [b.untyped n, b.untyped (-n)] =
      [⟨n, some 20⟩, ⟨-n, some 20⟩] := by
    have htype : ofType b.baseType [b.untyped n, b.untyped (-n)] =
        [b.untyped n, b.untyped (-n)] := by simp [ofType, untyped]
    have hfirst := b.writes_untyped (q := n) (by omega) hn
    have hsecond := b.writes_untyped (q := -n) (by omega) (by rwa [Int.natAbs_neg])
    rw [partsOf, htype, List.map_cons, List.map_singleton, Term.part_of_writes hfirst,
      Term.part_of_writes hsecond]
  have hmerged : Part.merged (partsOf b.baseType [b.untyped n, b.untyped (-n)]) = [] := by
    rw [hparts, Part.merged_eq_nil_iff]
    refine ⟨fun size => ?_, rfl⟩
    by_cases hsize : 20 = size <;> simp [Part.netDice, hsize]
  refine List.filter_eq_nil_iff.mpr fun s hs => ?_
  obtain ⟨g, hg, rfl⟩ := List.mem_map.mp hs
  have hsolid : ∀ t ∈ [b.untyped n, b.untyped (-n)], t.damageType ≠ "" := by
    simp [untyped, hb.ne_empty]
  obtain ⟨t, ht, htype⟩ := (of_mem_groupTerms hsolid hg).1
  have hbase : g.1 = b.baseType := by
    rw [← htype]
    obtain rfl | ht := List.mem_cons.mp ht
    · rfl
    · obtain rfl := List.mem_singleton.mp ht
      rfl
  simp [Share.ofTerms, hbase, hmerged]

theorem build_cancelled (baseType : String) (hpos : 0 < n) (hn : Numeral.Fits n)
    (hdouble : ¬ Numeral.Fits (2 * n)) :
    ∃ p, (make none baseType).build { cancelled n with critical := false } = .ok p ∧
      p.formula = emptyFormula ∧
      (make none baseType).build { cancelled n with critical := true } =
        .error (.numeral .tooLargeToWrite) := by
  have hb := solid_baseType none baseType
  have hadded : (make none baseType).contributions (cancelled n) = .ok ([], []) := rfl
  generalize make none baseType = b at hb hadded ⊢
  have hgathered : b.gathered (cancelled n) = .ok ([b.untyped n, b.untyped (-n)], []) := by
    have hasked := b.allTerms_cancelled hpos hn
    rw [gathered, hadded]
    change (b.allTerms .damage (cancelled n).modifiers >>= _) = _
    rw [hasked]
    rfl
  have hts := gathered_sound hb rfl hgathered
  have hnone := b.shares_cancelled hb hpos hn
  have hplain := build_of_gathered rfl hgathered false
  obtain ⟨-, hterms⟩ | ⟨hwritable, -⟩ := damageTerms_plain b.baseType hts
  · rw [hterms, hnone] at hplain
    have hrefused := (doublesDamage_of_gathered rfl hgathered hts).refuses _ hplain
    refine ⟨_, hplain, rfl, hrefused fun h => hdouble ?_⟩
    have hfits := h.terms (b.untyped n) List.mem_cons_self 20
    rwa [Term.diceOf_of_writes (b.writes_untyped (q := n) (by omega) hn), if_pos rfl,
      Int.natAbs_mul, Int.natAbs_natCast] at hfits
  · exact absurd (by simp [Writable, hnone]) hwritable

end Cancelled

/-- Five and then as many zeros as fit: the numeral of as many dice can be read, and that of twice
as many cannot be written. -/
theorem critical_refused : ∃ p,
    (make none "kinetic").build { cancelled (5 * 10 ^ (Numeral.digitLimit - 1)) with
      critical := false } = .ok p ∧ p.formula = emptyFormula ∧
    (make none "kinetic").build { cancelled (5 * 10 ^ (Numeral.digitLimit - 1)) with
      critical := true } = .error (.numeral .tooLargeToWrite) := by
  have hpow : 10 ^ Numeral.digitLimit = 10 * 10 ^ (Numeral.digitLimit - 1) :=
    (mul_pow_sub_one (by decide) 10).symm
  have hpos : 0 < 10 ^ (Numeral.digitLimit - 1) := Nat.pow_pos (by decide)
  have hn : Numeral.Fits (5 * 10 ^ (Numeral.digitLimit - 1)) := by
    rw [Numeral.fits_iff]
    omega
  have hdouble : ¬ Numeral.Fits (2 * (5 * 10 ^ (Numeral.digitLimit - 1))) := by
    rw [Numeral.fits_iff]
    omega
  exact build_cancelled "kinetic" (by omega) hn hdouble

end Builder
end Encounter.Pool
