import Encounter.Proofs.Pool.Agreement
import Encounter.Proofs.Pool.Labels
import Encounter.Run.Step.Damage

namespace Encounter

/-- Words of letters, digits and underscores, with spaces and hyphens. -/
def Text.Phrase (s : String) : Prop := ∀ c ∈ s.toList, isWordChar c = true ∨ c = ' ' ∨ c = '-'

instance (s : String) : Decidable (Text.Phrase s) := List.decidableBAll _ s.toList

theorem Text.Phrase.notMem {s : String} (h : Phrase s) {c : Char}
    (hc : isWordChar c = false ∧ c ≠ ' ' ∧ c ≠ '-') : c ∉ s.toList := by
  intro hmem
  obtain hword | hspace | hhyphen := h c hmem
  · rw [hc.1] at hword
    cases hword
  · exact hc.2.1 hspace
  · exact hc.2.2 hhyphen

namespace Pool

open Dice (Faces Keep Lot Outcome evaluate)

theorem Share.plain_of_phrase {damageType : String} (h : Text.Phrase damageType) :
    Share.Plain damageType := by
  intro c hc
  refine ⟨?_, ?_, ?_, ?_⟩
  all_goals
    rintro rfl
    exact h.notMem (by decide) hc

namespace DicePool

/-- The damage types that have a group in the formula of a pool, in its order. -/
def groups (p : DicePool) (baseType : String) : List String :=
  (shares baseType p.terms).map (·.damageType)

/-- What a damage type makes of dealt dice: their faces, with their sign, and its constants. -/
def amount (p : DicePool) (dealt : List (Lot × List Nat)) (damageType : String) : Int :=
  ((dealt.filter fun d => d.1.damageType == damageType).map Lot.signedSum).sum +
    constantSum p.terms damageType

/-- Where in the stream the roll that counts starts. With advantage or disadvantage the dice are
rolled a second time, and the second roll counts if it is better. -/
def countedFaces (p : DicePool) (ls : List Lot) (faces : Faces) : Faces :=
  let again := faces.skip (Lot.dice ls)
  match keep? p.advantage p.disadvantage with
  | some k => if k.beats (p.total (Lot.deal ls again)) (p.total (Lot.deal ls faces))
    then again else faces
  | none => faces

/-- Each name in the totals is a damage type of the pool, and each damage type in the formula has
what its own group amounts to. -/
def TypesSurvive (p : DicePool) (baseType : String) (dealt : List (Lot × List Nat))
    (o : Outcome) : Prop :=
  (∀ k ∈ o.totalsByType.map (·.1), k ∈ p.damageTypes) ∧
    ∀ t ∈ p.groups baseType, Entries.get? o.totalsByType t = some (p.amount dealt t)

/-- What becomes of the damage types of a pool when the dice dealt count. -/
structure Reports (p : DicePool) (baseType : String) (dealt : List (Lot × List Nat))
    (o : Outcome) : Prop where
  keys : ∀ k, k ∈ o.totalsByType.map (·.1) ↔ ∃ t ∈ p.groups baseType, unspaced t = k
  amounts : ∀ t ∈ p.groups baseType, Entries.get? o.totalsByType (unspaced t) =
    some (((p.groups baseType).filter fun u => unspaced u == unspaced t).map (p.amount dealt)).sum
  recorded : ∀ k, Entries.get? (Run.Damage.totals baseType o) k =
    (Entries.get? o.totalsByType k).map (max 0)
  survive : p.TypesSurvive baseType dealt o ↔ ∀ t ∈ p.groups baseType, ' ' ∉ t.toList
  defended : ∀ t ∈ p.groups baseType, normalName t = t ∧
    ((∀ (target : Target) (n : Int), target.modifyDamage n (unspaced t) = target.modifyDamage n t) ↔
      ' ' ∉ t.toList)

end DicePool

section Shares

variable {baseType : String} {terms : List Term}

theorem of_mem_shares (hterms : ∀ t ∈ terms, t.Sound) {s : Share} (hs : s ∈ shares baseType terms) :
    (∃ t ∈ terms, t.damageType = s.damageType) ∧
      Part.total s.parts = constantSum terms s.damageType := by
  obtain ⟨g, hg, rfl⟩ := List.mem_map.mp (List.mem_of_mem_filter hs)
  exact ⟨(of_mem_groupTerms (Term.damageType_ne_empty hterms) hg).1,
    (Part.total_merged _).trans (total_partsOf hterms g.1)⟩

theorem nodup_shares (baseType : String) (terms : List Term) :
    ((shares baseType terms).map (·.damageType)).Nodup := by
  refine (nodup_groupTerms baseType terms).sublist ?_
  have hsub := (List.filter_sublist (p := fun s : Share => !s.parts.isEmpty)
    (l := (groupTerms baseType terms).map fun g => Share.ofTerms terms g.1)).map (·.damageType)
  rwa [List.map_map] at hsub

end Shares

theorem modifyDamage_eq_iff {a b : String} (ha : Text.lower a = a) (hb : Text.lower b = b) :
    (∀ (target : Target) (n : Int), target.modifyDamage n a = target.modifyDamage n b) ↔
      a = b := by
  refine ⟨fun h => ?_, fun h target n => by rw [h]⟩
  by_contra hne
  have himmune := h { id := "", immunities := [b] } 1
  rw [Target.modifyDamage, Target.modifyDamage, Target.defence, Target.defence, ha, hb] at himmune
  simp [hne] at himmune

theorem unspaced_eq_self_iff {damageType : String} :
    unspaced damageType = damageType ↔ ' ' ∉ damageType.toList :=
  ⟨fun h => h ▸ space_notMem_unspaced damageType, unspaced_eq_self⟩

section Reports

variable {p : DicePool} {baseType : String} {dealt : List (Lot × List Nat)} {o : Outcome}

theorem filter_eq_singleton {ts : List String} (hts : ts.Nodup) {t : String} (ht : t ∈ ts) :
    (ts.filter fun u => u == t) = [t] := by
  rw [List.filter_beq, hts.count, if_pos ht]
  rfl

theorem get?_totals (hnodup : (o.totalsByType.map (·.1)).Nodup)
    (htotal : Entries.total o.totalsByType = o.total) (baseType k : String) :
    Entries.get? (Run.Damage.totals baseType o) k =
      (Entries.get? o.totalsByType k).map (max 0) := by
  unfold Run.Damage.totals
  split
  · rename_i hempty
    rw [List.isEmpty_iff.mp hempty] at htotal ⊢
    have hzero : o.total = 0 := htotal.symm
    rw [hzero]
    rfl
  · rw [Entries.get?_mapValues, Entries.get?_ofList hnodup]

/-- Damage types survive if the names that come out are damage types, each with its amount. -/
theorem typesSurvive_iff (hnodup : (p.groups baseType).Nodup)
    (hgroups : ∀ t ∈ p.groups baseType, t ∈ p.damageTypes)
    (hkeys : ∀ k, k ∈ o.totalsByType.map (·.1) ↔ ∃ t ∈ p.groups baseType, unspaced t = k)
    (hamounts : ∀ t ∈ p.groups baseType, Entries.get? o.totalsByType (unspaced t) = some
      (((p.groups baseType).filter fun u => unspaced u == unspaced t).map (p.amount dealt)).sum) :
    p.TypesSurvive baseType dealt o ↔ ∀ t ∈ p.groups baseType, ' ' ∉ t.toList := by
  constructor
  · rintro ⟨-, howned⟩ t ht
    have hkey : t ∈ o.totalsByType.map (·.1) := by
      rw [Entries.mem_keys_iff, howned t ht]
      rfl
    obtain ⟨u, -, rfl⟩ := (hkeys t).mp hkey
    exact space_notMem_unspaced u
  · intro hspaces
    have hself : ∀ t ∈ p.groups baseType, unspaced t = t :=
      fun t ht => unspaced_eq_self (hspaces t ht)
    refine ⟨fun k hk => ?_, fun t ht => ?_⟩
    · obtain ⟨t, ht, rfl⟩ := (hkeys k).mp hk
      rw [hself t ht]
      exact hgroups t ht
    · have hfilter : ((p.groups baseType).filter fun u => unspaced u == unspaced t) = [t] := by
        rw [List.filter_congr fun u hu => by rw [hself u hu, hself t ht]]
        exact filter_eq_singleton hnodup ht
      have hown := hamounts t ht
      rw [hself t ht] at hown hfilter
      rw [hown, hfilter, List.map_singleton, List.sum_singleton]

theorem reports_of_totals (hnodup : (p.groups baseType).Nodup)
    (hgroups : ∀ t ∈ p.groups baseType, t ∈ p.damageTypes)
    (hnormal : ∀ t ∈ p.groups baseType, normalName t = t)
    (htotal : Entries.total o.totalsByType = o.total)
    (htotals : o.totalsByType = Dice.addTotals []
      ((p.groups baseType).map fun t => (unspaced t, p.amount dealt t))) :
    p.Reports baseType dealt o := by
  have hnames : ∀ k, k ∈ ((p.groups baseType).map fun t =>
      (unspaced t, p.amount dealt t)).map (·.1) ↔ ∃ t ∈ p.groups baseType, unspaced t = k := by
    intro k
    rw [List.map_map, List.mem_map]
    rfl
  have hkeys : ∀ k, k ∈ o.totalsByType.map (·.1) ↔
      ∃ t ∈ p.groups baseType, unspaced t = k := by
    intro k
    rw [htotals, Dice.mem_keys_addTotals, hnames]
  have hamounts : ∀ t ∈ p.groups baseType, Entries.get? o.totalsByType (unspaced t) =
      some (((p.groups baseType).filter fun u =>
        unspaced u == unspaced t).map (p.amount dealt)).sum := by
    intro t ht
    rw [htotals, Dice.get?_addTotals, if_pos ((hnames _).mpr ⟨t, ht, rfl⟩), Dice.amountOf_map]
    exact congrArg some (Int.zero_add _)
  have hdistinct : (o.totalsByType.map (·.1)).Nodup := by
    rw [htotals]
    refine Dice.nodup_addTotals ?_ _
    exact List.nodup_nil
  refine ⟨hkeys, hamounts, get?_totals hdistinct htotal baseType,
    typesSurvive_iff hnodup hgroups hkeys hamounts, fun t ht => ⟨hnormal t ht, ?_⟩⟩
  have hlowered := Text.isNormal_normalName t
  rw [hnormal t ht] at hlowered
  rw [modifyDamage_eq_iff (isNormal_unspaced hlowered).lower_eq hlowered.lower_eq,
    unspaced_eq_self_iff]

end Reports

section Pools

variable {b : Builder} {p : DicePool}

theorem isNormal_baseType (registry : Option Registry) (baseType : String) :
    Text.IsNormal (Builder.make registry baseType).baseType.toList := by
  dsimp only [Builder.make]
  split
  · have hkinetic : normalName defaultDamageType = defaultDamageType := by decide +kernel
    exact hkinetic ▸ Text.isNormal_normalName defaultDamageType
  · exact Text.isNormal_normalName baseType

theorem Builder.Makes.isNormal (hb : Text.IsNormal b.baseType.toList) {t : Term} (h : b.Makes t) :
    Text.IsNormal t.damageType.toList := by
  obtain heq | ⟨-, s, heq⟩ := h.names
  · exact heq ▸ hb
  · exact heq ▸ Text.isNormal_normalName s

theorem named_shares (hsolid : Text.Solid b.baseType) (hnormal : Text.IsNormal b.baseType.toList)
    {terms : List Term} (hmakes : ∀ t ∈ terms, b.Makes t)
    (hphrase : ∀ t ∈ terms, Text.Phrase t.damageType) {formula : String}
    (h : damageFormula b.baseType terms = .ok formula) :
    (∀ s ∈ shares b.baseType terms, s.Named) ∧ formula = formulaText (shares b.baseType terms) := by
  have hterms : ∀ t ∈ terms, t.Sound := fun t ht => (hmakes t ht).sound hsolid
  obtain ⟨hsound, rfl⟩ := damageFormula_eq_ok hterms
    (fun t ht => Share.plain_of_phrase (hphrase t ht)) h
  refine ⟨fun s hs => ?_, rfl⟩
  obtain ⟨⟨t, ht, htype⟩, -⟩ := of_mem_shares hterms hs
  exact ⟨hsound s hs, htype ▸ (hmakes t ht).isNormal hnormal,
    htype ▸ (hphrase t ht).notMem (by decide)⟩

/-- The roll that counts, told from the formula and told from the pool. -/
theorem keptFrom_shares (hterms : ∀ t ∈ p.terms, t.Sound) {baseType : String}
    (hss : ∀ s ∈ shares baseType p.terms, s.Sound) (faces : Faces) :
    keptFrom (keep? p.advantage p.disadvantage) (shares baseType p.terms) faces =
      p.countedFaces (leftLots baseType p.terms) faces := by
  have hrolls := rolls_formulaExpr hss
  have htotal : ∀ f, ((formulaExpr (shares baseType p.terms)).shown f).total =
      p.total (Lot.deal (leftLots baseType p.terms) f) :=
    fun f => (hrolls.total f).trans (total_deal baseType hterms f).symm
  unfold keptFrom DicePool.countedFaces
  cases keep? p.advantage p.disadvantage with
  | none => rfl
  | some k =>
    simp only [Dice.Expr.keptFrom, htotal, hrolls.count]
    rfl

theorem amounts_shares (hterms : ∀ t ∈ p.terms, t.Sound) (baseType : String)
    (dealt : List (Lot × List Nat)) :
    (shares baseType p.terms).map (fun s => (unspaced s.damageType, s.amount dealt)) =
      (p.groups baseType).map fun t => (unspaced t, p.amount dealt t) := by
  rw [DicePool.groups, List.map_map]
  refine List.map_congr_left fun s hs => ?_
  rw [Share.amount, (of_mem_shares hterms hs).2]
  rfl

/-- What a roll of a damage pool reports of its damage types. The names that come out are those of
the groups in the formula, less their spaces, so the damage types survive if and only if no group
has a space in its type. -/
theorem reports_build (registry : Option Registry) (baseType : String) {r : Request}
    (haction : r.action = .damage) (hbuild : (Builder.make registry baseType).build r = .ok p)
    (hphrase : ∀ damageType ∈ p.damageTypes, Text.Phrase damageType) :
    p.formula = selected (selector? p.advantage p.disadvantage)
        (formulaText (shares (Builder.make registry baseType).baseType p.terms)) ∧
      ∃ ls, Leaves (Builder.make registry baseType).baseType p.terms ls ∧
        ∀ faces o, (evaluate p.formula faces).1 = .ok o →
          p.Reports (Builder.make registry baseType).baseType
            (Lot.deal ls (p.countedFaces ls faces)) o := by
  have hsolid := Builder.solid_baseType registry baseType
  have hnormal := isNormal_baseType registry baseType
  generalize Builder.make registry baseType = b at hbuild hsolid hnormal ⊢
  obtain ⟨hmakes, hadvantage, hdisadvantage, formula, hformula, hselected⟩ :=
    Builder.build_makes haction hbuild
  have hterms : ∀ t ∈ p.terms, t.Sound := fun t ht => (hmakes t ht).sound hsolid
  have htypes : ∀ t ∈ p.terms, t.damageType ∈ p.damageTypes := fun t ht =>
    mem_damageTypes.mpr ⟨(hterms t ht).solid.ne_empty, t, ht, rfl⟩
  obtain ⟨hnamed, rfl⟩ := named_shares hsolid hnormal hmakes
    (fun t ht => hphrase _ (htypes t ht)) hformula
  have hsound : ∀ s ∈ shares b.baseType p.terms, s.Sound := fun s hs => (hnamed s hs).sound
  rw [← hadvantage, ← hdisadvantage] at hselected
  refine ⟨hselected, _, leaves_leftLots b.baseType hterms, fun faces o heval => ?_⟩
  rw [hselected, selector?_eq] at heval
  obtain ⟨htotal, htotals⟩ := totals_selected hnamed (nodup_shares b.baseType p.terms) heval
  rw [amounts_shares hterms, keptFrom_shares hterms hsound] at htotals
  refine reports_of_totals (nodup_shares b.baseType p.terms) (fun t ht => ?_) (fun t ht => ?_)
    htotal htotals
  · obtain ⟨s, hs, rfl⟩ := List.mem_map.mp ht
    obtain ⟨⟨t, ht, htype⟩, -⟩ := of_mem_shares hterms hs
    exact htype ▸ htypes t ht
  · obtain ⟨s, hs, rfl⟩ := List.mem_map.mp ht
    exact (hnamed s hs).normal.normalName_eq

end Pools

def spikes : Request :=
  { action := .damage, advantage := true,
    modifiers := [{ fragment := "1d6", damageType := " Cold Iron " },
      { fragment := "1d4+1", damageType := "half-frozen" }] }

def spikePool : DicePool where
  action := .damage
  terms := [⟨"1d6", .dice, "cold iron", "Unknown", none⟩,
    ⟨"1d4", .dice, "half-frozen", "Unknown", none⟩, ⟨"1", .number, "half-frozen", "Unknown", none⟩]
  formula :=
    "max((1d6)[cold iron]+(1d4+1)[half-frozen],(1d6)[cold iron]+(1d4+1)[half-frozen])"
  advantage := true

theorem build_spikes : (Builder.make none "kinetic").build spikes = .ok spikePool ∧
    ∀ damageType ∈ spikePool.damageTypes, Text.Phrase damageType :=
  ⟨Result.eq_ok_of_toOption (by decide +kernel), by decide +kernel⟩

/-- The second roll counts. The space is lost, the hyphen stays. -/
theorem evaluate_spikes : ∃ o, (evaluate spikePool.formula (Faces.cycle #[2, 1, 5, 3])).1 = .ok o ∧
    o.totalsByType = [("coldiron", 5), ("half-frozen", 4)] :=
  Result.exists_of_map_toOption (by decide +kernel)

theorem reports_build_spikes : (Builder.make none "kinetic").build spikes = .ok spikePool ∧
    (∀ damageType ∈ spikePool.damageTypes, Text.Phrase damageType) ∧
    ∃ ls o, Leaves "kinetic" spikePool.terms ls ∧
      (evaluate spikePool.formula (Faces.cycle #[2, 1, 5, 3])).1 = .ok o ∧
      spikePool.Reports "kinetic"
        (Lot.deal ls (spikePool.countedFaces ls (Faces.cycle #[2, 1, 5, 3]))) o := by
  obtain ⟨hbuild, hphrase⟩ := build_spikes
  obtain ⟨-, ls, hleaves, hreports⟩ := reports_build none "kinetic" rfl hbuild hphrase
  obtain ⟨o, ho, -⟩ := evaluate_spikes
  exact ⟨hbuild, hphrase, ls, o, hleaves, ho, hreports _ o ho⟩

/-- A name comes out that is no damage type of the pool. -/
theorem spikes_lose_type : ∃ o, (Builder.make none "kinetic").build spikes = .ok spikePool ∧
    (∀ damageType ∈ spikePool.damageTypes, Text.Phrase damageType) ∧
    (evaluate spikePool.formula (Faces.cycle #[2, 1, 5, 3])).1 = .ok o ∧
    o.totalsByType = [("coldiron", 5), ("half-frozen", 4)] ∧
    spikePool.damageTypes = ["cold iron", "half-frozen"] ∧
    ¬ ∀ k ∈ o.totalsByType.map (·.1), k ∈ spikePool.damageTypes := by
  obtain ⟨o, ho, htotals⟩ := evaluate_spikes
  have htypes : spikePool.damageTypes = ["cold iron", "half-frozen"] := by decide +kernel
  refine ⟨o, build_spikes.1, build_spikes.2, ho, htotals, htypes, fun h => ?_⟩
  have hlost := h "coldiron" (by rw [htotals]; exact List.mem_cons_self)
  rw [htypes] at hlost
  exact absurd hlost (by decide)

end Pool
end Encounter
