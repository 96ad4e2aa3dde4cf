import Encounter.Proofs.Feature.Registered
import Encounter.Proofs.Pool.Contributors

namespace Encounter.Pool.Builder

/-- The reasons for which a feature does not apply to a pool. -/
inductive Idle (registry : Registry) (r : Request) (f : Feature) : Prop
  | vetoed (h : f.id ∈ r.vetoed)
  | unavailable (h : ∀ a, r.actor = some a → registry.isAvailable a f.id = false)
  | elsewhere (h : f.affectsStep (featureStep r.action) = false)
  | disabled {a : Actor} {data : FeatureData} (ha : r.actor = some a)
    (hdata : (FeatureData.read (.object (f.data a r.dialog))).result = .ok data)
    (h : data.enabled = false)

/-- A feature applies if none of the reasons against it is there. Data that cannot be read is no
such reason. -/
def applies (registry : Registry) (r : Request) (f : Feature) : Bool :=
  match r.actor with
  | none => false
  | some a =>
    f.affectsStep (featureStep r.action) && !r.vetoed.contains f.id &&
      registry.isAvailable a f.id &&
      (FeatureData.read (.object (f.data a r.dialog))).result.toOption.all (·.enabled)

variable {b : Builder} {registry registry' : Registry} {r : Request} {a : Actor} {f : Feature}
  {fs xs ys : List Feature} {p : DicePool}

theorem idle_iff : Idle registry r f ↔ applies registry r f = false := by
  constructor
  · intro h
    unfold applies
    split
    · rfl
    · rename_i a ha
      cases h with
      | vetoed h => simp [h]
      | unavailable h => simp [h a ha]
      | elsewhere h => simp [h]
      | disabled ha' hdata h =>
        cases ha.symm.trans ha'
        rw [hdata]
        simp [Except.toOption, h]
  · intro h
    unfold applies at h
    split at h
    · rename_i hnone
      exact .unavailable fun a ha => nomatch hnone.symm.trans ha
    · rename_i a ha
      simp only [Bool.and_eq_false_iff, Bool.not_eq_false', List.contains_iff_mem] at h
      obtain ((h | h) | h) | h := h
      · exact .elsewhere h
      · exact .vetoed h
      · exact .unavailable fun a' ha' => Option.some.inj (ha.symm.trans ha') ▸ h
      · cases hdata : (FeatureData.read (.object (f.data a r.dialog))).result with
        | error e =>
          rw [hdata] at h
          cases h
        | ok data =>
          rw [hdata] at h
          exact .disabled ha hdata h

instance : Decidable (Idle registry r f) := decidable_of_iff _ idle_iff.symm

theorem not_idle_iff : ¬ Idle registry r f ↔ applies registry r f = true := by
  rw [idle_iff, Bool.not_eq_false]

def gather (b : Builder) (r : Request) (a : Actor) (fs : List Feature) :
    Result (List Term × List String) := do
  let added ← fs.mapM fun f => return (f.name, ← b.featureTerms r a f)
  return (added.flatMap (·.2), (added.filter fun x => !x.2.isEmpty).map (·.1))

theorem gather_cons (b : Builder) (r : Request) (a : Actor) (f : Feature) (fs : List Feature) :
    b.gather r a (f :: fs) = (do
      let ts ← b.featureTerms r a f
      let rest ← b.gather r a fs
      return (ts ++ rest.1, if ts.isEmpty then rest.2 else f.name :: rest.2)) := by
  unfold gather
  rw [List.mapM_cons]
  cases b.featureTerms r a f with
  | error e => rfl
  | ok ts =>
    cases List.mapM (fun f => do return (f.name, ← b.featureTerms r a f)) fs with
    | error e => rfl
    | ok found => cases ts <;> rfl

theorem gather_filter {q : Feature → Bool}
    (h : ∀ f ∈ fs, q f = false → b.featureTerms r a f = .ok []) :
    b.gather r a (fs.filter q) = b.gather r a fs := by
  induction fs with
  | nil => rfl
  | cons f fs ih =>
    have ih := ih fun g hg => h g (List.mem_cons_of_mem f hg)
    cases hf : q f with
    | true => rw [List.filter_cons_of_pos hf, gather_cons, gather_cons, ih]
    | false =>
      rw [List.filter_cons_of_neg (by simp [hf]), gather_cons, h f List.mem_cons_self hf, ih]
      cases b.gather r a fs <;> rfl

theorem featureTerms_disabled {data : FeatureData}
    (hdata : (FeatureData.read (.object (f.data a r.dialog))).result = .ok data)
    (h : data.enabled = false) : b.featureTerms r a f = .ok [] := by
  unfold featureTerms Feature.context
  rw [hdata]
  simp [Except.map, bind, Except.bind, h, pure, Except.pure]

theorem active_of_applies (ha : r.actor = some a) (h : applies registry r f = true) :
    f.affectsStep (featureStep r.action) = true ∧ f.id ∉ r.vetoed ∧
      registry.isAvailable a f.id = true := by
  unfold applies at h
  rw [ha] at h
  simp only [Bool.and_eq_true, Bool.not_eq_true', List.contains_eq_mem,
    decide_eq_false_iff_not] at h
  exact ⟨h.1.1.1, h.1.1.2, h.1.2⟩

theorem contributions_eq_gather (b : Builder) (hb : b.registry = some registry)
    (ha : r.actor = some a) :
    b.contributions r = b.gather r a (registry.features.filter (applies registry r)) := by
  have hactive : (registry.activeAt a (featureStep r.action) r.vetoed).filter
      (applies registry r) = registry.features.filter (applies registry r) := by
    unfold Registry.activeAt Registry.forStep
    rw [List.filter_filter, List.filter_filter]
    refine List.filter_congr fun f _ => ?_
    cases hf : applies registry r f with
    | false => rfl
    | true =>
      obtain ⟨hstep, hvetoed, havailable⟩ := active_of_applies ha hf
      simp [hstep, hvetoed, havailable]
  have hcontributions : b.contributions r =
      b.gather r a (registry.activeAt a (featureStep r.action) r.vetoed) := by
    unfold contributions
    rw [hb, ha]
    rfl
  rw [hcontributions, ← hactive]
  refine (gather_filter fun f hf happlies => ?_).symm
  obtain ⟨-, hstep, hvetoed, havailable⟩ := Registry.mem_activeAt.mp hf
  cases idle_iff.mpr happlies with
  | vetoed h => exact absurd h hvetoed
  | unavailable h => exact absurd havailable (by rw [h a ha]; decide)
  | elsewhere h => exact absurd hstep (by rw [h]; decide)
  | disabled ha' hdata h =>
    cases ha.symm.trans ha'
    exact featureTerms_disabled hdata h

theorem contributions_without_actor (b : Builder) (ha : r.actor = none) :
    b.contributions r = .ok ([], []) := by
  unfold contributions
  rw [ha]
  cases b.registry <;> rfl

theorem applies_congr
    (h : ∀ a, registry'.isAvailable a f.id = registry.isAvailable a f.id) :
    applies registry' r f = applies registry r f := by
  unfold applies
  cases r.actor with
  | none => rfl
  | some a => dsimp only; rw [h a]

theorem filter_applies_without (hdistinct : Registry.Distinct (xs ++ f :: ys))
    (hidle : Idle ⟨xs ++ f :: ys⟩ r f) :
    (xs ++ ys).filter (applies ⟨xs ++ ys⟩ r) =
      (xs ++ f :: ys).filter (applies ⟨xs ++ f :: ys⟩ r) := by
  have hskip : (xs ++ f :: ys).filter (applies ⟨xs ++ f :: ys⟩ r) =
      (xs ++ ys).filter (applies ⟨xs ++ f :: ys⟩ r) := by
    rw [List.filter_append, List.filter_cons_of_neg (by simp [idle_iff.mp hidle]),
      ← List.filter_append]
  rw [hskip]
  refine List.filter_congr fun g hg => applies_congr fun a => ?_
  have hwithout : Registry.mk (xs ++ ys) = Registry.without ⟨xs ++ f :: ys⟩ [f.id] :=
    congrArg Registry.mk hdistinct.filter_self.symm
  rw [hwithout]
  exact Registry.isAvailable_without (by simpa using hdistinct.id_ne hg) a

theorem contributions_without_idle (hdistinct : Registry.Distinct (xs ++ f :: ys))
    (hidle : Idle ⟨xs ++ f :: ys⟩ r f) (baseType : String) :
    Builder.contributions ⟨some ⟨xs ++ ys⟩, baseType⟩ r =
      Builder.contributions ⟨some ⟨xs ++ f :: ys⟩, baseType⟩ r := by
  cases ha : r.actor with
  | none => rw [contributions_without_actor _ ha, contributions_without_actor _ ha]
  | some a =>
    rw [contributions_eq_gather _ rfl ha, contributions_eq_gather _ rfl ha,
      filter_applies_without hdistinct hidle]
    rfl

/-- A pool with what was declared, modifier by modifier, and then what the features contributed that
apply, in the order of their registration. Some terms may be written anew. -/
structure Arranged (b : Builder) (registry : Registry) (r : Request) (p : DicePool)
    (declared : List (List Term)) (contributed : List (Feature × List Term)) : Prop where
  declares : List.Forall₂ (fun m ts => b.modifierTerms r.action m = .ok ts) r.modifiers declared
  applied : contributed.map (·.1) = registry.features.filter fun f => ¬ Idle registry r f
  contributes : ∀ x ∈ contributed, ∃ a, r.actor = some a ∧ b.featureTerms r a x.1 = .ok x.2
  terms : List.Forall₂ Term.Rewritten
    (seeded r.action declared.flatten ++ contributed.flatMap (·.2)) p.terms
  names : p.features = (contributed.filter fun x => !x.2.isEmpty).map (·.1.name)

theorem exists_contributed_of_gather {added : List Term × List String}
    (h : b.gather r a fs = .ok added) : ∃ contributed : List (Feature × List Term),
      contributed.map (·.1) = fs ∧ (∀ x ∈ contributed, b.featureTerms r a x.1 = .ok x.2) ∧
        added = (contributed.flatMap (·.2),
          (contributed.filter fun x => !x.2.isEmpty).map (·.1.name)) := by
  induction fs generalizing added with
  | nil =>
    cases h
    exact ⟨[], rfl, (fun _ h => nomatch h), rfl⟩
  | cons f fs ih =>
    rw [gather_cons] at h
    obtain ⟨ts, hts, h⟩ := Result.bind_eq_ok h
    obtain ⟨rest, hrest, h⟩ := Result.bind_eq_ok h
    cases h
    obtain ⟨contributed, rfl, hterms, rfl⟩ := ih hrest
    refine ⟨(f, ts) :: contributed, rfl, List.forall_mem_cons.mpr ⟨hts, hterms⟩, ?_⟩
    cases ts <;> rfl

theorem exists_contributed {added : List Term × List String} (hb : b.registry = some registry)
    (h : b.contributions r = .ok added) : ∃ contributed : List (Feature × List Term),
      (contributed.map (·.1) = registry.features.filter fun f => ¬ Idle registry r f) ∧
        (∀ x ∈ contributed, ∃ a, r.actor = some a ∧ b.featureTerms r a x.1 = .ok x.2) ∧
          added = (contributed.flatMap (·.2),
            (contributed.filter fun x => !x.2.isEmpty).map (·.1.name)) := by
  have happlies : (registry.features.filter fun f => ¬ Idle registry r f) =
      registry.features.filter (applies registry r) :=
    List.filter_congr fun f _ => by
      rw [Bool.eq_iff_iff, decide_eq_true_iff, not_idle_iff]
  rw [happlies]
  cases ha : r.actor with
  | none =>
    rw [contributions_without_actor b ha] at h
    cases h
    have hnone : registry.features.filter (applies registry r) = [] :=
      List.filter_eq_nil_iff.mpr fun f _ => by simp [applies, ha]
    exact ⟨[], hnone.symm, (fun _ h => nomatch h), rfl⟩
  | some a =>
    rw [contributions_eq_gather b hb ha] at h
    obtain ⟨contributed, hfeatures, hterms, hadded⟩ := exists_contributed_of_gather h
    exact ⟨contributed, hfeatures, fun x hx => ⟨a, rfl, hterms x hx⟩, hadded⟩

theorem exists_arranged (hb : b.registry = some registry) (h : b.build r = .ok p) :
    ∃ declared contributed, Arranged b registry r p declared contributed := by
  obtain ⟨asked, added, doubled, hs⟩ := exists_stages h
  obtain ⟨features, hadded⟩ := hs.adds
  obtain ⟨-, added', hnames⟩ := build_marks h
  cases hadded.symm.trans hnames
  obtain ⟨declared, hdeclared, hasked⟩ := Result.bind_eq_ok hs.asks
  cases hasked
  obtain ⟨contributed, happlied, hcontributes, heq⟩ := exists_contributed hb hadded
  obtain ⟨hterms, hnames⟩ := Prod.mk.inj heq
  exact ⟨declared, contributed, Result.forall₂_of_mapM hdeclared, happlied, hcontributes,
    hterms ▸ hs.rewritten, hnames⟩

/-- A feature that does not apply leaves no trace. Without it the same pool is built, or the
building fails in the same way. And every pool holds what was asked for, followed by what the
features that apply contribute, in the order of their registration. -/
theorem build_without_idle (hregistry : Registry.ofList (xs ++ f :: ys) = .ok registry)
    (baseType : String) (r : Request) :
    (Idle registry r f → ∃ others, Registry.ofList (xs ++ ys) = .ok others ∧
      Builder.build ⟨some others, baseType⟩ r = Builder.build ⟨some registry, baseType⟩ r) ∧
    ∀ p, Builder.build ⟨some registry, baseType⟩ r = .ok p →
      ∃ declared contributed,
        Arranged ⟨some registry, baseType⟩ registry r p declared contributed := by
  obtain ⟨hdistinct, rfl⟩ := Registry.ofList_eq_ok_iff.mp hregistry
  refine ⟨fun hidle => ⟨⟨xs ++ ys⟩, ?_, ?_⟩, fun p hp => exists_arranged rfl hp⟩
  · have hsub : (xs ++ ys).Sublist (xs ++ f :: ys) :=
      (List.sublist_cons_self f ys).append_left xs
    exact Registry.ofList_eq_ok_iff.mpr ⟨hdistinct.sublist hsub, rfl⟩
  · exact build_eq_of_contributions rfl rfl (contributions_without_idle hdistinct hidle baseType)

def heavyBlow : Feature where
  id := "heavy-blow"
  name := "Heavy Blow"
  steps := ["base-dice-pool-features-damage"]
  modifiers _ := .ok [{ name := "Heavy Blow", fragment := "1d6" }]

def backstab : Feature where
  id := "backstab"
  name := "Backstab"
  steps := ["base-dice-pool-features-damage"]
  modifiers _ := .ok [{ name := "Backstab", fragment := "2d4" }]

def heavyHit : Request where
  modifiers := [{ name := "Sword", fragment := "1d8+3" }]
  action := .damage
  critical := true
  actor := some {
    id := "hero"
    feats := ["Heavy Blow", "Backstab"]
    featureData := [("heavy-blow", [("enabled", .bool true)]),
      ("backstab", [("enabled", .bool true)])] }
  dialog := some {
    actorId := "hero"
    featureState := [("backstab", [("enabled", .bool false)])] }

theorem build_without_idle_heavyHit : ∃ registry,
    Registry.ofList ([heavyBlow] ++ backstab :: []) = .ok registry ∧
      Idle registry heavyHit backstab ∧
      (∃ others, Registry.ofList ([heavyBlow] ++ []) = .ok others ∧
        Builder.build ⟨some others, "kinetic"⟩ heavyHit =
          Builder.build ⟨some registry, "kinetic"⟩ heavyHit) ∧
      ∃ p declared contributed, Builder.build ⟨some registry, "kinetic"⟩ heavyHit = .ok p ∧
        Arranged ⟨some registry, "kinetic"⟩ registry heavyHit p declared contributed ∧
        (p.formula, p.features) = ("(2d8+2d6+3)[kinetic]", ["Heavy Blow"]) := by
  have hregistry : Registry.ofList ([heavyBlow] ++ backstab :: []) =
      .ok ⟨[heavyBlow, backstab]⟩ := by rfl
  have hidle : Idle ⟨[heavyBlow, backstab]⟩ heavyHit backstab := by decide +kernel
  have hpool : ∃ p, Builder.build ⟨some ⟨[heavyBlow, backstab]⟩, "kinetic"⟩ heavyHit = .ok p ∧
      (p.formula, p.features) = ("(2d8+2d6+3)[kinetic]", ["Heavy Blow"]) :=
    Result.exists_of_map_toOption (by decide +kernel)
  obtain ⟨p, hp, hformula⟩ := hpool
  obtain ⟨hwithout, harranged⟩ := build_without_idle hregistry "kinetic" heavyHit
  obtain ⟨declared, contributed, h⟩ := harranged p hp
  exact ⟨_, hregistry, hidle, hwithout hidle, p, declared, contributed, hp, h, hformula⟩

end Encounter.Pool.Builder
