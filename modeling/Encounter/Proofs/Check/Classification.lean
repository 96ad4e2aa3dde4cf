import Encounter.Check.Resolution

namespace Encounter.Check

namespace Degree

/-- Degrees from the worst to the best. A plain failure, which no graded check has, stands beside
the mildest of the graded ones. -/
def rank : Degree → Nat
  | criticalFailure => 0
  | majorFailure => 1
  | minorFailure => 2
  | failure => 2
  | success => 3
  | majorSuccess => 4
  | criticalSuccess => 5

theorem isSuccess_iff_rank (d : Degree) : d.isSuccess = true ↔ success.rank ≤ d.rank := by
  cases d <;> decide

theorem isSuccess_ofMargin (margin : Int) : (ofMargin margin).isSuccess = decide (0 ≤ margin) := by
  unfold ofMargin
  grind [isSuccess]

theorem rank_ofMargin_mono {margin margin' : Int} (h : margin ≤ margin') :
    (ofMargin margin).rank ≤ (ofMargin margin').rank := by
  unfold ofMargin
  grind [rank]

end Degree

theorem onSuccess_succeeds (k : Kind) :
    [Policy.autoHit, .autoSuccess].contains k.rules.onSuccess = true := by
  cases k <;> decide

theorem onFailure_fails (k : Kind) :
    [Policy.autoMiss, .autoFailure].contains k.rules.onFailure = true := by
  cases k <;> decide

namespace Engine

def grades (e : Engine) (kind : Kind) : Bool := kind.rules.graded && e.graded

section Result

variable {e : Engine} {kind : Kind} {hit miss plain : Bool} {margin : Int}

theorem result_hit : e.result kind true miss plain margin = (true, .criticalSuccess) := by
  rw [result, onSuccess_succeeds]
  rfl

theorem result_miss : e.result kind false true plain margin = (false, .criticalFailure) := by
  rw [result, onFailure_fails]
  rfl

theorem result_plain : e.result kind false false plain margin = (plain,
    if e.grades kind then .ofMargin margin else if plain then .success else .failure) := by
  change e.plainResult kind plain margin = _
  unfold plainResult grades
  split <;> rfl

variable (e kind hit miss)

theorem result_isSuccess (margin : Int) :
    (e.result kind hit miss (decide (0 ≤ margin)) margin).1 =
      (e.result kind hit miss (decide (0 ≤ margin)) margin).2.isSuccess := by
  cases hit with
  | true =>
    rw [result_hit]
    rfl
  | false =>
    cases miss with
    | true =>
      rw [result_miss]
      rfl
    | false =>
      rw [result_plain]
      by_cases hgrades : e.grades kind = true
      · rw [if_pos hgrades, Degree.isSuccess_ofMargin]
      · rw [if_neg hgrades]
        by_cases hmargin : 0 ≤ margin <;> simp [hmargin, Degree.isSuccess]

theorem rank_result_mono {margin margin' : Int} (h : margin ≤ margin') :
    (e.result kind hit miss (decide (0 ≤ margin)) margin).2.rank ≤
      (e.result kind hit miss (decide (0 ≤ margin')) margin').2.rank := by
  cases hit with
  | true => exact Nat.le_of_eq (by rw [result_hit, result_hit])
  | false =>
    cases miss with
    | true => exact Nat.le_of_eq (by rw [result_miss, result_miss])
    | false =>
      rw [result_plain, result_plain]
      by_cases hgrades : e.grades kind = true
      · rw [if_pos hgrades, if_pos hgrades]
        exact Degree.rank_ofMargin_mono h
      · rw [if_neg hgrades, if_neg hgrades]
        by_cases hmargin : 0 ≤ margin
        · simp [hmargin, Int.le_trans hmargin h]
        · by_cases hmargin' : 0 ≤ margin' <;> simp [hmargin, hmargin', Degree.rank]

end Result
end Engine

theorem CriticalRange.contains_iff (r : CriticalRange) (natural : Int) :
    r.contains natural = true ↔ r.low ≤ natural ∧ natural ≤ r.high := by
  simp [contains]

theorem CriticalRange.contains_zero (r : CriticalRange) : r.contains 0 = false := by
  have := r.bounds
  simp only [contains, Bool.and_eq_false_iff, decide_eq_false_iff_not]
  omega

/-- A resolution that follows from its own numbers and ranges, graded by margin or not. -/
structure Resolution.Lawful (graded : Bool) (r : Resolution) : Prop where
  margin : r.margin = r.total - r.target
  success : r.success = r.degree.isSuccess
  hit : r.isCriticalSuccess = true ↔
    r.successRange.low ≤ r.natural ∧ r.natural ≤ r.successRange.high
  miss : r.isCriticalFailure = true ↔
    r.failureRange.low ≤ r.natural ∧ r.natural ≤ r.failureRange.high
  ofHit : r.isCriticalSuccess = true → r.success = true ∧ r.degree = .criticalSuccess
  ofMiss : r.isCriticalSuccess = false → r.isCriticalFailure = true →
    r.success = false ∧ r.degree = .criticalFailure
  ofTotal : r.isCriticalSuccess = false → r.isCriticalFailure = false →
    (r.success = true ↔ r.target ≤ r.total) ∧ r.degree =
      if graded then .ofMargin r.margin else if r.success then .success else .failure
  withoutDie : r.natural = 0 → r.isCriticalSuccess = false ∧ r.isCriticalFailure = false

namespace Engine

section Classify

variable (e : Engine) (kind : Kind) (override overrideFailure : Option CriticalRange)
  (ms : List RangeModification)

theorem classifyGiven_int (total natural target : Int) :
    e.classifyGiven (.int total) (.int natural) (.int target) kind override overrideFailure ms =
      .ok (e.classify total natural target kind override overrideFailure ms) := by
  rw [classifyGiven, Numbers.read_int]
  rfl

theorem decided_classify (total natural target : Int) :
    ((e.classify total natural target kind override overrideFailure ms).success,
      (e.classify total natural target kind override overrideFailure ms).degree) =
      e.result kind ((e.effectiveRange kind override ms .success).contains natural)
        ((e.effectiveRange kind overrideFailure ms .failure).contains natural)
        (decide (0 ≤ total - target)) (total - target) := by
  have hplain : decide (target ≤ total) = decide (0 ≤ total - target) :=
    decide_eq_decide.mpr (by omega)
  rw [← hplain]
  rfl

theorem lawful_classify (total natural target : Int) :
    (e.classify total natural target kind override overrideFailure ms).Lawful (e.grades kind) := by
  have hdecided := e.decided_classify kind override overrideFailure ms total natural target
  have hgraded := e.result_isSuccess kind
    ((e.effectiveRange kind override ms .success).contains natural)
    ((e.effectiveRange kind overrideFailure ms .failure).contains natural) (total - target)
  rw [← hdecided] at hgraded
  refine ⟨rfl, hgraded, CriticalRange.contains_iff _ _, CriticalRange.contains_iff _ _,
    ?_, ?_, ?_, ?_⟩
  · intro hhit
    change (e.effectiveRange kind override ms .success).contains natural = true at hhit
    rw [hhit, result_hit] at hdecided
    exact Prod.mk.inj hdecided
  · intro hhit hmiss
    change (e.effectiveRange kind override ms .success).contains natural = false at hhit
    change (e.effectiveRange kind overrideFailure ms .failure).contains natural = true at hmiss
    rw [hhit, hmiss, result_miss] at hdecided
    exact Prod.mk.inj hdecided
  · intro hhit hmiss
    change (e.effectiveRange kind override ms .success).contains natural = false at hhit
    change (e.effectiveRange kind overrideFailure ms .failure).contains natural = false at hmiss
    rw [hhit, hmiss, result_plain] at hdecided
    obtain ⟨hsuccess, hdegree⟩ := Prod.mk.inj hdecided
    refine ⟨?_, ?_⟩
    · rw [hsuccess, decide_eq_true_iff]
      change 0 ≤ total - target ↔ target ≤ total
      omega
    · rw [hdegree, hsuccess]
      rfl
  · intro hnatural
    change natural = 0 at hnatural
    subst hnatural
    exact ⟨CriticalRange.contains_zero _, CriticalRange.contains_zero _⟩

/-- A better total against the same or an easier target is no worse. -/
theorem rank_classify_mono (natural : Int) {total total' target target' : Int}
    (htotal : total ≤ total') (htarget : target' ≤ target) :
    (e.classify total natural target kind override overrideFailure ms).degree.rank ≤
      (e.classify total' natural target' kind override overrideFailure ms).degree.rank := by
  have hmono := e.rank_result_mono kind
    ((e.effectiveRange kind override ms .success).contains natural)
    ((e.effectiveRange kind overrideFailure ms .failure).contains natural)
    (show total - target ≤ total' - target' by omega)
  rwa [← decided_classify, ← decided_classify] at hmono

end Classify

/-- How rolls are classified. Whole numbers always are, what comes out follows from them and from
the ranges in force, and a better total or an easier target makes neither success nor degree
worse. -/
theorem classify_lawful (e : Engine) (kind : Kind) (override overrideFailure : Option CriticalRange)
    (ms : List RangeModification) (natural : Int) :
    (∀ total target, ∃ r,
      e.classifyGiven (.int total) (.int natural) (.int target) kind override overrideFailure ms =
        .ok r ∧
      r = e.classify total natural target kind override overrideFailure ms ∧
      (r.kind, r.total, r.natural, r.target) = (kind, total, natural, target) ∧
      r.successRange = e.effectiveRange kind override ms .success ∧
      r.failureRange = e.effectiveRange kind overrideFailure ms .failure ∧
      r.Lawful (e.grades kind)) ∧
    ∀ total total' target target', total ≤ total' → target' ≤ target →
      ((e.classify total natural target kind override overrideFailure ms).success = true →
        (e.classify total' natural target' kind override overrideFailure ms).success = true) ∧
      (e.classify total natural target kind override overrideFailure ms).degree.rank ≤
        (e.classify total' natural target' kind override overrideFailure ms).degree.rank := by
  refine ⟨fun total target => ⟨_, e.classifyGiven_int kind override overrideFailure ms _ _ _, rfl,
    rfl, rfl, rfl, e.lawful_classify kind override overrideFailure ms _ _ _⟩, ?_⟩
  intro total total' target target' htotal htarget
  have hrank := e.rank_classify_mono kind override overrideFailure ms natural htotal htarget
  refine ⟨fun hsuccess => ?_, hrank⟩
  rw [(e.lawful_classify kind override overrideFailure ms _ _ _).success,
    Degree.isSuccess_iff_rank] at hsuccess ⊢
  exact Nat.le_trans hsuccess hrank

/-- A natural one in both ranges with a total far below the target, and a total that is raised
against a target that is lowered. -/
theorem classify_lawful_skill :
    let e : Engine := {}
    let low : CriticalRange := ⟨1, 2, by decide⟩
    let fumble := e.classify 2 1 15 .skill (some low) none []
    let plain := e.classify 15 10 15 .skill none none []
    let better := e.classify 21 10 11 .skill none none []
    (fumble.isCriticalSuccess = true ∧ fumble.isCriticalFailure = true ∧ fumble.success = true ∧
        fumble.degree = .criticalSuccess) ∧
      (15 ≤ 21 ∧ 11 ≤ 15 ∧ plain.success = true) ∧ better.success = true ∧
        plain.degree.rank ≤ better.degree.rank := by
  intro e low fumble plain better
  obtain ⟨r, -, rfl, -, -, -, hlawful⟩ := (e.classify_lawful .skill (some low) none [] 1).1 2 15
  have hmono := (e.classify_lawful .skill none none [] 10).2 15 21 15 11 (by decide) (by decide)
  have hhit : fumble.isCriticalSuccess = true := rfl
  have hplain : plain.success = true := rfl
  exact ⟨⟨hhit, rfl, hlawful.ofHit hhit⟩, ⟨by decide, by decide, hplain⟩, hmono.1 hplain, hmono.2⟩

end Engine
end Encounter.Check
