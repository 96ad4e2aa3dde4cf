import Encounter.Proofs.Check.Classification
import Encounter.Proofs.Run.StepEffects

namespace Encounter

namespace Check

/-- A natural critical success succeeds, whatever the kind of the check. -/
theorem Engine.success_of_isCriticalSuccess (e : Engine) (o : Dice.Outcome) (target : Int)
    (kind : Kind) (override : Option CriticalRange) (ms : List RangeModification)
    (h : (e.classifyOutcome o target kind override ms).isCriticalSuccess = true) :
    (e.classifyOutcome o target kind override ms).success = true := by
  change (e.effectiveRange kind override ms .success).contains (naturalFace o) = true at h
  change (e.result kind ((e.effectiveRange kind override ms .success).contains (naturalFace o))
    _ _ _).1 = true
  rw [h, result_hit]

end Check

namespace Target

theorem modifyDamage_bounds (t : Target) {amount : Int} (h : 0 ≤ amount) (damageType : String) :
    0 ≤ t.modifyDamage amount damageType ∧ t.modifyDamage amount damageType ≤ 2 * amount := by
  unfold modifyDamage
  cases t.defence damageType <;> dsimp only <;> omega

end Target

namespace Run

def NonNegative (xs : List (String × Int)) : Prop := ∀ e ∈ xs, 0 ≤ e.2

theorem Damage.totals_nonNegative (baseType : String) (o : Dice.Outcome) :
    NonNegative (totals baseType o) := by
  intro e he
  unfold totals at he
  split at he
  · split at he
    · cases he
    · rename_i hpos
      rw [List.mem_singleton.mp he]
      exact Int.le_of_lt (Int.not_le.mp hpos)
  · obtain ⟨e', -, rfl⟩ := List.mem_map.mp he
    exact Int.le_max_left 0 _

theorem Damage.doubled_nonNegative {xs : List (String × Int)} (h : NonNegative xs) :
    NonNegative (doubled xs) := by
  intro e he
  obtain ⟨e', he', rfl⟩ := List.mem_map.mp he
  have hn := h e' he'
  change 0 ≤ e'.2 * 2
  omega

theorem ApplyDamage.afterDefences_bounds (target : Target) {xs : List (String × Int)}
    (h : NonNegative xs) :
    0 ≤ afterDefences target xs ∧ afterDefences target xs ≤ 2 * Entries.total xs := by
  induction xs with
  | nil => exact ⟨Int.le_refl 0, Int.le_refl 0⟩
  | cons e xs ih =>
    have hrest := ih fun e' he' => h e' (List.mem_cons_of_mem e he')
    have hone := target.modifyDamage_bounds (h e List.mem_cons_self) e.1
    change 0 ≤ target.modifyDamage e.2 e.1 + afterDefences target xs ∧
      target.modifyDamage e.2 e.1 + afterDefences target xs ≤ 2 * (e.2 + Entries.total xs)
    omega

theorem ApplyDamage.amount_bounds (effect : SaveEffect) (target : Target) {o : TargetOutcome}
    (h : NonNegative o.damageByType) :
    0 ≤ amount effect target o ∧ amount effect target o ≤ 2 * o.damageTotal := by
  have hb := afterDefences_bounds target h
  change 0 ≤ afterSave effect _ _ ∧ afterSave effect _ _ ≤ 2 * Entries.total o.damageByType
  unfold afterSave
  split
  · cases effect <;> dsimp only <;> omega
  · exact hb

structure TargetOutcome.Harmless (o : TargetOutcome) : Prop where
  damage : o.damageByType = []
  save : o.save = none
  applied : o.damageApplied = none

/-- The record of a target under an id agrees with itself. -/
structure TargetOutcome.Sound (targets : List Target) (id : String) (o : TargetOutcome) : Prop where
  target : o.targetId = id
  live : ∃ t ∈ targets, t.isLive = true ∧ t.id = id
  hit : o.hit = o.attack.map (·.success)
  critical : o.critical = true ↔ ∃ r, o.attack = some r ∧ r.isCriticalSuccess = true
  criticalHit : o.critical = true → o.hit = some true
  saved : o.saved = o.save.map (·.success)
  amounts : NonNegative o.damageByType
  applied : ∀ n, o.damageApplied = some n → 0 ≤ n ∧ n ≤ 2 * o.damageTotal
  missed : o.hit = some false → o.Harmless

namespace TargetOutcome

variable {targets : List Target} {id : String} {o : TargetOutcome}

theorem harmless_ofTarget (t : Target) : (ofTarget t).Harmless := ⟨rfl, rfl, rfl⟩

theorem sound_ofTarget {t : Target} (ht : t ∈ targets) (hl : t.isLive = true) :
    (ofTarget t).Sound targets t.id where
  target := rfl
  live := ⟨t, ht, hl, rfl⟩
  hit := rfl
  critical := ⟨fun h => (nomatch h), fun ⟨_, h, _⟩ => nomatch h⟩
  criticalHit h := nomatch h
  saved := rfl
  amounts _ h := nomatch h
  applied _ h := nomatch h
  missed h := nomatch h

theorem Sound.attack (h : o.Sound targets id) (hu : o.Harmless) {r : Check.Resolution}
    (hr : r.isCriticalSuccess = true → r.success = true) :
    (Attack.recorded r o).Sound targets id where
  target := h.target
  live := h.live
  hit := rfl
  critical := by
    change (r.success && r.isCriticalSuccess) = true ↔
      ∃ r', some r = some r' ∧ r'.isCriticalSuccess = true
    rw [Bool.and_eq_true]
    exact ⟨fun hc => ⟨r, rfl, hc.2⟩, fun ⟨r', he, hc⟩ => by cases he; exact ⟨hr hc, hc⟩⟩
  criticalHit hc := congrArg some ((Bool.and_eq_true _ _).mp hc).1
  saved := h.saved
  amounts := h.amounts
  applied := h.applied
  missed _ := ⟨hu.damage, hu.save, hu.applied⟩

theorem Sound.deal (h : o.Sound targets id) (hh : o.hit ≠ some false)
    (ha : o.damageApplied = none) {damage : List (String × Int)} (hd : NonNegative damage) :
    (Damage.dealt damage o).Sound targets id where
  target := h.target
  live := h.live
  hit := h.hit
  critical := h.critical
  criticalHit := h.criticalHit
  saved := h.saved
  amounts := hd
  applied _ hn := nomatch ha.symm.trans hn
  missed hm := (hh hm).elim

theorem Sound.saveResolved (h : o.Sound targets id) (hh : o.hit ≠ some false)
    (r : Check.Resolution) : (Save.recorded r o).Sound targets id where
  target := h.target
  live := h.live
  hit := h.hit
  critical := h.critical
  criticalHit := h.criticalHit
  saved := rfl
  amounts := h.amounts
  applied := h.applied
  missed hm := (hh hm).elim

theorem Sound.apply (h : o.Sound targets id) (hd : o.damageByType ≠ []) (effect : SaveEffect)
    (target : Target) :
    (ApplyDamage.applied (ApplyDamage.amount effect target o) o).Sound targets id where
  target := h.target
  live := h.live
  hit := h.hit
  critical := h.critical
  criticalHit := h.criticalHit
  saved := h.saved
  amounts := h.amounts
  applied n hn := by
    cases hn
    exact ApplyDamage.amount_bounds effect target h.amounts
  missed hm := (hd (h.missed hm).damage).elim

end TargetOutcome

abbrev Outcomes := List (String × TargetOutcome)

/-- All records agree with themselves, and say nothing yet of what the steps that are left are still
to resolve. -/
structure Sound (targets : List Target) (left : List String) (outs : Outcomes) : Prop where
  each : ∀ e ∈ outs, e.2.Sound targets e.1
  fresh : Start.stepId ∈ left → outs = []
  harmless : Attack.stepId ∈ left → ∀ e ∈ outs, e.2.Harmless
  unapplied : Damage.stepId ∈ left → ∀ e ∈ outs, e.2.damageApplied = none

theorem Sound.nil (targets : List Target) (left : List String) : Sound targets left [] where
  each _ h := nomatch h
  fresh _ := rfl
  harmless _ _ h := nomatch h
  unapplied _ _ h := nomatch h

theorem Sound.mono {targets : List Target} {left left' : List String} {outs : Outcomes}
    (h : Sound targets left outs) (hs : ∀ step ∈ left', step ∈ left) :
    Sound targets left' outs where
  each := h.each
  fresh hm := h.fresh (hs _ hm)
  harmless hm := h.harmless (hs _ hm)
  unapplied hm := h.unapplied (hs _ hm)

theorem Sound.put {targets : List Target} {left : List String} {outs : Outcomes} {id : String}
    {o : TargetOutcome} (h : Sound targets left outs) (ho : o.Sound targets id)
    (hf : Start.stepId ∉ left) (hh : Attack.stepId ∈ left → o.Harmless)
    (ha : Damage.stepId ∈ left → o.damageApplied = none) :
    Sound targets left (Entries.put outs id o) where
  each e he := by
    obtain rfl | he := Entries.mem_put he
    · exact ho
    · exact h.each e he
  fresh hm := (hf hm).elim
  harmless hm e he := by
    obtain rfl | he := Entries.mem_put he
    · exact hh hm
    · exact h.harmless hm e he
  unapplied hm e he := by
    obtain rfl | he := Entries.mem_put he
    · exact ha hm
    · exact h.unapplied hm e he

end Run
end Encounter
