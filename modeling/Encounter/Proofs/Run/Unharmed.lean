import Encounter.Proofs.Run.Ledger
import Encounter.Proofs.Run.Loop

namespace Encounter.Run

open ActionState

variable {δ σ : Type}

/-- Creatures may have lost hit points, but only live targets with a positive recorded amount. -/
structure OnlyHitPoints (r r' : Roster) (s : ActionState) : Prop where
  unknown : ∀ k, r.find? k = none → r'.find? k = none
  known : ∀ k a, r.find? k = some a → ∃ hp, r'.find? k = some { a with hitPoints := hp } ∧
    (hp ≠ a.hitPoints → (∃ target ∈ s.liveTargets, target.id = k) ∧
      ∃ amount, applied? s.outcomes k = some amount ∧ 0 < amount)

theorem OnlyHitPoints.refl (r : Roster) (s : ActionState) : OnlyHitPoints r r s where
  unknown _ h := h
  known _ a h := ⟨a.hitPoints, h, fun hne => (hne rfl).elim⟩

theorem OnlyHitPoints.of_eq {r r' : Roster} {s s' : ActionState} (h : OnlyHitPoints r r' s)
    (ht : s'.targets = s.targets)
    (ha : ∀ k, applied? s'.outcomes k = applied? s.outcomes k) : OnlyHitPoints r r' s' where
  unknown := h.unknown
  known k a hk := by
    obtain ⟨hp, hr, hc⟩ := h.known k a hk
    refine ⟨hp, hr, fun hne => ?_⟩
    rw [liveTargets, ht, ha]
    exact hc hne

theorem StepPasses.unique {handlers : Handlers δ σ} {step : String} {w u u' : World δ σ}
    (hp : StepPasses handlers step w u) (hp' : StepPasses handlers step w u') : u = u' := by
  obtain ⟨h, hh, hp⟩ := hp
  obtain ⟨h', hh', hp'⟩ := hp'
  cases hh.symm.trans hh'
  cases hp.symm.trans hp'
  rfl

/-- If some of the steps applies damage, then only the last step comes after it. -/
def AppliesLast (steps : List String) : Prop :=
  steps.dropWhile (· != ApplyDamage.stepId) ∈ [[], [ApplyDamage.stepId, completeStep]]

instance (steps : List String) : Decidable (AppliesLast steps) :=
  inferInstanceAs (Decidable (_ ∈ _))

theorem AppliesLast.of_cons {step : String} {rest : List String}
    (h : AppliesLast (step :: rest)) (hne : step ≠ ApplyDamage.stepId) : AppliesLast rest := by
  unfold AppliesLast at h
  rwa [List.dropWhile_cons_of_pos (by simpa using hne)] at h

/-- Either damage has not been applied, and the creatures are as they were, or it has, and the last
step is all that is left. -/
inductive Phase (r : Roster) (left : List String) (w : World δ Roster) : Prop
  | spared (source : w.source = r) (undone : ApplyDamage.stepId ∉ w.state.completed)
    (last : AppliesLast left)
  | struck (harm : OnlyHitPoints r w.source w.state)
    (done : ApplyDamage.stepId ∈ w.state.completed) (last : ∀ step ∈ left, step = completeStep)

/-- A run on the creatures of a roster, while some steps are left. -/
structure Underway (r : Roster) (ids left : List String) (w : World δ Roster) : Prop where
  wellFormed : w.state.WellFormed
  named : w.state.dialog.targetIds = ids
  known : Known r ids w.state.targets
  phase : Phase r left w

theorem Underway.of_eq {r : Roster} {ids left : List String} {w v : World δ Roster}
    (h : Underway r ids left w) (hv : v.state.WellFormed) (hd : v.state.dialog = w.state.dialog)
    (ht : v.state.targets = w.state.targets) (ho : v.state.outcomes = w.state.outcomes)
    (hc : v.state.completed = w.state.completed) (hs : v.source = w.source) :
    Underway r ids left v := by
  refine ⟨hv, hd ▸ h.named, ht ▸ h.known, ?_⟩
  cases h.phase with
  | spared source undone last => exact .spared (hs.trans source) (hc ▸ undone) last
  | struck harm done last =>
    exact .struck (hs ▸ harm.of_eq ht fun k => by rw [ho]) (hc ▸ done) last

section

variable {t : Table δ Roster} {r : Roster} {ids rest : List String} {step : String}
  {w u : World δ Roster} {e : Failure}

/-- A step before damage is applied, and other than the one that does it. -/
theorem Underway.still (ht : t.source = Roster.source) (h : Underway r ids (step :: rest) w)
    (hsource : w.source = r) {m : Handler δ Roster}
    (hm : Entries.get? (shippedHandlers t) step = some m) (hne : step ≠ ApplyDamage.stepId) :
    Still (Known r ids) w (perform m w).2 :=
  still_shipped ht h.wellFormed h.named h.known (Entries.mem_of_get? hm) hne fun _ => hsource

theorem Underway.settled (hw : u.state.WellFormed) (hnamed : u.state.dialog.targetIds = ids)
    (hknown : Known r ids u.state.targets) (observers : List Observer) (known : Nat)
    (hphase : ∀ v : World δ Roster, v.source = u.source → v.state.targets = u.state.targets →
      v.state.outcomes = u.state.outcomes → v.state.completed = u.state.completed ++ [step] →
      Phase r rest v) :
    Underway r ids rest (u.settled observers step known) := by
  obtain ⟨c, es, hv⟩ := settled_frame u observers step known
  have hwf := wellFormed_settled hw observers step known
  rw [hv] at hwf ⊢
  exact ⟨hwf, hnamed, hknown, hphase _ rfl rfl rfl rfl⟩

end

section

variable {t : Table δ Roster} {observers : List Observer} {r : Roster} {ids l : List String}
  {w u v : World δ Roster} {x : Result Unit}

end

end Encounter.Run
