import Encounter.Proofs.Result
import Encounter.Proofs.Run.Mirror
import Encounter.Proofs.Run.Session

namespace Encounter.Run

open ActionState

variable {δ σ : Type}

def ActionState.recordedAll (s : ActionState) (f : Target → TargetOutcome → TargetOutcome)
    (targets : List Target) : ActionState :=
  targets.foldl (fun s y => s.recorded y (f y)) s

theorem ActionState.WellFormed.recordedAll {s : ActionState} (h : s.WellFormed)
    (f : Target → TargetOutcome → TargetOutcome) (targets : List Target) :
    (s.recordedAll f targets).WellFormed := by
  induction targets generalizing s with
  | nil => exact h
  | cons y ys ih => exact ih (h.recorded y (f y))

theorem recordedAll_frame (s : ActionState) (f : Target → TargetOutcome → TargetOutcome)
    (targets : List Target) : ∃ outs, s.recordedAll f targets = { s with outcomes := outs } := by
  induction targets generalizing s with
  | nil => exact ⟨s.outcomes, rfl⟩
  | cons y ys ih =>
    obtain ⟨outs, h⟩ := ih (s.recorded y (f y))
    exact ⟨outs, h⟩

section

variable {f : Target → TargetOutcome → TargetOutcome} {targets : List Target} {x : Target}

theorem outcome?_recordedAll_of_notMem (s : ActionState) {id : String}
    (h : ∀ y ∈ targets, y.id ≠ id) : (s.recordedAll f targets).outcome? id = s.outcome? id := by
  induction targets generalizing s with
  | nil => rfl
  | cons y ys ih =>
    refine (ih (s.recorded y (f y)) fun z hz => h z (List.mem_cons_of_mem _ hz)).trans ?_
    rw [outcome?_recorded, if_neg (h y List.mem_cons_self).symm]

theorem exists_outcome_recordedAll (s : ActionState) {id : String}
    (h : ∃ y ∈ targets, y.id = id) :
    ∃ z o, (s.recordedAll f targets).outcome? id = some (f z o) := by
  induction targets generalizing s with
  | nil => exact nomatch h
  | cons y ys ih =>
    by_cases hys : ∃ z ∈ ys, z.id = id
    · exact ih (s.recorded y (f y)) hys
    · obtain ⟨z, hz, hid⟩ := h
      obtain rfl | hz := List.mem_cons.mp hz
      · refine ⟨z, s.outcomeOf z, ?_⟩
        refine (outcome?_recordedAll_of_notMem (s.recorded z (f z))
          fun y hy he => hys ⟨y, hy, he⟩).trans ?_
        rw [outcome?_recorded, if_pos hid.symm]
      · exact (hys ⟨z, hz, hid⟩).elim

theorem outcome?_recordedAll (s : ActionState) (hf : ∀ o, f x (f x o) = f x o)
    (hd : ∀ y ∈ targets, y.id = x.id → y = x) (hx : x ∈ targets) :
    (s.recordedAll f targets).outcome? x.id = some (f x (s.outcomeOf x)) := by
  induction targets generalizing s with
  | nil => cases hx
  | cons y ys ih =>
    change ((s.recorded y (f y)).recordedAll f ys).outcome? x.id = _
    have hrest : ∀ z ∈ ys, z.id = x.id → z = x := fun z hz => hd z (List.mem_cons_of_mem _ hz)
    by_cases hy : y.id = x.id
    · obtain rfl := hd y List.mem_cons_self hy
      have hone : (s.recorded y (f y)).outcome? y.id = some (f y (s.outcomeOf y)) := by
        rw [outcome?_recorded, if_pos rfl]
      by_cases hm : y ∈ ys
      · rw [ih (s.recorded y (f y)) hrest hm, outcomeOf, hone, Option.getD_some, hf]
      · rw [outcome?_recordedAll_of_notMem _ fun z hz hid => hm (hrest z hz hid ▸ hz), hone]
    · have hm : x ∈ ys := (List.mem_cons.mp hx).resolve_left fun h => hy (h ▸ rfl)
      have ho : (s.recorded y (f y)).outcomeOf x = s.outcomeOf x := by
        rw [outcomeOf, outcome?_recorded, if_neg (Ne.symm hy), outcomeOf]
      rw [ih (s.recorded y (f y)) hrest hm, ho]

/-- What is recorded of some of the targets changes a record only if its target is among them. -/
theorem outcome?_recordedAll_of_some (s : ActionState) {o : TargetOutcome}
    (hf : ∀ o, f x (f x o) = f x o) (hd : ∀ y ∈ targets, y.id = x.id → y = x)
    (ho : s.outcome? x.id = some o) :
    (s.recordedAll f targets).outcome? x.id = some (if x ∈ targets then f x o else o) := by
  split
  · rename_i hx
    rw [outcome?_recordedAll s hf hd hx, outcomeOf, ho, Option.getD_some]
  · rename_i hx
    rw [outcome?_recordedAll_of_notMem s fun y hy hid => hx (hd y hy hid ▸ hy), ho]

theorem outcome?_recordedAll_const (s : ActionState) {g : TargetOutcome → TargetOutcome}
    (hg : ∀ o, g (g o) = g o) (h : ∀ y ∈ targets, (s.outcome? y.id).isSome) (id : String) :
    (s.recordedAll (fun _ => g) targets).outcome? id =
      (s.outcome? id).map fun o => if id ∈ targets.map (·.id) then g o else o := by
  induction targets generalizing s with
  | nil => simp [recordedAll]
  | cons y ys ih =>
    have hone : ∀ k, (s.recorded y g).outcome? k =
        (s.outcome? k).map fun o => if k = y.id then g o else o := by
      intro k
      obtain ⟨o, ho⟩ := Option.isSome_iff_exists.mp (h y List.mem_cons_self)
      rw [outcome?_recorded, outcomeOf, ho]
      by_cases hk : k = y.id
      · simp [hk, ho]
      · simp [hk]
    refine (ih (s.recorded y g) fun z hz => ?_).trans ?_
    · rw [hone, Option.isSome_map]
      exact h z (List.mem_cons_of_mem _ hz)
    · rw [hone, Option.map_map]
      refine congrArg (fun f => (s.outcome? id).map f) (funext fun o => ?_)
      by_cases hy : id = y.id <;> by_cases hys : id ∈ ys.map (·.id) <;> simp [hy, hys, hg]

theorem outcome?_recordedAll_id (s : ActionState) (id' : String) :
    (s.recordedAll (fun _ => id) targets).outcome? id' =
      (s.outcome? id').or ((targets.find? (·.id == id')).map .ofTarget) := by
  induction targets generalizing s with
  | nil => exact Option.or_none.symm
  | cons y ys ih =>
    refine (ih (s.recorded y id)).trans ?_
    rw [outcome?_recorded, outcomeOf]
    by_cases hy : y.id = id'
    · subst hy
      cases ho : s.outcome? y.id <;> simp
    · simp [hy, Ne.symm hy]

/-- A loop that records something of every target, and reports what it likes. -/
theorem perform_forM_recorded {g : Target → RunM δ σ Unit}
    (hg : ∀ y (w : World δ σ), w.state.WellFormed → ∃ es, perform (g y) w =
      (.ok (), { w with state := w.state.recorded y (f y), events := es }))
    (targets : List Target) {w : World δ σ} (hw : w.state.WellFormed) :
    ∃ es, perform (targets.forM g) w =
      (.ok (), { w with state := w.state.recordedAll f targets, events := es }) := by
  induction targets generalizing w with
  | nil => exact ⟨w.events, rfl⟩
  | cons y ys ih =>
    obtain ⟨es, hy⟩ := hg y w hw
    obtain ⟨es', hys⟩ := ih (w := { w with state := w.state.recorded y (f y), events := es })
      (hw.recorded y (f y))
    exact ⟨es', by rw [perform_forM_cons, perform_bind_ok _ hy, hys]; rfl⟩

end

/-- The attack on one target with a roll of its own: how it is resolved, and the dice after it. -/
def Attack.solo (t : Table δ σ) (s : ActionState) (a : Actor) (dice : δ) (x : Target) :
    Result (Check.Resolution × δ) := do
  let pool ← t.builder.build (request s a)
  let ms ← t.registry.rangeModifications a "attack-resolve" "attack" (some s.dialog) s.vetoed
  let (answer, dice) := t.evaluator.evaluate pool.formula dice
  let o ← answer
  return (t.engine.classifyOutcome o x.armorClass .attack s.dialog.criticalRange ms, dice)

/-- The damage to one target that was hit. -/
def Damage.solo (t : Table δ σ) (s : ActionState) (a : Actor) (dice : δ) (critical : Bool) :
    Result (List (String × Int)) := do
  let doublesDice := t.settings.rules.criticalRule == .doubleDice
  let pool ← t.builder.build (request s a (critical && doublesDice))
  let o ← (t.evaluator.evaluate pool.formula dice).1
  let damage := totals t.builder.baseType o
  return if critical && !doublesDice then doubled damage else damage

theorem exists_of_roll_ok {t : Table δ σ} {step formula : String} {id : Option String}
    {w v : World δ σ} {o : Dice.Outcome} (h : perform (t.roll step formula id) w = (.ok o, v)) :
    t.evaluator.evaluate formula w.dice = (.ok o, v.dice) ∧
      v = { w with state := w.state.rolled step formula id o, dice := v.dice } := by
  rw [perform_roll] at h
  rcases he : t.evaluator.evaluate formula w.dice with ⟨e | o', dice⟩ <;> rw [he] at h
  · cases h
  · obtain ⟨hr, rfl⟩ := Prod.ext_iff.mp h
    obtain ⟨u, -, rfl⟩ := Result.map_eq_ok hr
    exact ⟨rfl, rfl⟩

theorem exists_of_lift_ok {α : Type} {r : Result α} {w v : World δ σ} {a : α}
    (h : perform (liftM r : RunM δ σ α) w = (.ok a, v)) : r = .ok a ∧ v = w := by
  rw [perform_lift] at h
  cases h
  exact ⟨rfl, rfl⟩

theorem perform_reportNatural (o : Dice.Outcome) (w : World δ σ) :
    ∃ es, perform (reportNatural o : RunM δ σ Unit) w = (.ok (), { w with events := es }) := by
  unfold reportNatural
  split
  · exact ⟨_, perform_report _ w⟩
  · exact ⟨w.events, rfl⟩

theorem Attack.perform_resolve (t : Table δ σ) (d : Dialog) (ms : List Check.RangeModification)
    (o : Dice.Outcome) (y : Target) (w : World δ σ) (hw : w.state.WellFormed) :
    ∃ es, perform (resolve t d ms o y) w = (.ok (), { w with
      state := w.state.recorded y (recorded
        (t.engine.classifyOutcome o y.armorClass .attack d.criticalRange ms))
      events := es }) := by
  obtain ⟨es, h⟩ := perform_reportNatural o w
  exact ⟨_, (perform_bind_ok _ h).trans
    (perform_bind_ok _ (perform_record (w := { w with events := es }) hw y _))⟩

theorem exists_of_requireActor {step : String} {w v : World δ σ} {a : Actor}
    (h : perform (requireActor step : RunM δ σ Actor) w = (.ok a, v)) :
    w.state.actor = some a ∧ v = w := by
  rw [requireActor, perform_bind_ok _ (perform_readState w)] at h
  cases ha : w.state.actor with
  | none =>
    rw [ha] at h
    cases h
  | some b =>
    rw [ha] at h
    cases h
    exact ⟨rfl, rfl⟩

/-- What later steps read of a state. -/
structure SameFight (s t : ActionState) : Prop extends SamePlan s t where
  actor : t.actor = s.actor
  targets : t.targets = s.targets
  outcomes : t.outcomes = s.outcomes

theorem SameFight.liveTargets {s s' : ActionState} (h : SameFight s s') :
    s'.liveTargets = s.liveTargets := by
  rw [ActionState.liveTargets, h.targets, ActionState.liveTargets]

def Attack.answer (t : Table δ σ) (d : Dialog) (ms : List Check.RangeModification)
    (o : Dice.Outcome) (x : Target) : Check.Resolution :=
  t.engine.classifyOutcome o x.armorClass .attack d.criticalRange ms

/-- An attack with one roll for all targets records of each of them what it would of that one
alone. -/
theorem Attack.exists_of_run {t : Table δ σ} {w v : World δ σ} (hw : w.state.WellFormed)
    (hshared : rollsSeparately t w.state.dialog = false) (hlive : w.state.liveTargets ≠ [])
    (h : perform (run t) w = (.ok (), v)) :
    ∃ a ms o s, w.state.actor = some a ∧
      (∀ y, solo t w.state a w.dice y = .ok (answer t w.state.dialog ms o y, v.dice)) ∧
      SameFight w.state s ∧
      v.state = s.recordedAll (fun y => recorded (answer t w.state.dialog ms o y))
        w.state.liveTargets := by
  obtain ⟨a, u, ha, hrun⟩ := exists_of_perform_bind h
  obtain ⟨hactor, rfl⟩ := exists_of_requireActor ha
  rw [perform_bind_ok _ (perform_readState u)] at hrun
  obtain ⟨pool, u₁, hp, hrun⟩ := exists_of_perform_bind hrun
  obtain ⟨hpool, rfl⟩ := exists_of_lift_ok hp
  rw [storePool, perform_bind_ok _ (perform_update_ok (hw.of_steps rfl rfl))] at hrun
  obtain ⟨ms, u₂, hm, hrun⟩ := exists_of_perform_bind hrun
  obtain ⟨hms, rfl⟩ := exists_of_lift_ok hm
  rw [if_neg (by simpa using hlive), if_neg (by simp [hshared])] at hrun
  obtain ⟨o, u₃, ho, hrun⟩ := exists_of_perform_bind hrun
  obtain ⟨hev, hu⟩ := exists_of_roll_ok ho
  have hfight : SameFight u₁.state u₃.state := by
    rw [hu]
    exact ⟨⟨rfl, rfl, rfl⟩, rfl, rfl, rfl⟩
  obtain ⟨es, hrec⟩ := perform_forM_recorded (Attack.perform_resolve t u₁.state.dialog ms o)
    u₁.state.liveTargets (w := u₃) (by rw [hu]; exact hw.of_steps rfl rfl)
  cases hrun.symm.trans hrec
  refine ⟨a, ms, o, u₃.state, hactor, fun y => ?_, hfight, rfl⟩
  rw [solo, hpool, hms]
  exact congrArg (fun r : Result Dice.Outcome × δ =>
    r.1 >>= fun o => Except.ok (answer t u₁.state.dialog ms o y, r.2)) hev

theorem exists_of_perform_optional {α : Type} {p : Prop} [Decidable p] {m : RunM δ σ Unit}
    {g : Unit → RunM δ σ α} {w v : World δ σ} {b : α}
    (h : perform (if p then m >>= g else g ()) w = (.ok b, v)) :
    ∃ u, (p ∧ perform m w = (.ok (), u) ∨ ¬ p ∧ u = w) ∧ perform (g ()) u = (.ok b, v) := by
  split at h
  · rename_i hp
    obtain ⟨⟨⟩, u, hm, hg⟩ := exists_of_perform_bind h
    exact ⟨u, .inl ⟨hp, hm⟩, hg⟩
  · rename_i hp
    exact ⟨w, .inr ⟨hp, rfl⟩, h⟩

namespace Damage

variable {t : Table δ σ} {w v : World δ σ} {a : Actor}

theorem exists_of_rollPool {key : String} {critical : Bool} {p : Pool.DicePool × Dice.Outcome}
    (hw : w.state.WellFormed) (h : perform (rollPool t a key critical) w = (.ok p, v)) :
    t.builder.build (request w.state a critical) = .ok p.1 ∧
      t.evaluator.evaluate p.1.formula w.dice = (.ok p.2, v.dice) ∧
      SameFight w.state v.state ∧ v.state.WellFormed := by
  rw [rollPool, perform_bind_ok _ (perform_readState w)] at h
  obtain ⟨pool, u, hp, hrun⟩ := exists_of_perform_bind h
  obtain ⟨hpool, rfl⟩ := exists_of_lift_ok hp
  rw [storePool, perform_bind_ok _ (perform_update_ok (hw.of_steps rfl rfl))] at hrun
  obtain ⟨o, u', ho, hlast⟩ := exists_of_perform_bind hrun
  obtain ⟨hev, hu⟩ := exists_of_roll_ok ho
  cases hlast
  refine ⟨hpool, hev, ?_, ?_⟩
  · rw [hu]
    exact ⟨⟨rfl, rfl, rfl⟩, rfl, rfl, rfl⟩
  · rw [hu]
    exact hw.of_steps rfl rfl

theorem perform_deal (damage : List (String × Int)) (targets : List Target)
    (hw : w.state.WellFormed) : ∃ es, perform (deal damage targets) w =
      (.ok (), { w with
        state := w.state.recordedAll (fun _ => dealt damage) targets, events := es }) :=
  perform_forM_recorded (fun y u hu => ⟨u.events, perform_record hu y (dealt damage)⟩) targets hw

theorem exists_of_rollNormal {targets : List Target} (hw : w.state.WellFormed)
    (h : perform (rollNormal t a targets) w = (.ok (), v)) :
    ∃ damage s, solo t w.state a w.dice false = .ok damage ∧ SameFight w.state s ∧
      v.state = s.recordedAll (fun _ => dealt damage) targets := by
  obtain ⟨⟨pool, o⟩, u, hp, h⟩ := exists_of_perform_bind h
  obtain ⟨hpool, hev, hfight, hu⟩ := exists_of_rollPool hw hp
  obtain ⟨es, hd⟩ := perform_deal (totals t.builder.baseType o) targets hu
  cases h.symm.trans hd
  refine ⟨_, u.state, ?_, hfight, rfl⟩
  rw [solo, Bool.false_and, hpool]
  change (t.evaluator.evaluate pool.formula w.dice).1 >>= _ = _
  rw [hev]
  rfl

theorem exists_of_rollCritical {targets : List Target} (hw : w.state.WellFormed)
    (h : perform (rollCritical t a targets) w = (.ok (), v)) :
    ∃ damage s, solo t w.state a w.dice true = .ok damage ∧ SameFight w.state s ∧
      v.state = s.recordedAll (fun _ => dealt damage) targets := by
  obtain ⟨⟨pool, o⟩, u, hp, h⟩ := exists_of_perform_bind h
  obtain ⟨hpool, hev, hfight, hu⟩ := exists_of_rollPool hw hp
  obtain ⟨es, hd⟩ := perform_deal (if t.settings.rules.criticalRule == .doubleDice then
    totals t.builder.baseType o else doubled (totals t.builder.baseType o)) targets hu
  cases h.symm.trans hd
  refine ⟨_, u.state, ?_, hfight, rfl⟩
  rw [solo, Bool.true_and, hpool]
  change (t.evaluator.evaluate pool.formula w.dice).1 >>= _ = _
  rw [hev]
  cases t.settings.rules.criticalRule == .doubleDice <;> rfl

/-- The state once every target that may be dealt damage has a record. -/
def ready (s : ActionState) : ActionState := s.recordedAll (fun _ => id) (affectedTargets s)

/-- Where there are targets, the step rolls for those that were hit and then for those that were hit
critically, if there are any. -/
theorem exists_rolls_of_run (hw : w.state.WellFormed) (hlive : w.state.liveTargets ≠ [])
    (h : perform (run t) w = (.ok (), v)) :
    ∃ a u₁ u₂ u₃ normal critical, w.state.actor = some a ∧
      u₁.state = ready w.state ∧ u₁.dice = w.dice ∧
      normal = (affectedTargets w.state).filter (fun y => !isCritical (ready w.state) y) ∧
      critical = (affectedTargets w.state).filter (isCritical (ready w.state)) ∧
      (normal ≠ [] ∧ perform (rollNormal t a normal) u₁ = (.ok (), u₂) ∨ normal = [] ∧ u₂ = u₁) ∧
      (critical ≠ [] ∧ perform (rollCritical t a critical) u₂ = (.ok (), u₃) ∨
        critical = [] ∧ u₃ = u₂) ∧
      v.state = u₃.state := by
  obtain ⟨a, u, ha, hrun⟩ := exists_of_perform_bind h
  obtain ⟨hactor, rfl⟩ := exists_of_requireActor ha
  obtain ⟨es, hopen⟩ := perform_forM_recorded (f := fun _ => id)
    (fun y u hu => ⟨u.events, perform_record hu y id⟩) (affectedTargets u.state) hw
  rw [perform_bind_ok _ (perform_readState u), if_neg (by simpa using hlive)] at hrun
  dsimp only at hrun
  rw [openOutcomes, perform_bind_ok _ hopen, perform_bind_ok _ (perform_readState _)] at hrun
  obtain ⟨u₂, hnormal, hrest⟩ := exists_of_perform_optional hrun
  obtain ⟨u₃, hcritical, hlast⟩ := exists_of_perform_optional hrest
  cases hlast
  have hempty : ∀ ts : List Target, (!ts.isEmpty) = true ↔ ts ≠ [] := by simp
  rw [hempty, ne_eq, not_not] at hnormal hcritical
  exact ⟨a, { u with state := ready u.state, events := es }, u₂, u₃, _, _, hactor, rfl, rfl, rfl,
    rfl, hnormal, hcritical, rfl⟩

end Damage

/-- One roll was resolved against every live target, each of which has a record of it. Whether it is
critical does not depend on the target. -/
structure SharedRoll (s : ActionState) (R : Target → Check.Resolution) (isCritical : Bool) :
    Prop where
  critical : ∀ y, (R y).isCriticalSuccess = isCritical
  success : isCritical = true → ∀ y, (R y).success = true
  records : ∀ y ∈ s.liveTargets, ∃ z o, s.outcome? y.id = some (Attack.recorded (R z) o)

namespace SharedRoll

variable {s s' : ActionState} {R : Target → Check.Resolution} {isCritical : Bool}
  {targets : List Target}

theorem critical_recorded (h : SharedRoll s R isCritical) (z : Target) (o : TargetOutcome) :
    (Attack.recorded (R z) o).critical = isCritical := by
  change ((R z).success && (R z).isCriticalSuccess) = isCritical
  have hs := h.success
  rw [h.critical z]
  cases isCritical with
  | false => rw [Bool.and_false]
  | true => rw [hs rfl z, Bool.and_true]

/-- All of the targets that are dealt damage were hit critically, or none. -/
theorem filter_isCritical (h : SharedRoll s R isCritical)
    (hs : ∀ id, s'.outcome? id = s.outcome? id) (ht : ∀ y ∈ targets, y ∈ s.liveTargets) :
    targets.filter (Damage.isCritical s') = (if isCritical then targets else []) ∧
      targets.filter (fun y => !Damage.isCritical s' y) = if isCritical then [] else targets := by
  have hall : ∀ y ∈ targets, Damage.isCritical s' y = isCritical := by
    intro y hy
    obtain ⟨z, o, ho⟩ := h.records y (ht y hy)
    rw [Damage.isCritical, hs, ho]
    exact h.critical_recorded z o
  cases isCritical with
  | true =>
    exact ⟨List.filter_eq_self.mpr hall, List.filter_eq_nil_iff.mpr fun y hy => by simp [hall y hy]⟩
  | false =>
    exact ⟨List.filter_eq_nil_iff.mpr fun y hy => by simp [hall y hy],
      List.filter_eq_self.mpr fun y hy => by simp [hall y hy]⟩

end SharedRoll

theorem mem_affectedTargets_iff {s : ActionState} {x : Target} {o : TargetOutcome}
    (hx : x ∈ s.liveTargets) (ho : s.outcome? x.id = some o) (hattack : o.attack.isSome) :
    x ∈ affectedTargets s ↔ o.hit.getD false = true := by
  have haffected : affectedTargets s = s.liveTargets.filter (wasHit s) :=
    if_pos (List.any_eq_true.mpr ⟨_, Entries.mem_of_get? ho, hattack⟩)
  rw [haffected, List.mem_filter, wasHit, ho]
  exact ⟨fun hm => hm.2, fun hs => ⟨hx, hs⟩⟩

/-- After a shared roll a target that was hit is dealt what it would be dealt alone. -/
theorem Damage.exists_of_run {t : Table δ σ} {w v : World δ σ} {R : Target → Check.Resolution}
    {isCritical : Bool} {x : Target} {o : TargetOutcome} (hw : w.state.WellFormed)
    (hR : SharedRoll w.state R isCritical) (hx : x ∈ w.state.liveTargets)
    (honly : ∀ y ∈ w.state.liveTargets, y.id = x.id → y = x)
    (ho : w.state.outcome? x.id = some (Attack.recorded (R x) o))
    (h : perform (run t) w = (.ok (), v)) :
    ∃ a, w.state.actor = some a ∧
      if (R x).success then
        ∃ damage, solo t w.state a w.dice isCritical = .ok damage ∧
          v.state.outcome? x.id = some (dealt damage (Attack.recorded (R x) o))
      else v.state.outcome? x.id = some (Attack.recorded (R x) o) := by
  obtain ⟨a, u₁, u₂, u₃, normal, critical, hactor, hu₁, hdice, hnormal, hcritical, hn, hc, hv⟩ :=
    exists_rolls_of_run hw (List.ne_nil_of_mem hx) h
  have hmem : ∀ y ∈ affectedTargets w.state, y ∈ w.state.liveTargets :=
    fun y hy => mem_liveTargets_of_affected hy
  have hready : ∀ k, (ready w.state).outcome? k = w.state.outcome? k :=
    fun k => (outcome?_recordedAll_const w.state (g := id) (fun _ => rfl) (fun y hy => by
      obtain ⟨z, o', ho'⟩ := hR.records y (hmem y hy)
      rw [ho', Option.isSome_some]) k).trans (by simp)
  obtain ⟨hallCritical, hallNormal⟩ := hR.filter_isCritical hready hmem
  obtain ⟨outs, houts⟩ := recordedAll_frame w.state (fun _ => id) (affectedTargets w.state)
  have hw₁ : u₁.state.WellFormed := hu₁ ▸ hw.recordedAll (fun _ => id) (affectedTargets w.state)
  have hsolo : solo t u₁.state a u₁.dice isCritical = solo t w.state a w.dice isCritical := by
    rw [hu₁, hdice, ready, houts]
    rfl
  refine ⟨a, hactor, ?_⟩
  have hhit : x ∈ affectedTargets w.state ↔ (R x).success = true :=
    mem_affectedTargets_iff hx ho rfl
  have hrolled : ∀ damage s, solo t u₁.state a u₁.dice isCritical = .ok damage →
      SameFight u₁.state s →
      v.state = s.recordedAll (fun _ => dealt damage) (affectedTargets w.state) →
      if (R x).success then
        ∃ damage, solo t w.state a w.dice isCritical = .ok damage ∧
          v.state.outcome? x.id = some (dealt damage (Attack.recorded (R x) o))
      else v.state.outcome? x.id = some (Attack.recorded (R x) o) := by
    intro damage s hdamage hfight hv
    have hs : s.outcome? x.id = some (Attack.recorded (R x) o) := by
      rw [ActionState.outcome?, hfight.outcomes, hu₁]
      exact (hready x.id).trans ho
    have hdealt := outcome?_recordedAll_of_some (f := fun _ => dealt damage) s (fun _ => rfl)
      (fun y hy => honly y (hmem y hy)) hs
    simp only [← hv, hhit] at hdealt
    split
    · rename_i hit
      exact ⟨damage, hsolo ▸ hdamage, hdealt.trans (congrArg some (if_pos hit))⟩
    · rename_i hit
      exact hdealt.trans (congrArg some (if_neg hit))
  cases isCritical with
  | false =>
    obtain ⟨hne, -⟩ | ⟨-, rfl⟩ := hc
    · exact (hne (hcritical.trans hallCritical)).elim
    obtain ⟨-, hroll⟩ | ⟨hnil, rfl⟩ := hn
    · obtain ⟨damage, s, hdamage, hfight, hs⟩ := exists_of_rollNormal hw₁ hroll
      exact hrolled damage s hdamage hfight (by rw [hv, hs, hnormal, hallNormal]; rfl)
    · have hmiss : ¬ (R x).success = true := fun hit =>
        List.ne_nil_of_mem (hhit.mpr hit) (hallNormal.symm.trans (hnormal.symm.trans hnil))
      rw [if_neg hmiss, hv, hu₁]
      exact (hready x.id).trans ho
  | true =>
    obtain ⟨hne, -⟩ | ⟨-, rfl⟩ := hn
    · exact (hne (hnormal.trans hallNormal)).elim
    obtain ⟨-, hroll⟩ | ⟨hnil, -⟩ := hc
    · obtain ⟨damage, s, hdamage, hfight, hs⟩ := exists_of_rollCritical hw₁ hroll
      exact hrolled damage s hdamage hfight (by rw [hv, hs, hcritical, hallCritical]; rfl)
    · exact (List.ne_nil_of_mem (hhit.mpr (hR.success rfl x))
        (hallCritical.symm.trans (hcritical.symm.trans hnil))).elim

end Encounter.Run
