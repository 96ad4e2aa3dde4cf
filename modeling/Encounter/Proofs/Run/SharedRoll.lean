import Encounter.Proofs.Feature.Blind
import Encounter.Proofs.Run.Alone
import Encounter.Proofs.Run.Session
import Encounter.Proofs.Run.Vetoes

namespace Encounter.Run

open ActionState

variable {δ σ : Type}

/-- An attack on one target with a roll of its own, and the damage to it if the workflow deals any:
what is recorded of the target. -/
def alone (t : Table δ σ) (s : ActionState) (a : Actor) (dice : δ) (x : Target) :
    Result TargetOutcome := do
  let (r, dice) ← Attack.solo t s a dice x
  let o := Attack.recorded r (.ofTarget x)
  if s.steps.contains Damage.stepId && r.success then
    return Damage.dealt (← Damage.solo t s a dice r.isCriticalSuccess) o
  else return o

theorem SamePlan.attack_solo {s s' : ActionState} (h : SamePlan s s') (t : Table δ σ) (a : Actor)
    (dice : δ) (x : Target) : Attack.solo t s' a dice x = Attack.solo t s a dice x := by
  unfold Attack.solo Attack.request
  rw [h.dialog, h.vetoed]

theorem SamePlan.damage_solo {s s' : ActionState} (h : SamePlan s s') (t : Table δ σ) (a : Actor)
    (dice : δ) (critical : Bool) :
    Damage.solo t s' a dice critical = Damage.solo t s a dice critical := by
  unfold Damage.solo Damage.request
  rw [h.dialog, h.vetoed]

section

variable {handlers : Handlers δ σ} {observers : List Observer} {step : String}
  {rest : List String} {w v : World δ σ} {r : Result Unit}

theorem Course.next_of_completed (hk : handlers.KeepCourse)
    (h : Course handlers observers (step :: rest) w r v) (hw : w.state.WellFormed)
    (hl : w.state.remaining = step :: rest) (hs : step ≠ completeStep)
    (hd : v.state.completed = w.state.completed ++ step :: rest) :
    ∃ u w₁, StepPasses handlers step w u ∧ SameFight u.state w₁.state ∧ w₁.dice = u.dice ∧
      w₁.state.WellFormed ∧ w₁.state.remaining = rest ∧
      v.state.completed = w₁.state.completed ++ rest ∧
      Course handlers observers rest w₁ r v := by
  cases h with
  | cancelled hc => exact absurd hd (by simp [World.halted])
  | @failed _ _ _ u e hc hf =>
    have hu := (hf.sameCourse hk hw).completed
    exact absurd (hu.symm.trans hd) (by simp)
  | finished hc hp hs' => exact (hs hs').elim
  | @next _ _ _ u _ _ hc hp hs' hr =>
    obtain ⟨hw₁, hl₁⟩ := wellFormed_next hk hw hl hp hs' observers w.state.errors.length
    obtain ⟨c, es, hf⟩ := settled_frame u observers step w.state.errors.length
    refine ⟨u, _, hp, ?_, ?_, hw₁, hl₁, ?_, hr⟩
    · rw [hf]
      exact ⟨⟨rfl, rfl, rfl⟩, rfl, rfl, rfl⟩
    · rw [hf]
      rfl
    · rw [hd, hf, ← (hp.sameCourse hk hw).completed]
      exact List.append_cons _ _ _

theorem Course.last_of_completed (hk : handlers.KeepCourse)
    (h : Course handlers observers [completeStep] w r v) (hw : w.state.WellFormed)
    (hd : v.state.completed = w.state.completed ++ [completeStep]) :
    ∃ u, StepPasses handlers completeStep w u ∧ v.state.outcomes = u.state.outcomes := by
  cases h with
  | cancelled hc => exact absurd hd (by simp [World.halted])
  | @failed _ _ _ u e hc hf =>
    have hu := (hf.sameCourse hk hw).completed
    exact absurd (hu.symm.trans hd) (by simp)
  | @finished _ _ _ u hc hp hs =>
    obtain ⟨c, es, hf⟩ := settled_frame u observers completeStep w.state.errors.length
    exact ⟨u, hp, by rw [hf]; rfl⟩
  | next hc hp hs hr => exact (hs rfl).elim

end

theorem outcomes_of_complete {w u : World δ σ} (hw : w.state.WellFormed)
    (h : perform (Complete.run : RunM δ σ Unit) w = (.ok (), u)) :
    u.state.outcomes = w.state.outcomes := by
  have hI : Quiet fun v : World δ σ =>
      v.state.WellFormed ∧ v.state.outcomes = w.state.outcomes := ⟨fun _ h => h.1, fun _ _ h => h⟩
  have hu := Complete.run_preserves hI (fun _ _ _ h => ⟨h.1.of_steps rfl rfl, h.2⟩) w ⟨hw, rfl⟩
  rw [h] at hu
  exact hu.2

/-- The shipped workflows that attack, and then deal damage at most. -/
def attackWorkflows : List Workflow :=
  Workflow.shipped.filter fun wf => ["attack", "attack-damage"].contains wf.name

def begunPlan (t : Table δ σ) (s : ActionState) (a : Actor) : ActionState :=
  { s with vetoed := (Start.polled t s a).ids }

/-- After an attack on some targets with one roll, which is the roll that the attack on one of them
alone would make. -/
structure Attacked (t : Table δ σ) (w : World δ σ) (a : Actor) (x : Target)
    (R : Target → Check.Resolution) (u : World δ σ) : Prop where
  plan : SamePlan (begunPlan t w.state a) u.state
  actor : u.state.actor = some a
  solo : Attack.solo t (begunPlan t w.state a) a w.dice x = .ok (R x, u.dice)
  shared : SharedRoll u.state R (R x).isCriticalSuccess
  live : x ∈ u.state.liveTargets
  only : ∀ y ∈ u.state.liveTargets, y.id = x.id → y = x
  record : u.state.outcome? x.id = some (Attack.recorded (R x) (.ofTarget x))

theorem Attacked.of_sameFight {t : Table δ σ} {w u u' : World δ σ} {a : Actor} {x : Target}
    {R : Target → Check.Resolution} (h : Attacked t w a x R u) (hf : SameFight u.state u'.state)
    (hd : u'.dice = u.dice) : Attacked t w a x R u' where
  plan := ⟨hf.steps.trans h.plan.steps, hf.dialog.trans h.plan.dialog,
    hf.vetoed.trans h.plan.vetoed⟩
  actor := hf.actor.trans h.actor
  solo := hd ▸ h.solo
  shared := ⟨h.shared.critical, h.shared.success, fun y hy => by
    rw [ActionState.outcome?, hf.outcomes]
    exact h.shared.records y (hf.liveTargets ▸ hy)⟩
  live := hf.liveTargets ▸ h.live
  only := hf.liveTargets ▸ h.only
  record := by
    rw [ActionState.outcome?, hf.outcomes]
    exact h.record

theorem Attack.attacked {t : Table δ σ} {w w₁ u : World δ σ} {a : Actor} {x : Target}
    (hw : w₁.state.WellFormed) (hplan : SamePlan (begunPlan t w.state a) w₁.state)
    (hdice : w₁.dice = w.dice) (hactor : w₁.state.actor = some a) (hfresh : w₁.state.outcomes = [])
    (hshared : rollsSeparately t w.state.dialog = false) (hx : x ∈ w₁.state.liveTargets)
    (honly : ∀ y ∈ w₁.state.liveTargets, y.id = x.id → y = x)
    (h : perform (run t) w₁ = (.ok (), u)) : ∃ R, Attacked t w a x R u := by
  have hd : w₁.state.dialog = w.state.dialog := hplan.dialog
  obtain ⟨a', ms, o, s, ha, hsolo, hfight, hu⟩ :=
    exists_of_run hw (hd ▸ hshared) (List.ne_nil_of_mem hx) h
  cases hactor.symm.trans ha
  have hsuccess : ∀ y, (answer t w₁.state.dialog ms o y).isCriticalSuccess = true →
      (answer t w₁.state.dialog ms o y).success = true := fun y =>
    t.engine.success_of_isCriticalSuccess o y.armorClass .attack w₁.state.dialog.criticalRange ms
  obtain ⟨outs, houts⟩ := recordedAll_frame s
    (fun y => recorded (answer t w₁.state.dialog ms o y)) w₁.state.liveTargets
  have hframe : u.state = { s with outcomes := outs } := hu.trans houts
  have htargets : u.state.liveTargets = w₁.state.liveTargets := by
    rw [hframe]
    exact hfight.liveTargets
  have hopen : s.outcomeOf x = .ofTarget x := by
    rw [outcomeOf, ActionState.outcome?, hfight.outcomes, hfresh]
    rfl
  refine ⟨answer t w₁.state.dialog ms o, ?_, ?_, ?_, ?_, ?_, ?_, ?_⟩
  · rw [hframe]
    exact ⟨hfight.steps.trans hplan.steps, hfight.dialog.trans hplan.dialog,
      hfight.vetoed.trans hplan.vetoed⟩
  · rw [hframe]
    exact hfight.actor.trans hactor
  · rw [← hplan.attack_solo, ← hdice]
    exact hsolo x
  · refine ⟨fun y => rfl, fun hc y => hsuccess y hc, fun y hy => ?_⟩
    rw [hu]
    exact exists_outcome_recordedAll s ⟨y, htargets ▸ hy, rfl⟩
  · exact htargets ▸ hx
  · exact htargets ▸ honly
  · rw [hu, outcome?_recordedAll s (fun _ => rfl) honly hx, hopen]

section

variable {t : Table δ σ} {observers : List Observer} {w v : World δ σ} {r : Result Unit}
  {rest : List String} {x : Target}

/-- The first two steps of a run that completes: one roll for all targets, and the record of a
target is the one that it would have alone. -/
theorem Course.exists_attacked (hw : w.state.WellFormed)
    (h : Course (shippedHandlers t) observers (Start.stepId :: Attack.stepId :: rest) w r v)
    (hl : w.state.remaining = Start.stepId :: Attack.stepId :: rest)
    (hd : v.state.completed = w.state.completed ++ Start.stepId :: Attack.stepId :: rest)
    (hfresh : w.state.outcomes = [])
    (hshared : Attack.rollsSeparately t w.state.dialog = false)
    (hx : x ∈ Start.found t w.state.dialog w.source) (hlive : x.isLive = true)
    (honly : ∀ y ∈ Start.found t w.state.dialog w.source, y.isLive = true → y.id = x.id → y = x) :
    ∃ a R u, Start.actorFor t w.state w.source = .ok a ∧
      Attacked t w a x R u ∧ u.state.WellFormed ∧ u.state.remaining = rest ∧
      v.state.completed = u.state.completed ++ rest ∧
      Course (shippedHandlers t) observers rest u r v := by
  have hk := shippedHandlers_keepCourse t
  obtain ⟨u₁, w₁, hp₁, hf₁, hd₁, hw₁, hl₁, hc₁, h₁⟩ := h.next_of_completed hk hw hl (by decide) hd
  have hstart : perform (Start.run t) w = (.ok (), u₁) := perform_of_passes rfl hp₁
  obtain ⟨a, es, hactor, hresult, hu₁⟩ := Start.exists_of_run_ok hw (by rw [hstart])
  rw [hstart] at hu₁
  obtain rfl : u₁ = _ := hu₁
  obtain ⟨u₂, w₂, hp₂, hf₂, hd₂, hw₂, hl₂, hc₂, h₂⟩ :=
    h₁.next_of_completed hk hw₁ hl₁ (by decide) hc₁
  have hattack : perform (Attack.run t) w₁ = (.ok (), u₂) := perform_of_passes rfl hp₂
  have hplan : SamePlan (begunPlan t w.state a) w₁.state :=
    ⟨hf₁.steps, hf₁.dialog, hf₁.vetoed.trans (Start.begun_vetoed _ hresult)⟩
  have htargets : w₁.state.liveTargets =
      (Start.found t w.state.dialog w.source).filter (·.isLive) := by
    rw [ActionState.liveTargets, hf₁.targets]
    rfl
  obtain ⟨R, hR⟩ := Attack.attacked hw₁ hplan hd₁ hf₁.actor (hf₁.outcomes.trans hfresh) hshared
    (htargets ▸ List.mem_filter.mpr ⟨hx, hlive⟩)
    (htargets ▸ fun y hy => honly y (List.mem_filter.mp hy).1 (List.mem_filter.mp hy).2) hattack
  exact ⟨a, R, w₂, hactor, hR.of_sameFight hf₂ hd₂, hw₂, hl₂, hc₂, h₂⟩

theorem Attacked.alone_eq {u : World δ σ} {a : Actor} {R : Target → Check.Resolution}
    (h : Attacked t w a x R u) (hsteps : w.state.steps.contains Damage.stepId = false) :
    alone t (begunPlan t w.state a) a w.dice x = .ok (Attack.recorded (R x) (.ofTarget x)) := by
  have hs : (begunPlan t w.state a).steps.contains Damage.stepId = false := hsteps
  rw [alone, h.solo]
  change (if ((begunPlan t w.state a).steps.contains Damage.stepId && (R x).success) = true
    then _ else _) = _
  rw [hs, Bool.false_and, if_neg Bool.false_ne_true]
  rfl

/-- The damage that follows leaves what it would leave of the target alone. -/
theorem Attacked.alone_eq_dealt {u u' : World δ σ} {a : Actor} {R : Target → Check.Resolution}
    (h : Attacked t w a x R u) (hu : u.state.WellFormed)
    (hsteps : w.state.steps.contains Damage.stepId = true)
    (hrun : perform (Damage.run t) u = (.ok (), u')) :
    ∃ o, alone t (begunPlan t w.state a) a w.dice x = .ok o ∧ u'.state.outcome? x.id = some o := by
  obtain ⟨a', hactor, hdealt⟩ := Damage.exists_of_run hu h.shared h.live h.only h.record hrun
  cases h.actor.symm.trans hactor
  have hs : (begunPlan t w.state a).steps.contains Damage.stepId = true := hsteps
  rw [alone, h.solo]
  change ∃ o, (if ((begunPlan t w.state a).steps.contains Damage.stepId && (R x).success) = true
    then _ else _) = _ ∧ _
  rw [hs, Bool.true_and]
  split at hdealt
  · rename_i hit
    obtain ⟨damage, hsolo, ho⟩ := hdealt
    rw [h.plan.damage_solo] at hsolo
    rw [if_pos hit, hsolo]
    exact ⟨_, rfl, ho⟩
  · rename_i hit
    rw [if_neg hit]
    exact ⟨_, rfl, hdealt⟩

/-- A run that attacks all targets with one roll, and completes, records of each target what an
attack on that one alone would. -/
theorem execute_alone {wf : Workflow} (hwf : wf ∈ attackWorkflows)
    (hfresh : ActionState.create wf w.state.dialog = .ok w.state)
    (hshared : Attack.rollsSeparately t w.state.dialog = false)
    (hdone : (perform (execute (shippedHandlers t) observers) w).2.state.completed = wf.steps)
    (hx : x ∈ Start.found t w.state.dialog w.source) (hlive : x.isLive = true)
    (honly : ∀ y ∈ Start.found t w.state.dialog w.source, y.isLive = true → y.id = x.id → y = x) :
    ∃ a o, Start.actorFor t w.state w.source = .ok a ∧
      alone t (begunPlan t w.state a) a w.dice x = .ok o ∧
      (perform (execute (shippedHandlers t) observers) w).2.state.outcome? x.id = some o := by
  obtain ⟨hw, name, hs⟩ := create_eq_ok hfresh
  have hk := shippedHandlers_keepCourse t
  have hsteps : w.state.steps = wf.steps := by rw [hs]
  have hl : w.state.remaining = wf.steps := by rw [hs]; rfl
  have hnew : w.state.outcomes = [] := by rw [hs]
  have hnone : w.state.completed = [] := by rw [hs]
  rw [perform_execute] at hdone ⊢
  rcases hrun : perform (runFrom (shippedHandlers t) observers w.state.remaining) w.started with
    ⟨r, v⟩
  rw [hrun] at hdone
  have hcourse : Course (shippedHandlers t) observers w.state.remaining w.started r v :=
    (perform_runFrom_iff hk observers (w := w.started) hw).mp hrun
  have hd : v.state.completed = w.started.state.completed ++ wf.steps :=
    hdone.trans (congrArg (· ++ wf.steps) hnone).symm
  rw [hl] at hcourse
  obtain rfl | rfl : wf = ⟨"attack", ["start", "attack", "complete"]⟩ ∨
      wf = ⟨"attack-damage", ["start", "attack", "damage", "complete"]⟩ := by
    simpa [attackWorkflows, Workflow.shipped] using hwf
  · obtain ⟨a, R, u, hactor, hR, hu, hlu, hcu, hrest⟩ := hcourse.exists_attacked (w := w.started) hw
      hl hd hnew hshared hx hlive honly
    obtain ⟨u', hp, hout⟩ := hrest.last_of_completed hk hu hcu
    have hno : w.started.state.steps.contains Damage.stepId = false :=
      (congrArg (·.contains Damage.stepId) hsteps).trans (by decide)
    refine ⟨a, _, hactor, hR.alone_eq hno, ?_⟩
    rw [ActionState.outcome?, hout, outcomes_of_complete hu (perform_of_passes rfl hp)]
    exact hR.record
  · obtain ⟨a, R, u, hactor, hR, hu, hlu, hcu, hrest⟩ := hcourse.exists_attacked (w := w.started) hw
      hl hd hnew hshared hx hlive honly
    obtain ⟨u₁, w₁, hp₁, hf₁, hd₁, hw₁, hl₁, hc₁, h₁⟩ :=
      hrest.next_of_completed hk hu hlu (by decide) hcu
    have hyes : w.started.state.steps.contains Damage.stepId = true :=
      (congrArg (·.contains Damage.stepId) hsteps).trans (by decide)
    obtain ⟨o, halone, ho⟩ := hR.alone_eq_dealt hu hyes (perform_of_passes rfl hp₁)
    obtain ⟨u', hp, hout⟩ := h₁.last_of_completed hk hw₁ hc₁
    refine ⟨a, o, hactor, halone, ?_⟩
    rw [ActionState.outcome?, hout, outcomes_of_complete hw₁ (perform_of_passes rfl hp),
      hf₁.outcomes]
    exact ho

end

def ActionState.aimedAt (s : ActionState) (ids : List String) : ActionState :=
  { s with dialog := s.dialog.aimedAt ids }

def World.aimedAt (w : World δ σ) (ids : List String) : World δ σ :=
  { w with state := w.state.aimedAt ids }

theorem create_aimedAt {wf : Workflow} {d : Dialog} {s : ActionState}
    (h : ActionState.create wf d = .ok s) (ids : List String) :
    ActionState.create wf (d.aimedAt ids) = .ok (s.aimedAt ids) := by
  unfold ActionState.create at h ⊢
  obtain ⟨name, hname, h⟩ := Result.bind_eq_ok h
  obtain ⟨u, hcheck, h⟩ := Result.bind_eq_ok h
  cases h
  rw [hname]
  exact congrArg (fun r : Result Unit => r >>= fun _ => Except.ok _) hcheck

theorem Lookup.eq_ok_of_live {id : String} {step : Option String} {r : Result (Option Target)}
    (h : (Lookup.ofAnswer id step r).target.isLive = true) :
    r = .ok (some (Lookup.ofAnswer id step r).target) := by
  unfold Lookup.ofAnswer at h ⊢
  split at h
  · cases h
  · cases h
  · rename_i t
    cases ht : t.error with
    | none => rfl
    | some reason =>
      simp only [ht] at h
      split at h
      · rw [Target.isLive, ht] at h
        cases h
      · cases h

theorem Start.mem_found {t : Table δ σ} {d : Dialog} {creatures : σ} {id : String} {x : Target}
    (hid : id ∈ d.targetIds) (hx : t.source.target id creatures = .ok (some x))
    (hlive : x.isLive = true) : x ∈ found t d creatures := by
  refine List.mem_map.mpr ⟨_, List.mem_map.mpr ⟨id, hid, rfl⟩, ?_⟩
  have herror : x.error = none := Option.isNone_iff_eq_none.mp hlive
  dsimp only
  rw [hx, Lookup.ofAnswer, herror]

theorem Start.exists_of_mem_found {t : Table δ σ} {d : Dialog} {creatures : σ} {x : Target}
    (hx : x ∈ found t d creatures) (hlive : x.isLive = true) :
    ∃ id ∈ d.targetIds, t.source.target id creatures = .ok (some x) := by
  obtain ⟨l, hl, rfl⟩ := List.mem_map.mp hx
  obtain ⟨id, hid, rfl⟩ := List.mem_map.mp hl
  exact ⟨id, hid, Lookup.eq_ok_of_live hlive⟩

theorem Start.poll_aimedAt (a : Actor) (d : Dialog) (ids : List String)
    {fs : List (String × Feature)} (hfs : ∀ f ∈ fs, f.2.BlindToTargets) (seen : List String) :
    poll a (d.aimedAt ids) seen fs = poll a d seen fs := by
  induction fs generalizing seen with
  | nil => rfl
  | cons x rest ih =>
    obtain ⟨ty, f⟩ := x
    have hrest := ih fun f hf => hfs f (List.mem_cons_of_mem _ hf)
    rw [poll, poll, (hfs (ty, f) List.mem_cons_self).consult_aimedAt]
    simp only [hrest]

section

variable {t : Table δ σ} (hr : t.registry.BlindToTargets)
  (ht : t.builder.registry = some t.registry)
include hr

theorem begunPlan_aimedAt (s : ActionState) (a : Actor) (ids : List String) :
    begunPlan t (s.aimedAt ids) a = (begunPlan t s a).aimedAt ids := by
  have hpolled : Start.polled t (s.aimedAt ids) a = Start.polled t s a := by
    refine Start.poll_aimedAt a s.dialog ids (fun f hf => ?_) []
    obtain ⟨ty, -, hm⟩ := List.mem_flatMap.mp hf
    obtain ⟨g, hg, rfl⟩ := List.mem_map.mp hm
    exact hr g (List.mem_filter.mp hg).1
  rw [begunPlan, hpolled]
  rfl

include ht

theorem build_aimedAt (r : Pool.Request) (ids : List String) :
    t.builder.build { r with dialog := r.dialog.map (·.aimedAt ids) } = t.builder.build r := by
  have hb : t.builder = ⟨some t.registry, t.builder.baseType⟩ := by rw [← ht]
  rw [hb]
  exact Pool.Builder.build_aimedAt hr _ r ids

/-- Where no feature reads the targets, a target alone has one record, whoever else is chosen. -/
theorem alone_aimedAt (s : ActionState) (a : Actor) (dice : δ) (x : Target) (ids : List String) :
    alone t (s.aimedAt ids) a dice x = alone t s a dice x := by
  have hattack : Attack.solo t (s.aimedAt ids) a dice x = Attack.solo t s a dice x := by
    have hb : t.builder.build (Attack.request (s.aimedAt ids) a) =
        t.builder.build (Attack.request s a) := build_aimedAt hr ht (Attack.request s a) ids
    have hm : t.registry.rangeModifications a "attack-resolve" "attack"
        (some (s.aimedAt ids).dialog) (s.aimedAt ids).vetoed =
        t.registry.rangeModifications a "attack-resolve" "attack" (some s.dialog) s.vetoed :=
      hr.rangeModifications_aimedAt a "attack-resolve" "attack" s.dialog ids s.vetoed
    rw [Attack.solo, hb, hm]
    rfl
  have hdamage : ∀ dice critical,
      Damage.solo t (s.aimedAt ids) a dice critical = Damage.solo t s a dice critical := by
    intro dice critical
    have hb : ∀ c, t.builder.build (Damage.request (s.aimedAt ids) a c) =
        t.builder.build (Damage.request s a c) := fun c =>
      build_aimedAt hr ht (Damage.request s a c) ids
    rw [Damage.solo, Damage.solo, hb]
  rw [alone, alone, hattack]
  simp only [hdamage]
  rfl

end

/-- Targets under one shared attack roll do not influence each other. A live target has the same
record after an attack on either of two lists that name it, in whatever order and however often they
do, as long as both runs complete. No hook of a feature reads the list, and no other creature of the
lists goes by the id of the target, as is the case if the source gives back the ids it was asked
for. -/
theorem targets_without_influence {t : Table δ σ} (ht : t.builder.registry = some t.registry)
    (hr : t.registry.BlindToTargets) {wf : Workflow} (hwf : wf ∈ attackWorkflows) {w : World δ σ}
    (hfresh : ActionState.create wf w.state.dialog = .ok w.state)
    (hshared : Attack.rollsSeparately t w.state.dialog = false)
    {ids ids' : List String} {id : String} (hid : id ∈ ids) (hid' : id ∈ ids') {x : Target}
    (hx : t.source.target id w.source = .ok (some x)) (hlive : x.isLive = true)
    (honly : ∀ k ∈ ids ++ ids', ∀ y, t.source.target k w.source = .ok (some y) →
      y.isLive = true → y.id = x.id → y = x)
    {observers observers' : List Observer}
    (hdone : (perform (execute (shippedHandlers t) observers) (w.aimedAt ids)).2.state.completed =
      wf.steps)
    (hdone' : (perform (execute (shippedHandlers t) observers')
      (w.aimedAt ids')).2.state.completed = wf.steps) :
    ∃ o,
      (perform (execute (shippedHandlers t) observers) (w.aimedAt ids)).2.state.outcome? x.id =
        some o ∧
      (perform (execute (shippedHandlers t) observers') (w.aimedAt ids')).2.state.outcome? x.id =
        some o := by
  have hone : ∀ {l : List String} {obs : List Observer}, id ∈ l →
      (∀ k ∈ l, ∀ y, t.source.target k w.source = .ok (some y) → y.isLive = true →
        y.id = x.id → y = x) →
      (perform (execute (shippedHandlers t) obs) (w.aimedAt l)).2.state.completed = wf.steps →
      ∃ a o, Start.actorFor t w.state w.source = .ok a ∧
        alone t (begunPlan t w.state a) a w.dice x = .ok o ∧
        (perform (execute (shippedHandlers t) obs) (w.aimedAt l)).2.state.outcome? x.id =
          some o := by
    intro l obs hl honly hdone
    have honly' : ∀ y ∈ Start.found t (w.aimedAt l).state.dialog w.source, y.isLive = true →
        y.id = x.id → y = x := by
      intro y hy hylive
      obtain ⟨k, hk, hfound⟩ := Start.exists_of_mem_found hy hylive
      exact honly k hk y hfound hylive
    obtain ⟨a, o, hactor, halone, ho⟩ := execute_alone (w := w.aimedAt l) hwf
      (create_aimedAt hfresh l) hshared hdone (Start.mem_found hl hx hlive) hlive honly'
    have hplan : begunPlan t (w.aimedAt l).state a = (begunPlan t w.state a).aimedAt l :=
      begunPlan_aimedAt hr w.state a l
    rw [hplan, alone_aimedAt hr ht] at halone
    exact ⟨a, o, hactor, halone, ho⟩
  obtain ⟨a, o, hactor, halone, ho⟩ :=
    hone hid (fun k hk => honly k (List.mem_append_left _ hk)) hdone
  obtain ⟨a', o', hactor', halone', ho'⟩ :=
    hone hid' (fun k hk => honly k (List.mem_append_right _ hk)) hdone'
  cases hactor.symm.trans hactor'
  cases halone.symm.trans halone'
  exact ⟨o, ho, ho'⟩

def brawl : World Unit Roster where
  state := {
    workflow := "attack-damage"
    steps := ["start", "attack", "damage", "complete"]
    dialog := { actorId := "hero" } }
  dice := ()
  source := Roster.ofActors
    [{ id := "hero" }, { id := "goblin", armorClass := 12 }, { id := "orc", armorClass := 15 }]

/-- The one that is hit is dealt the same damage beside one that is missed, and one that is not
there. -/
theorem targets_without_influence_brawl :
    ActionState.create ⟨"attack-damage", ["start", "attack", "damage", "complete"]⟩
        brawl.state.dialog = .ok brawl.state ∧
      Attack.rollsSeparately (evenTable 14) brawl.state.dialog = false ∧
      ((perform (execute (shippedHandlers (evenTable 14)) [])
        (brawl.aimedAt ["orc", "goblin", "ghost", "goblin"])).2.state.outcomes.map
          fun e => (e.1, e.2.hit, e.2.damageByType)) =
        [("orc", some false, []), ("goblin", some true, [("kinetic", 14)])] ∧
      ∃ o,
        (perform (execute (shippedHandlers (evenTable 14)) [])
          (brawl.aimedAt ["orc", "goblin", "ghost", "goblin"])).2.state.outcome? "goblin" = some o ∧
        (perform (execute (shippedHandlers (evenTable 14)) [])
          (brawl.aimedAt ["goblin"])).2.state.outcome? "goblin" = some o := by
  have hfresh : ActionState.create
      ⟨"attack-damage", ["start", "attack", "damage", "complete"]⟩ brawl.state.dialog =
        .ok brawl.state := by rfl
  have hx : (evenTable 14).source.target "goblin" brawl.source =
      .ok (some { id := "goblin", name := "Unknown Actor", armorClass := 12 }) := by rfl
  have honly : ∀ k ∈ ["orc", "goblin", "ghost", "goblin"] ++ ["goblin"],
      ∀ y ∈ brawl.source.target? k, y.isLive = true → y.id = "goblin" →
        y = { id := "goblin", name := "Unknown Actor", armorClass := 12 } := by decide +kernel
  refine ⟨hfresh, rfl, by decide +kernel, ?_⟩
  exact targets_without_influence (t := evenTable 14) rfl (fun f h => nomatch h)
    (by decide +kernel) hfresh rfl (by decide) (by decide) hx rfl
    (fun k hk y hy => honly k hk y (Except.ok.inj hy)) (by decide +kernel) (by decide +kernel)

/-- A source that answers a second id with the goblin in armor. -/
def twinnedRoster : ActorSource Roster :=
  { Roster.source with
    target := fun id r =>
      if id == "twin" then .ok (some { id := "goblin", armorClass := 18 })
      else Roster.source.target id r }

/-- Two creatures of one id share a record, which is that of the last one. -/
theorem twin_influences :
    let t := Table.make {} (evenDice 14) twinnedRoster {}
    let v := fun ids => (perform (execute (shippedHandlers t) []) (brawl.aimedAt ids)).2.state
    Attack.rollsSeparately t brawl.state.dialog = false ∧
      (∀ ids ∈ [["goblin"], ["goblin", "twin"], ["twin", "goblin"]],
        (v ids).completed = brawl.state.steps) ∧
      ((v ["goblin"]).outcome? "goblin").map (fun o => (o.hit, o.damageByType)) =
        some (some true, [("kinetic", 14)]) ∧
      ((v ["goblin", "twin"]).outcome? "goblin").map (fun o => (o.hit, o.damageByType)) =
        some (some false, []) ∧
      ((v ["twin", "goblin"]).outcome? "goblin").map (fun o => (o.hit, o.damageByType)) =
        some (some true, [("kinetic", 14)]) := by
  decide +kernel

end Encounter.Run
