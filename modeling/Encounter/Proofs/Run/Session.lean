import Encounter.Proofs.Run.Outcomes

namespace Encounter.Run

open ActionState

variable {δ σ : Type}

def stepOrder : List String :=
  [Start.stepId, Attack.stepId, Damage.stepId, Save.stepId, ApplyDamage.stepId,
    SkillCheck.stepId, Complete.stepId]

/-- The steps follow one another in the order of the steps. -/
def InOrder (steps : List String) : Prop :=
  steps.Pairwise fun a b => stepOrder.idxOf a < stepOrder.idxOf b

instance (steps : List String) : Decidable (InOrder steps) :=
  inferInstanceAs (Decidable (steps.Pairwise _))

theorem inOrder_shipped : ∀ w ∈ Workflow.shipped, InOrder w.steps := by decide

theorem InOrder.notMem {a step : String} {rest : List String} (h : InOrder (step :: rest))
    (ha : stepOrder.idxOf a < stepOrder.idxOf step) : a ∉ step :: rest := by
  intro hm
  obtain rfl | hm := List.mem_cons.mp hm
  · exact Nat.lt_irrefl _ ha
  · exact Nat.lt_asymm ha ((List.pairwise_cons.mp h).1 a hm)

def opened (outs : Outcomes) (target : Target) : TargetOutcome :=
  (Entries.get? outs target.id).getD (.ofTarget target)

theorem opened_of {p : TargetOutcome → Prop} {outs : Outcomes} {target : Target}
    (hm : ∀ e ∈ outs, e.1 = target.id → p e.2) (hf : p (.ofTarget target)) :
    p (opened outs target) := by
  unfold opened
  cases ho : Entries.get? outs target.id with
  | none => exact hf
  | some o => exact hm _ (Entries.mem_of_get? ho) rfl

theorem opened_put (outs : Outcomes) (id : String) (o : TargetOutcome) (target : Target) :
    opened (Entries.put outs id o) target = if target.id = id then o else opened outs target := by
  rw [opened, Entries.get?_put]
  split <;> rfl

theorem Sound.opened {targets : List Target} {left : List String} {outs : Outcomes}
    (h : Sound targets left outs) {target : Target} (ht : target ∈ targets)
    (hl : target.isLive = true) : (opened outs target).Sound targets target.id :=
  opened_of (fun e he hk => hk ▸ h.each e he) (TargetOutcome.sound_ofTarget ht hl)

/-- The course and the targets of a state, with records of which something is known. -/
structure Within (s : ActionState) (P : Outcomes → Prop) (w : World δ σ) : Prop where
  course : SameCourse s w.state
  targets : w.state.targets = s.targets
  records : P w.state.outcomes

theorem closed_within {s : ActionState} (hs : s.WellFormed) (P : Outcomes → Prop) :
    Closed (Within s P : World δ σ → Prop) where
  wellFormed _ h := hs.of_sameCourse h.course
  events _ _ h := ⟨h.course, h.targets, h.records⟩
  pools _ _ h := ⟨⟨h.course.steps, h.course.chain, h.course.completed⟩, h.targets, h.records⟩
  rolls _ _ _ h := ⟨⟨h.course.steps, h.course.chain, h.course.completed⟩, h.targets, h.records⟩

theorem Within.recorded {s : ActionState} {P : Outcomes → Prop} {w : World δ σ}
    (h : Within s P w) {target : Target} {f : TargetOutcome → TargetOutcome}
    (hp : P (Entries.put w.state.outcomes target.id (f (opened w.state.outcomes target)))) :
    Within s P { w with state := w.state.recorded target f } :=
  ⟨⟨h.course.steps, h.course.chain, h.course.completed⟩, h.targets, hp⟩

def Unmissed (targets : List Target) (outs : Outcomes) : Prop :=
  ∀ target ∈ targets, (opened outs target).hit ≠ some false

theorem Unmissed.put {targets : List Target} {outs : Outcomes} (h : Unmissed targets outs)
    {target : Target} (hm : target ∈ targets) {f : TargetOutcome → TargetOutcome}
    (hf : ∀ o, (f o).hit = o.hit) :
    Unmissed targets (Entries.put outs target.id (f (opened outs target))) := by
  intro target' hm'
  rw [opened_put]
  split
  · rw [hf]
    exact h target hm
  · exact h target' hm'

theorem unmissed_affectedTargets {s : ActionState} {left : List String}
    (h : Sound s.targets left s.outcomes) : Unmissed (affectedTargets s) s.outcomes := by
  intro target hm
  unfold affectedTargets at hm
  split at hm
  · have hw := (List.mem_filter.mp hm).2
    unfold wasHit ActionState.outcome? at hw
    unfold opened
    cases ho : Entries.get? s.outcomes target.id with
    | none => exact fun hh => nomatch hh
    | some o =>
      rw [ho] at hw
      intro hh
      change (o.hit).getD false = true at hw
      change o.hit = some false at hh
      rw [hh] at hw
      cases hw
  · rename_i hn
    refine opened_of (p := fun o => o.hit ≠ some false) (fun e he _ hh => hn ?_)
      fun hh => nomatch hh
    rw [(h.each e he).hit] at hh
    obtain ⟨r, hr, -⟩ := Option.map_eq_some_iff.mp hh
    exact List.any_eq_true.mpr ⟨e, he, by rw [hr]; rfl⟩

/-- Records that agree, while damage and saves are resolved for the affected targets. -/
structure Pending (s : ActionState) (outs : Outcomes) : Prop where
  sound : Sound s.targets s.remaining outs
  unmissed : Unmissed (affectedTargets s) outs

theorem mem_liveTargets_of_affected {s : ActionState} {target : Target}
    (h : target ∈ affectedTargets s) : target ∈ s.liveTargets := by
  unfold affectedTargets at h
  split at h
  · exact (List.mem_filter.mp h).1
  · exact h

theorem mem_targets_of_live {s : ActionState} {target : Target} (h : target ∈ s.liveTargets) :
    target ∈ s.targets ∧ target.isLive = true := List.mem_filter.mp h

/-- The steps of the run are in order, and the records agree. -/
structure Orderly (s : ActionState) : Prop where
  inOrder : InOrder s.steps
  sound : Sound s.targets s.remaining s.outcomes

theorem Orderly.of_within {s : ActionState} {w : World δ σ} (ho : InOrder s.steps)
    (h : Within s (Sound s.targets s.remaining) w) : Orderly w.state where
  inOrder := h.course.steps ▸ ho
  sound := by
    rw [h.targets, h.course.remaining]
    exact h.records

theorem Orderly.within {w : World δ σ} (h : Orderly w.state) :
    Within w.state (Sound w.state.targets w.state.remaining) w :=
  ⟨.refl _, rfl, h.sound⟩

section

variable {w : World δ σ} {rest : List String}

theorem Orderly.notMem_remaining {step : String} (h : Orderly w.state)
    (hl : w.state.remaining = step :: rest) {a : String}
    (ha : stepOrder.idxOf a < stepOrder.idxOf step) : a ∉ w.state.remaining := by
  have ho : InOrder w.state.remaining := h.inOrder.drop
  rw [hl] at ho ⊢
  exact ho.notMem ha

/-- The first step finds no records, so that it may change the targets. -/
theorem Orderly.start (t : Table δ σ) (hw : w.state.WellFormed)
    (hl : w.state.remaining = Start.stepId :: rest) (h : Orderly w.state) :
    Orderly (perform (Start.run t) w).2.state := by
  have hn : w.state.outcomes = [] := h.sound.fresh (hl ▸ List.mem_cons_self)
  have hI : Quiet fun v : World δ σ => SameCourse w.state v.state ∧ v.state.outcomes = [] :=
    ⟨fun _ h => hw.of_sameCourse h.1, fun _ _ h => h⟩
  have hv : SameCourse w.state (perform (Start.run t) w).2.state ∧
      (perform (Start.run t) w).2.state.outcomes = [] := Start.run_preserves hI t ⟨.refl _, hn⟩
    (fun _ _ _ _ h => ⟨⟨h.1.steps, h.1.chain, h.1.completed⟩, h.2⟩)
    (fun _ h => ⟨⟨h.1.steps, h.1.chain, h.1.completed⟩, h.2⟩)
  refine ⟨hv.1.steps ▸ h.inOrder, ?_⟩
  rw [hv.2]
  exact .nil _ _

theorem Orderly.attack (t : Table δ σ) (hw : w.state.WellFormed)
    (hl : w.state.remaining = Attack.stepId :: rest) (h : Orderly w.state) :
    Orderly (perform (Attack.run t) w).2.state := by
  have hstart := h.notMem_remaining hl (a := Start.stepId) (by decide)
  have hattack : Attack.stepId ∈ w.state.remaining := hl ▸ List.mem_cons_self
  refine .of_within h.inOrder (Attack.run_preserves (closed_within hw _) t h.within ?_)
  intro v target ms o hv hm
  obtain ⟨ht, hlive⟩ := mem_targets_of_live hm
  have hu : (opened v.state.outcomes target).Harmless :=
    opened_of (fun e he _ => hv.records.harmless hattack e he)
      (TargetOutcome.harmless_ofTarget target)
  have ho := (hv.records.opened ht hlive).attack hu
    (t.engine.success_of_isCriticalSuccess o target.armorClass .attack
      w.state.dialog.criticalRange ms)
  exact hv.recorded (hv.records.put ho hstart (fun _ => ⟨hu.damage, hu.save, hu.applied⟩)
    fun _ => hu.applied)

theorem Orderly.damage (t : Table δ σ) (hw : w.state.WellFormed)
    (hl : w.state.remaining = Damage.stepId :: rest) (h : Orderly w.state) :
    Orderly (perform (Damage.run t) w).2.state := by
  have hstart := h.notMem_remaining hl (a := Start.stepId) (by decide)
  have hattack := h.notMem_remaining hl (a := Attack.stepId) (by decide)
  have hdamage : Damage.stepId ∈ w.state.remaining := hl ▸ List.mem_cons_self
  have hP : Within w.state (Pending w.state) w :=
    ⟨.refl _, rfl, h.sound, unmissed_affectedTargets h.sound⟩
  have hunapplied : ∀ v : World δ σ, Within w.state (Pending w.state) v → ∀ target,
      (opened v.state.outcomes target).damageApplied = none := fun v hv target =>
    opened_of (p := fun o => o.damageApplied = none)
      (fun e he _ => hv.records.sound.unapplied hdamage e he)
      (TargetOutcome.harmless_ofTarget target).applied
  have hr : Within w.state (Pending w.state) (perform (Damage.run t) w).2 := by
    refine Damage.run_preserves (closed_within hw _) t hP ?_ ?_
    · intro v target hv hm
      obtain ⟨ht, hlive⟩ := mem_targets_of_live (mem_liveTargets_of_affected hm)
      have ho := hv.records.sound.opened ht hlive
      exact hv.recorded ⟨hv.records.sound.put ho hstart (fun hm => (hattack hm).elim)
        (fun _ => hunapplied v hv target), hv.records.unmissed.put (f := id) hm fun _ => rfl⟩
    · intro v target o hv hm damage hd
      obtain ⟨ht, hlive⟩ := mem_targets_of_live (mem_liveTargets_of_affected hm)
      have hn : NonNegative damage := by
        obtain rfl | rfl := hd
        · exact Damage.totals_nonNegative _ _
        · exact Damage.doubled_nonNegative (Damage.totals_nonNegative _ _)
      have ho := (hv.records.sound.opened ht hlive).deal (hv.records.unmissed target hm)
        (hunapplied v hv target) hn
      exact hv.recorded ⟨hv.records.sound.put ho hstart (fun hm => (hattack hm).elim)
        (fun _ => hunapplied v hv target), hv.records.unmissed.put hm fun _ => rfl⟩
  exact .of_within h.inOrder ⟨hr.course, hr.targets, hr.records.sound⟩

theorem Orderly.save (t : Table δ σ) (hw : w.state.WellFormed)
    (hl : w.state.remaining = Save.stepId :: rest) (h : Orderly w.state) :
    Orderly (perform (Save.run t) w).2.state := by
  have hstart := h.notMem_remaining hl (a := Start.stepId) (by decide)
  have hattack := h.notMem_remaining hl (a := Attack.stepId) (by decide)
  have hdamage := h.notMem_remaining hl (a := Damage.stepId) (by decide)
  have hP : Within w.state (Pending w.state) w :=
    ⟨.refl _, rfl, h.sound, unmissed_affectedTargets h.sound⟩
  have hr : Within w.state (Pending w.state) (perform (Save.run t) w).2 := by
    refine Save.run_preserves (closed_within hw _) t hP ?_
    intro v target dc o hv hm
    obtain ⟨ht, hlive⟩ := mem_targets_of_live (mem_liveTargets_of_affected hm)
    have ho := (hv.records.sound.opened ht hlive).saveResolved (hv.records.unmissed target hm)
      (t.engine.classifyOutcome o dc .save none [])
    exact hv.recorded ⟨hv.records.sound.put ho hstart (fun hm => (hattack hm).elim)
      (fun hm => (hdamage hm).elim), hv.records.unmissed.put hm fun _ => rfl⟩
  exact .of_within h.inOrder ⟨hr.course, hr.targets, hr.records.sound⟩

theorem Orderly.applyDamage (t : Table δ σ) (hw : w.state.WellFormed)
    (hl : w.state.remaining = ApplyDamage.stepId :: rest) (h : Orderly w.state) :
    Orderly (perform (ApplyDamage.run t) w).2.state := by
  have hstart := h.notMem_remaining hl (a := Start.stepId) (by decide)
  have hattack := h.notMem_remaining hl (a := Attack.stepId) (by decide)
  have hdamage := h.notMem_remaining hl (a := Damage.stepId) (by decide)
  have hI : Quiet (Within w.state (Sound w.state.targets w.state.remaining) : World δ σ → Prop) :=
    (closed_within hw _).toQuiet
  refine .of_within h.inOrder (ApplyDamage.run_preserves hI t h.within ?_ ?_)
  · intro v target o hv hm ho hd
    obtain ⟨ht, hlive⟩ := mem_targets_of_live hm
    have he : opened v.state.outcomes target = o := by
      change (v.state.outcome? target.id).getD _ = o
      rw [ho, Option.getD_some]
    have hs := hv.records.opened ht hlive
    rw [he] at hs
    refine hv.recorded ?_
    rw [he]
    exact hv.records.put (hs.apply hd _ target) hstart (fun hm => (hattack hm).elim)
      fun hm => (hdamage hm).elim
  · exact fun v target o n hv _ _ _ _ => ⟨hv.course, hv.targets, hv.records⟩

end

theorem Orderly.shipped (t : Table δ σ) :
    ∀ e ∈ shippedHandlers t, ∀ (w : World δ σ) (rest : List String), w.state.WellFormed →
      w.state.remaining = e.1 :: rest → Orderly w.state →
        Orderly (perform e.2 w).2.state := by
  intro e he w rest hw hl h
  simp only [shippedHandlers, List.map_cons, List.map_nil, List.mem_cons, List.not_mem_nil,
    or_false] at he
  rcases he with rfl | rfl | rfl | rfl | rfl | rfl | rfl <;> rw [perform_handingBack]
  · exact h.start t hw hl
  · exact h.attack t hw hl
  · exact h.damage t hw hl
  · exact h.save t hw hl
  · exact h.applyDamage t hw hl
  · exact .of_within h.inOrder (SkillCheck.run_preserves (closed_within hw _) t
      (fun v r hv => ⟨⟨hv.course.steps, hv.course.chain, hv.course.completed⟩, hv.targets,
        hv.records⟩) w h.within)
  · exact .of_within h.inOrder (Complete.run_preserves (closed_within hw _).toQuiet
      (fun v f s hv => ⟨⟨hv.course.steps, hv.course.chain, hv.course.completed⟩, hv.targets,
        hv.records⟩) w h.within)

def InAgreement (w : World δ σ) : Prop := w.state.WellFormed ∧ Orderly w.state

theorem kept_inAgreement : Kept (InAgreement : World δ σ → Prop) InAgreement where
  weaken _ h := h
  books _ _ _ _ _ _ h := ⟨h.1.of_steps rfl rfl, h.2.inOrder, h.2.sound⟩
  advanced w hw h := by
    refine ⟨hw, h.2.inOrder, h.2.sound.mono fun step hs => ?_⟩
    exact List.mem_of_mem_tail (remaining_advanced w.state ▸ hs)

/-- The states that a session reaches: a fresh state of a shipped workflow, the state after a run,
also after one that failed, and the state once it is cancelled or may go on. The table, the
observers, the dice and the creatures may be others in every run. -/
inductive Session : ActionState → Prop
  | fresh {wf : Workflow} {d : Dialog} {s : ActionState} (hw : wf ∈ Workflow.shipped)
    (hs : ActionState.create wf d = .ok s) : Session s
  | executed {δ σ : Type} (t : Table δ σ) (observers : List Observer) {w : World δ σ}
    (hw : Session w.state) : Session (perform (execute (shippedHandlers t) observers) w).2.state
  | marked {s : ActionState} (c : Bool) (hs : Session s) : Session { s with cancelled := c }

theorem create_eq_ok {wf : Workflow} {d : Dialog} {s : ActionState}
    (h : ActionState.create wf d = .ok s) :
    s.WellFormed ∧ ∃ name, s = { workflow := name, steps := wf.steps, dialog := d } := by
  unfold ActionState.create at h
  cases hn : ((Schema.filledText (.text wf.name)).under "workflow_type").result with
  | error e =>
    rw [hn] at h
    cases h
  | ok name =>
    rw [hn] at h
    cases hc : ActionState.check { workflow := name, steps := wf.steps, dialog := d } with
    | error e =>
      change (ActionState.check _ >>= fun _ => Except.ok _) = _ at h
      rw [hc] at h
      cases h
    | ok u =>
      change (ActionState.check _ >>= fun _ => Except.ok _) = _ at h
      rw [hc] at h
      cases h
      exact ⟨(check_eq_ok_iff _).mp hc, name, rfl⟩

/-- A run of the shipped handlers leaves a well-formed state and an orderly one, however it ends. -/
theorem execute_orderly (t : Table δ σ) (observers : List Observer) {w : World δ σ}
    (hw : w.state.WellFormed) (h : Orderly w.state) :
    (perform (execute (shippedHandlers t) observers) w).2.state.WellFormed ∧
      Orderly (perform (execute (shippedHandlers t) observers) w).2.state := by
  have hk := shippedHandlers_keepCourse t
  obtain ⟨r, v, hc⟩ := exists_course hk observers w.state.remaining w.started hw rfl
  have hv := hc.keeps hk kept_inAgreement (fun e he w rest hwf hl hw =>
    ⟨hwf.of_sameCourse (hk e he w hwf), .shipped t e he w rest hwf hl hw.2⟩) hw rfl ⟨hw, h⟩
  rw [perform_execute, hc.perform_eq hk hw rfl]
  exact hv

theorem Session.orderly {s : ActionState} (h : Session s) : s.WellFormed ∧ Orderly s := by
  induction h with
  | fresh hw hs =>
    obtain ⟨hwf, name, rfl⟩ := create_eq_ok hs
    exact ⟨hwf, inOrder_shipped _ hw, .nil _ _⟩
  | executed t observers hw ih => exact execute_orderly t observers ih.1 ih.2
  | marked c hs ih => exact ⟨ih.1.of_steps rfl rfl, ih.2.inOrder, ih.2.sound⟩

/-- Whatever happens in a session, every record of a target agrees with itself and belongs to a live
target. -/
theorem Session.outcomes_sound {s : ActionState} (h : Session s) :
    ∀ e ∈ s.outcomes, e.2.Sound s.targets e.1 :=
  h.orderly.2.sound.each

/-- A fight in which one creature is hit and saves, one is missed, and one is not there. -/
def onslaught : World Dice.Faces Roster where
  state := {
    workflow := "attack-damage-save-applyDamage"
    steps := ["start", "attack", "damage", "save", "applyDamage", "complete"]
    dialog := {
      actorId := "hero"
      targetIds := ["goblin", "ghost", "orc"]
      damageModifiers := [{ name := "Flame", fragment := "2d6", damageType := "fire" }]
      saveDc := some 12 } }
  dice := .cycle #[15, 4, 5, 13]
  source := Roster.ofActors
    [{ id := "hero" }, { id := "goblin", hitPoints := some 12 }, { id := "orc", armorClass := 16 }]

/-- The fight is cancelled after the damage was rolled, and then resumed. -/
theorem outcomes_sound_onslaught :
    let t := Table.make {} Dice.roller Roster.source {}
    let paused := (perform (execute (shippedHandlers t)
      [fun step _ => { cancels := step == Damage.stepId }]) onslaught).2
    let ended := (perform (execute (shippedHandlers t) [])
      { paused with state := { paused.state with cancelled := false } }).2
    Session ended.state ∧
      paused.state.cancelled = true ∧
      paused.state.completed = ["start", "attack", "damage"] ∧
      ended.state.completed = onslaught.state.steps ∧
      ended.state.outcomes.map (fun e =>
          (e.1, e.2.hit, e.2.damageTotal, e.2.saved, e.2.damageApplied)) =
        [("goblin", some true, 9, some true, some 4), ("orc", some false, 0, none, none)] ∧
      ∀ e ∈ ended.state.outcomes, e.2.Sound ended.state.targets e.1 := by
  intro t paused ended
  have hcreate : ActionState.create ⟨"attack-damage-save-applyDamage",
      ["start", "attack", "damage", "save", "applyDamage", "complete"]⟩
      onslaught.state.dialog = .ok onslaught.state := by rfl
  have hfresh : Session onslaught.state := .fresh (by decide) hcreate
  have hpaused : Session paused.state := hfresh.executed t _
  have hended : Session ended.state :=
    Session.executed t [] (w := { paused with state := { paused.state with cancelled := false } })
      (hpaused.marked false)
  exact ⟨hended, by decide +kernel, by decide +kernel, by decide +kernel, by decide +kernel,
    hended.outcomes_sound⟩

/-- Two creatures, one of which attacks the other and a third that is not there. -/
def skirmish : World Unit Roster where
  state := {
    workflow := "attack"
    steps := ["start", "attack", "complete"]
    dialog := { actorId := "hero", targetIds := ["goblin", "ghost"] } }
  dice := ()
  source := Roster.ofActors [{ id := "hero" }, { id := "goblin", hitPoints := some 12 }]

def evenDice (total : Int) : Evaluator Unit :=
  ⟨fun formula d => (.ok { formula, total, natural := some 12 }, d)⟩

abbrev evenTable (total : Int) : Table Unit Roster :=
  .make {} (evenDice total) Roster.source {}

end Encounter.Run
