import Encounter.Proofs.Run.Alone

namespace Encounter.Run

open ActionState

variable {δ σ : Type} {t : Table δ σ}

def RollRecord.of (step formula : String) (id : Option String) (o : Dice.Outcome) : RollRecord :=
  ⟨step, formula, o.total, o.natural, id, Entries.ofList o.totalsByType⟩

namespace ActionState

def rollsOf (s : ActionState) (step : String) : List RollRecord :=
  s.rolls.filter fun r => r.step == step

/-- The last roll that a step made for a target, or for all targets. -/
def lastRoll? (s : ActionState) (step id : String) : Option RollRecord :=
  ((s.rollsOf step).filter fun r => r.targetId.all (· == id)).getLast?

theorem rollsOf_rolled (s : ActionState) (step formula : String) (id : Option String)
    (o : Dice.Outcome) (step' : String) : (s.rolled step formula id o).rollsOf step' =
      s.rollsOf step' ++ if step = step' then [.of step formula id o] else [] := by
  refine (List.filter_append ..).trans (congrArg (s.rollsOf step' ++ ·) ?_)
  by_cases h : step = step' <;> simp [h, RollRecord.of]

theorem outcome?_congr {s s' : ActionState} (h : s'.outcomes = s.outcomes) (id : String) :
    s'.outcome? id = s.outcome? id := by
  rw [ActionState.outcome?, h, ActionState.outcome?]

theorem lastRoll?_congr {s s' : ActionState} {step : String}
    (h : s'.rollsOf step = s.rollsOf step) (id : String) :
    s'.lastRoll? step id = s.lastRoll? step id := by
  rw [lastRoll?, h, lastRoll?]

/-- A roll is the last one for those that it was made for, and does not count for others. -/
theorem lastRoll?_rolled (s : ActionState) (step formula : String) (id : Option String)
    (o : Dice.Outcome) (id' : String) : (s.rolled step formula id o).lastRoll? step id' =
      if id.all (· == id') then some (.of step formula id o) else s.lastRoll? step id' := by
  rw [lastRoll?, rollsOf_rolled, if_pos rfl, List.filter_append]
  have hof : (RollRecord.of step formula id o).targetId = id := rfl
  by_cases h : id.all (· == id') = true
  · rw [List.filter_cons, hof, if_pos h, if_pos h, List.filter_nil, List.getLast?_concat]
  · rw [List.filter_cons, hof, if_neg h, if_neg h, List.filter_nil, List.append_nil, lastRoll?]

end ActionState

/-- A result carries the total of a roll and its natural face, which is zero if there is none. -/
structure Shows (r : Check.Resolution) (roll : RollRecord) : Prop where
  total : r.total = roll.total
  natural : r.natural = roll.natural.getD 0

theorem shows_classifyOutcome (e : Check.Engine) (step formula : String) (id : Option String)
    (o : Dice.Outcome) (target : Int) (kind : Check.Kind) (override : Option Check.CriticalRange)
    (ms : List Check.RangeModification) :
    Shows (e.classifyOutcome o target kind override ms) (.of step formula id o) := ⟨rfl, rfl⟩

/-- What a roll deals to a target: no type of damage is negative, and damage without types is of the
base type, if there is any. -/
def RollRecord.damage (baseType : String) (r : RollRecord) : List (String × Int) :=
  if r.totalsByType.isEmpty then
    if 0 < r.total then [(baseType, r.total)] else []
  else Entries.mapValues (max 0) r.totalsByType

theorem damage_of (baseType step formula : String) (id : Option String) (o : Dice.Outcome) :
    (RollRecord.of step formula id o).damage baseType = Damage.totals baseType o := by
  change (if (Entries.ofList o.totalsByType).isEmpty then if 0 < o.total then _ else _ else _) = _
  rw [Entries.isEmpty_ofList, Damage.totals]
  by_cases hpos : 0 < o.total
  · rw [if_pos hpos, if_neg (Int.not_le.mpr hpos)]
    rfl
  · rw [if_neg hpos, if_pos (Int.not_lt.mp hpos)]
    rfl

/-- What a target gets of the two damage rolls of a run: nothing if it was missed, that of the
critical roll if it was hit critically, and that of the plain roll otherwise. -/
def Damage.share (t : Table δ σ) (plain critical : Option RollRecord) (o : TargetOutcome) :
    List (String × Int) :=
  if o.hit = some false then []
  else if o.critical then
    critical.elim [] fun r =>
      if t.settings.rules.criticalRule = .doubleDamage then doubled (r.damage t.builder.baseType)
      else r.damage t.builder.baseType
  else plain.elim [] fun r => r.damage t.builder.baseType

theorem Damage.share_none (t : Table δ σ) (o : TargetOutcome) : share t none none o = [] := by
  unfold share
  split
  · rfl
  · split <;> rfl

/-- The damage rolls of a run are a plain one and a critical one, if they were made. Each is that of
the pool under its key. -/
structure Damage.Rolled (s : ActionState) (plain critical : Option RollRecord) : Prop where
  rolls : s.rollsOf stepId = plain.toList ++ critical.toList
  plainPool : ∀ r ∈ plain, ∃ p, Entries.get? s.pools "damage" = some p ∧ p.formula = r.formula
  criticalPool : ∀ r ∈ critical,
    ∃ p, Entries.get? s.pools "damage-critical" = some p ∧ p.formula = r.formula

theorem Damage.Rolled.eq_none {s : ActionState} {plain critical : Option RollRecord}
    (h : Rolled s plain critical) (hs : s.rollsOf stepId = []) :
    plain = none ∧ critical = none := by
  obtain ⟨hp, hc⟩ := List.append_eq_nil_iff.mp (h.rolls.symm.trans hs)
  exact ⟨Option.toList_eq_nil_iff.mp hp, Option.toList_eq_nil_iff.mp hc⟩

structure Damage.Shared (t : Table δ σ) (s : ActionState) (plain critical : Option RollRecord) :
    Prop extends Rolled s plain critical where
  shares : ∀ id o, s.outcome? id = some o → o.damageByType = share t plain critical o

/-- Every result is traced to a roll. If targets share a roll, then there is one attack roll at
most. -/
structure Traced (t : Table δ σ) (s : ActionState) : Prop where
  attack : ∀ id o r, s.outcome? id = some o → o.attack = some r →
    ∃ roll, s.lastRoll? Attack.stepId id = some roll ∧ Shows r roll
  shared : Attack.rollsSeparately t s.dialog = false → (s.rollsOf Attack.stepId).length ≤ 1
  save : ∀ id o r, s.outcome? id = some o → o.save = some r →
    ∃ roll, s.lastRoll? Save.stepId id = some roll ∧ Shows r roll
  damage : ∃ plain critical, Damage.Shared t s plain critical

/-- What holds while some steps are left. The rolls so far are of steps that come before these. -/
structure Tracing (t : Table δ σ) (left : List String) (w : World δ σ) : Prop where
  before : ∀ r ∈ w.state.rolls, ∀ step ∈ left, stepOrder.idxOf r.step < stepOrder.idxOf step
  traced : Traced t w.state
  attacked : Damage.stepId ∈ left → ∀ id o, w.state.outcome? id = some o →
    o.attack.isSome = true
  opened : Save.stepId ∈ left → w.state.rollsOf Damage.stepId ≠ [] →
    ∀ x ∈ affectedTargets w.state, (w.state.outcome? x.id).isSome = true

variable {step : String} {rest : List String} {w v : World δ σ}

theorem Tracing.mono {left left' : List String} (h : Tracing t left w)
    (hs : ∀ a ∈ left', a ∈ left) : Tracing t left' w where
  before r hr a ha := h.before r hr a (hs a ha)
  traced := h.traced
  attacked hm := h.attacked (hs _ hm)
  opened hm := h.opened (hs _ hm)

theorem Tracing.rollsOf_eq_nil {left : List String} (h : Tracing t left w) {a : String}
    (hs : step ∈ left) (hle : stepOrder.idxOf step ≤ stepOrder.idxOf a) :
    w.state.rollsOf a = [] := by
  refine List.filter_eq_nil_iff.mpr fun r hr ha => ?_
  have hlt := h.before r hr step hs
  rw [beq_iff_eq.mp ha] at hlt
  exact Nat.lt_irrefl _ (Nat.lt_of_lt_of_le hlt hle)

/-- What every step does to the rolls: it makes rolls of its own, and keeps those of others. -/
structure Carried (step : String) (s s' : ActionState) : Prop where
  dialog : s'.dialog = s.dialog
  rolls : ∀ r ∈ s'.rolls, r ∈ s.rolls ∨ r.step = step
  others : ∀ step' ≠ step, s'.rollsOf step' = s.rollsOf step'

namespace Carried

variable {s s' s'' : ActionState}

theorem refl (step : String) (s : ActionState) : Carried step s s :=
  ⟨rfl, fun _ => .inl, fun _ _ => rfl⟩

theorem of_eq (h : Carried step s s') (hd : s''.dialog = s'.dialog) (hr : s''.rolls = s'.rolls) :
    Carried step s s'' where
  dialog := hd.trans h.dialog
  rolls := hr ▸ h.rolls
  others step' hne := by
    rw [rollsOf, hr]
    exact h.others step' hne

theorem withPool (h : Carried step s s') (key : String) (p : Pool.DicePool) :
    Carried step s (s'.withPool key p) := h.of_eq rfl rfl

theorem rolled (h : Carried step s s') (formula : String) (id : Option String)
    (o : Dice.Outcome) : Carried step s (s'.rolled step formula id o) where
  dialog := h.dialog
  rolls r hr := by
    obtain hr | hr := List.mem_append.mp hr
    · exact h.rolls r hr
    · exact .inr (List.mem_singleton.mp hr ▸ rfl)
  others step' hne := by
    rw [rollsOf_rolled, if_neg (Ne.symm hne), List.append_nil]
    exact h.others step' hne

theorem lastRoll? (h : Carried step s s') {step' : String} (hne : step' ≠ step) (id : String) :
    s'.lastRoll? step' id = s.lastRoll? step' id := lastRoll?_congr (h.others step' hne) id

theorem before (h : Carried step s s') (ho : InOrder (step :: rest))
    (hb : ∀ r ∈ s.rolls, ∀ a ∈ step :: rest, stepOrder.idxOf r.step < stepOrder.idxOf a) :
    ∀ r ∈ s'.rolls, ∀ a ∈ rest, stepOrder.idxOf r.step < stepOrder.idxOf a := by
  intro r hr a ha
  obtain hr | rfl := h.rolls r hr
  · exact hb r hr a (List.mem_cons_of_mem _ ha)
  · exact (List.pairwise_cons.mp ho).1 a ha

end Carried

theorem InOrder.notMem_rest (h : InOrder (step :: rest)) {a : String}
    (ha : stepOrder.idxOf a ≤ stepOrder.idxOf step) : a ∉ rest := fun hm =>
  Nat.lt_irrefl _ (Nat.lt_of_lt_of_le ((List.pairwise_cons.mp h).1 a hm) ha)

structure SameHarm (o o' : TargetOutcome) : Prop where
  attack : o'.attack = o.attack
  hit : o'.hit = o.hit
  critical : o'.critical = o.critical
  damage : o'.damageByType = o.damageByType

structure SameTale (o o' : TargetOutcome) : Prop extends SameHarm o o' where
  save : o'.save = o.save

theorem SameHarm.refl (o : TargetOutcome) : SameHarm o o := ⟨rfl, rfl, rfl, rfl⟩

theorem SameTale.refl (o : TargetOutcome) : SameTale o o := ⟨.refl o, rfl⟩

theorem SameHarm.share {o o' : TargetOutcome} (h : SameHarm o o') (t : Table δ σ)
    (plain critical : Option RollRecord) :
    Damage.share t plain critical o' = Damage.share t plain critical o := by
  rw [Damage.share, h.hit, h.critical, Damage.share]

/-- A step that makes no record, and tells nothing new in one. -/
structure Aside (step : String) (s s' : ActionState) : Prop extends Carried step s s' where
  plainPool : Entries.get? s'.pools "damage" = Entries.get? s.pools "damage"
  criticalPool : Entries.get? s'.pools "damage-critical" = Entries.get? s.pools "damage-critical"
  records : ∀ id o', s'.outcome? id = some o' → ∃ o, s.outcome? id = some o ∧ SameTale o o'

namespace Aside

variable {s s' s'' : ActionState}

theorem refl (step : String) (s : ActionState) : Aside step s s where
  toCarried := .refl step s
  plainPool := rfl
  criticalPool := rfl
  records _ o h := ⟨o, h, .refl o⟩

theorem of_eq (h : Aside step s s') (hd : s''.dialog = s'.dialog) (hr : s''.rolls = s'.rolls)
    (hp : s''.pools = s'.pools) (ho : s''.outcomes = s'.outcomes) : Aside step s s'' where
  toCarried := h.toCarried.of_eq hd hr
  plainPool := hp ▸ h.plainPool
  criticalPool := hp ▸ h.criticalPool
  records := by
    intro id o'
    rw [ActionState.outcome?, ho]
    exact h.records id o'

theorem quiet (step : String) (s : ActionState) :
    Quiet fun v : World δ σ => v.state.WellFormed ∧ Aside step s v.state :=
  ⟨fun _ h => h.1, fun _ _ h => h⟩

end Aside

theorem Traced.aside {s s' : ActionState} (h : Traced t s) (ha : Aside step s s')
    (hs : step ∉ [Attack.stepId, Damage.stepId, Save.stepId]) : Traced t s' := by
  simp only [List.mem_cons, List.not_mem_nil, or_false, not_or] at hs
  obtain ⟨hattack, hdamage, hsave⟩ := hs
  refine ⟨?_, ?_, ?_, ?_⟩
  · intro id o' r ho' hr
    obtain ⟨o, ho, hsame⟩ := ha.records id o' ho'
    rw [ha.lastRoll? (Ne.symm hattack)]
    exact h.attack id o r ho (hsame.attack ▸ hr)
  · intro hshared
    rw [ha.others _ (Ne.symm hattack)]
    exact h.shared (ha.dialog ▸ hshared)
  · intro id o' r ho' hr
    obtain ⟨o, ho, hsame⟩ := ha.records id o' ho'
    rw [ha.lastRoll? (Ne.symm hsave)]
    exact h.save id o r ho (hsame.save ▸ hr)
  · obtain ⟨plain, critical, hrolls⟩ := h.damage
    refine ⟨plain, critical, ⟨?_, ?_, ?_⟩, fun id o' ho' => ?_⟩
    · rw [ha.others _ (Ne.symm hdamage)]
      exact hrolls.rolls
    · rw [ha.plainPool]
      exact hrolls.plainPool
    · rw [ha.criticalPool]
      exact hrolls.criticalPool
    · obtain ⟨o, ho, hsame⟩ := ha.records id o' ho'
      rw [hsame.damage, hsame.share]
      exact hrolls.shares id o ho

theorem Tracing.of_eq {left : List String} (h : Tracing t left w)
    (hd : v.state.dialog = w.state.dialog) (ht : v.state.targets = w.state.targets)
    (hr : v.state.rolls = w.state.rolls) (hp : v.state.pools = w.state.pools)
    (ho : v.state.outcomes = w.state.outcomes) : Tracing t left v := by
  have hout := outcome?_congr ho
  have hhit : wasHit v.state = wasHit w.state := funext fun x => by rw [wasHit, hout, wasHit]
  have haffected : affectedTargets v.state = affectedTargets w.state := by
    rw [affectedTargets, attackResolved, ho, liveTargets, ht, hhit]
    rfl
  have hrolls : v.state.rollsOf Damage.stepId = w.state.rollsOf Damage.stepId := by
    rw [rollsOf, hr, rollsOf]
  refine ⟨hr ▸ h.before, h.traced.aside ((Aside.refl Start.stepId _).of_eq hd hr hp ho) (by decide),
    ?_, ?_⟩
  · simpa only [hout] using h.attacked
  · simpa only [hout, haffected, hrolls] using h.opened

/-- A step in its turn that tells nothing new, before damage is rolled or after saves are. -/
theorem Tracing.aside (h : Tracing t (step :: rest) w) (ho : InOrder (step :: rest))
    (ha : Aside step w.state v.state)
    (hs : step ∉ [Attack.stepId, Damage.stepId, Save.stepId])
    (hsave : Save.stepId ∈ rest → w.state.rollsOf Damage.stepId = []) : Tracing t rest v where
  before := ha.toCarried.before ho h.before
  traced := h.traced.aside ha hs
  attacked hm id o' ho' := by
    obtain ⟨o, ho, hsame⟩ := ha.records id o' ho'
    rw [hsame.attack]
    exact h.attacked (List.mem_cons_of_mem _ hm) id o ho
  opened hm hne := by
    have hdamage : Damage.stepId ≠ step := fun he => hs (by simp [← he])
    rw [ha.others _ hdamage] at hne
    exact (hne (hsave hm)).elim

theorem Tracing.start (h : Tracing t (Start.stepId :: rest) w) (hw : w.state.WellFormed)
    (ho : InOrder (Start.stepId :: rest)) : Tracing t rest (perform (Start.run t) w).2 := by
  refine h.aside ho (Start.run_preserves (Aside.quiet Start.stepId w.state) t
    ⟨hw, .refl _ _⟩ ?_ ?_).2 (by decide) fun _ => ?_
  · exact fun v _ _ _ hv => ⟨hv.1.of_steps rfl rfl, hv.2.of_eq rfl rfl rfl rfl⟩
  · exact fun v hv => ⟨hv.1.of_steps rfl rfl, hv.2.of_eq rfl rfl rfl rfl⟩
  · exact h.rollsOf_eq_nil List.mem_cons_self (by decide)

theorem Tracing.applyDamage (h : Tracing t (ApplyDamage.stepId :: rest) w)
    (hw : w.state.WellFormed) (ho : InOrder (ApplyDamage.stepId :: rest)) :
    Tracing t rest (perform (ApplyDamage.run t) w).2 := by
  refine h.aside ho (ApplyDamage.run_preserves (Aside.quiet ApplyDamage.stepId w.state) t
    ⟨hw, .refl _ _⟩ ?_ ?_).2 (by decide) fun hm => (ho.notMem_rest (by decide) hm).elim
  · rintro v target o ⟨hv, ha⟩ - hout -
    refine ⟨hv.recorded _ _, ha.toCarried.of_eq rfl rfl, ha.plainPool, ha.criticalPool, ?_⟩
    intro id o' ho'
    rw [outcome?_recorded] at ho'
    split at ho'
    · rename_i hid
      cases ho'
      rw [outcomeOf, hout, Option.getD_some, hid]
      obtain ⟨o₀, ho₀, hsame⟩ := ha.records target.id o hout
      exact ⟨o₀, ho₀, ⟨hsame.attack, hsame.hit, hsame.critical, hsame.damage⟩, hsame.save⟩
    · exact ha.records id o' ho'
  · exact fun v _ _ _ hv _ _ _ _ => hv

theorem Tracing.complete (h : Tracing t (Complete.stepId :: rest) w) (hw : w.state.WellFormed)
    (ho : InOrder (Complete.stepId :: rest)) : Tracing t rest (perform Complete.run w).2 :=
  h.aside ho (Complete.run_preserves (Aside.quiet Complete.stepId w.state)
    (fun _ _ _ hv => ⟨hv.1.of_steps rfl rfl, hv.2.of_eq rfl rfl rfl rfl⟩) w ⟨hw, .refl _ _⟩).2
    (by decide) fun hm => (ho.notMem_rest (by decide) hm).elim

theorem Tracing.skillCheck (h : Tracing t (SkillCheck.stepId :: rest) w)
    (hw : w.state.WellFormed) (ho : InOrder (SkillCheck.stepId :: rest)) :
    Tracing t rest (perform (SkillCheck.run t) w).2 := by
  refine h.aside ho (SkillCheck.run_preserves_built (Aside.quiet SkillCheck.stepId w.state) t
    ⟨hw, .refl _ _⟩ (fun a pool _ _ => ?_) (fun formula => ?_) ?_).2 (by decide)
    fun hm => (ho.notMem_rest (by decide) hm).elim
  · refine Preserves.update fun v hv => ⟨hv.1.of_steps rfl rfl, hv.2.toCarried.of_eq rfl rfl,
      ?_, ?_, hv.2.records⟩
    · exact (Entries.get?_put _ _ _ _).trans ((if_neg (by decide)).trans hv.2.plainPool)
    · exact (Entries.get?_put _ _ _ _).trans ((if_neg (by decide)).trans hv.2.criticalPool)
  · intro v hv
    rw [perform_roll]
    rcases t.evaluator.evaluate formula v.dice with ⟨e | o, dice⟩
    · exact hv
    · exact ⟨hv.1.of_steps rfl rfl, hv.2.toCarried.rolled _ _ _, hv.2.plainPool, hv.2.criticalPool,
        hv.2.records⟩
  · exact fun v _ hv => ⟨hv.1.of_steps rfl rfl, hv.2.of_eq rfl rfl rfl rfl⟩

end Encounter.Run
