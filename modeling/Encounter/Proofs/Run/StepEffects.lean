import Encounter.Proofs.Run.Course

namespace Encounter.Run

open ActionState

variable {δ σ α β : Type} {I : World δ σ → Prop}

/-- An action takes every world with a property to one with that property, also when it fails. -/
def Preserves (I : World δ σ → Prop) (m : RunM δ σ α) : Prop := ∀ w, I w → I (perform m w).2

namespace Preserves

theorem pure (a : α) : Preserves I (pure a : RunM δ σ α) := fun _ h => h

theorem throw (e : Failure) : Preserves I (throw e : RunM δ σ α) := fun _ h => h

theorem lift (r : Result α) : Preserves I (liftM r : RunM δ σ α) := by
  intro w h
  rwa [perform_lift]

theorem bind {m : RunM δ σ α} {f : α → RunM δ σ β} (hm : Preserves I m)
    (hf : ∀ a, Preserves I (f a)) : Preserves I (m >>= f) := by
  intro w h
  have hv := hm w h
  rw [perform_bind]
  rcases hp : perform m w with ⟨e | a, v⟩ <;> rw [hp] at hv
  · exact hv
  · exact hf a v hv

theorem lift_bind_at {r : Result α} {f : α → RunM δ σ β} {w : World δ σ} (hw : I w)
    (hf : ∀ a, r = .ok a → I (perform (f a) w).2) : I (perform (liftM r >>= f) w).2 := by
  rw [perform_bind, perform_lift]
  cases r with
  | error e => exact hw
  | ok a => exact hf a rfl

theorem lift_bind {r : Result α} {f : α → RunM δ σ β} (hf : ∀ a, r = .ok a → Preserves I (f a)) :
    Preserves I (liftM r >>= f) := fun w h => lift_bind_at h fun a ha => hf a ha w h

/-- What follows a look at the state may use what holds of that state. -/
theorem readState_bind {f : ActionState → RunM δ σ β}
    (hf : ∀ w, I w → Preserves I (f w.state)) : Preserves I (readState >>= f) := by
  intro w h
  rw [perform_bind_ok _ (perform_readState w)]
  exact hf w h w h

theorem forM {f : α → RunM δ σ Unit} {xs : List α} (hf : ∀ x ∈ xs, Preserves I (f x)) :
    Preserves I (xs.forM f) := by
  induction xs with
  | nil => exact Preserves.pure ()
  | cons x xs ih =>
    exact bind (hf x List.mem_cons_self) fun _ => ih fun y hy => hf y (List.mem_cons_of_mem x hy)

theorem update {f : ActionState → ActionState} (hf : ∀ w, I w → I { w with state := f w.state }) :
    Preserves I (update f : RunM δ σ Unit) := by
  intro w h
  rw [perform_update]
  exact hf w h

/-- A roll adds a record, and takes dice also if it fails. -/
theorem roll (hI : ∀ w rs d, I w → I { w with state := { w.state with rolls := rs }, dice := d })
    (t : Table δ σ) (step formula : String) (id : Option String) :
    Preserves I (t.roll step formula id) := by
  intro w h
  rw [perform_roll]
  rcases t.evaluator.evaluate formula w.dice with ⟨e | o, dice⟩
  · exact hI w w.state.rolls dice h
  · exact hI w _ dice h

theorem roll_bind_at {t : Table δ σ} {step formula : String} {id : Option String}
    {f : Dice.Outcome → RunM δ σ β} {w : World δ σ} (hw : w.state.WellFormed)
    (he : ∀ d, I { w with dice := d })
    (ho : ∀ o d, I (perform (f o)
      { w with state := w.state.rolled step formula id o, dice := d }).2) :
    I (perform (t.roll step formula id >>= f) w).2 := by
  rw [perform_bind, perform_roll]
  rcases t.evaluator.evaluate formula w.dice with ⟨e | o, d⟩
  · exact he d
  · dsimp only
    rw [(hw.rolled step formula id o).check]
    exact ho o d

end Preserves

/-- A property that holds of well-formed states only, and does not notice the log. -/
structure Quiet (I : World δ σ → Prop) : Prop where
  wellFormed : ∀ w, I w → w.state.WellFormed
  events : ∀ w es, I w → I { w with events := es }

namespace Quiet

theorem report (hI : Quiet I) (es : List Log.Event) : Preserves I (report es) :=
  fun w h => hI.events w _ h

theorem info (hI : Quiet I) (name : String) (fields : List (String × Value)) :
    Preserves I (info name fields) := hI.report _

theorem reportNatural (hI : Quiet I) (o : Dice.Outcome) : Preserves I (reportNatural o) := by
  unfold Run.reportNatural
  split
  · exact hI.report _
  · exact Preserves.pure ()

end Quiet

/-- A property that does not notice pools and rolls either. -/
structure Closed (I : World δ σ → Prop) : Prop extends Quiet I where
  pools : ∀ w ps, I w → I { w with state := { w.state with pools := ps } }
  rolls : ∀ w rs d, I w → I { w with state := { w.state with rolls := rs }, dice := d }

namespace Closed

theorem storePool (hI : Closed I) (key : String) (p : Pool.DicePool) :
    Preserves I (storePool key p) := Preserves.update fun w h => hI.pools w _ h

theorem roll (hI : Closed I) (t : Table δ σ) (step formula : String) (id : Option String) :
    Preserves I (t.roll step formula id) := Preserves.roll hI.rolls t step formula id

end Closed

theorem Preserves.requireActor_bind_at {f : Actor → RunM δ σ β} (step : String) {w : World δ σ}
    (hw : I w) (hf : ∀ a, w.state.actor = some a → I (perform (f a) w).2) :
    I (perform (requireActor step >>= f) w).2 := by
  rw [requireActor, bind_assoc, perform_bind_ok _ (perform_readState w)]
  cases ha : w.state.actor with
  | none => exact hw
  | some a => exact hf a ha

namespace ActionState

def outcomeOf (s : ActionState) (target : Target) : TargetOutcome :=
  (s.outcome? target.id).getD (.ofTarget target)

def recorded (s : ActionState) (target : Target) (f : TargetOutcome → TargetOutcome) :
    ActionState :=
  s.setOutcome target.id (f (s.outcomeOf target))

theorem WellFormed.recorded {s : ActionState} (h : s.WellFormed) (target : Target)
    (f : TargetOutcome → TargetOutcome) : (s.recorded target f).WellFormed := h.of_steps rfl rfl

theorem outcome?_recorded (s : ActionState) (target : Target) (f : TargetOutcome → TargetOutcome)
    (id : String) :
    (s.recorded target f).outcome? id =
      if id = target.id then some (f (s.outcomeOf target)) else s.outcome? id :=
  Entries.get?_put _ _ _ _

end ActionState

theorem perform_record {w : World δ σ} (hw : w.state.WellFormed) (target : Target)
    (f : TargetOutcome → TargetOutcome) :
    perform (record target f : RunM δ σ Unit) w =
      (.ok (), { w with state := w.state.recorded target f }) := by
  rw [record, perform_act, ActionState.outcomeFor]
  cases ho : w.state.outcome? target.id with
  | some o =>
    simp only [recorded, outcomeOf, ho, Option.getD_some]
  | none =>
    have hs : (w.state.setOutcome target.id (.ofTarget target)).check = .ok () :=
      WellFormed.check (hw.of_steps rfl rfl)
    simp only [ActionState.stored, hs, Except.map, recorded, outcomeOf, ho, Option.getD_none]
    simp only [setOutcome, Entries.put_put]

def ActionState.withPool (s : ActionState) (key : String) (p : Pool.DicePool) : ActionState :=
  { s with pools := Entries.put s.pools key p }

theorem ActionState.WellFormed.withPool {s : ActionState} (h : s.WellFormed) (key : String)
    (p : Pool.DicePool) : (s.withPool key p).WellFormed := h.of_steps rfl rfl

theorem perform_storePool {w : World δ σ} (hw : w.state.WellFormed) (key : String)
    (p : Pool.DicePool) : perform (storePool key p : RunM δ σ Unit) w =
      (.ok (), { w with state := w.state.withPool key p }) :=
  perform_update_ok (hw.withPool key p)

theorem Quiet.record (hI : Quiet I) {target : Target} {f : TargetOutcome → TargetOutcome}
    (hf : ∀ w, I w → I { w with state := w.state.recorded target f }) :
    Preserves I (record target f) := by
  intro w h
  rw [perform_record (hI.wellFormed w h)]
  exact hf w h

def Start.found (t : Table δ σ) (d : Dialog) (creatures : σ) : List Target :=
  (lookUp (fun id => t.source.target id creatures) d.targetIds (some stepId)).map (·.target)

/-- The first step changes the actor, the errors and the vetoes, and takes the targets that the
source shows. -/
theorem Start.run_preserves (hI : Quiet I) (t : Table δ σ) {w₀ : World δ σ} (h₀ : I w₀)
    (hs : ∀ w a es vs, I w →
      I { w with state := { w.state with actor := a, errors := es, vetoed := vs } })
    (ht : ∀ w, I w →
      I { w with state := { w.state with targets := found t w₀.state.dialog w.source } }) :
    I (perform (Start.run t) w₀).2 := by
  have hactor : ∀ a, Preserves I (update fun s => { s with actor := a } : RunM δ σ Unit) :=
    fun a => Preserves.update fun w h => hs w a w.state.errors w.state.vetoed h
  have herrors : ∀ es, Preserves I
      (update fun s => { s with errors := s.errors ++ es } : RunM δ σ Unit) :=
    fun es => Preserves.update fun w h => hs w w.state.actor _ w.state.vetoed h
  have hvetoed : ∀ vs, Preserves I (update fun s => { s with vetoed := vs } : RunM δ σ Unit) :=
    fun vs => Preserves.update fun w h => hs w w.state.actor w.state.errors vs h
  have hvetoes : ∀ a d fs vs, Preserves I (Start.vetoes a d vs fs : RunM δ σ (List String)) := by
    intro a d fs
    induction fs with
    | nil => exact fun vs => Preserves.pure vs
    | cons f fs ih =>
      intro vs
      obtain ⟨ty, f⟩ := f
      rw [Start.vetoes]
      split
      · exact ih vs
      · refine Preserves.bind (Preserves.lift _) fun answer => ?_
        refine Preserves.bind (hI.report _) fun _ => ?_
        split
        · exact ih vs
        · refine Preserves.bind ?_ fun _ => ih _
          exact Preserves.bind (herrors [_]) fun _ => hI.info _ _
  have hlookUp : Preserves I (Start.lookUpTargets t w₀.state.dialog) := by
    intro w h
    rw [Start.lookUpTargets, perform_bind_ok _ (perform_get w),
      perform_bind_ok _ (perform_report _ w),
      perform_bind_ok _ (perform_update_ok ((hI.wellFormed w h).of_steps rfl rfl))]
    exact herrors _ _ (ht _ (hI.events w _ h))
  rw [Start.run, perform_bind_ok _ (perform_readState w₀)]
  refine Preserves.bind (Preserves.lift _) (fun _ => ?_) w₀ h₀
  refine Preserves.bind ?_ fun a => ?_
  · intro w h
    rw [Start.findActor, perform_bind_ok _ (perform_get w), perform_bind, perform_lift]
    cases t.source.actor w₀.state.dialog.actorId w.source with
    | error e => exact h
    | ok a => cases a <;> exact h
  refine Preserves.bind (hactor (some a)) fun _ => ?_
  refine Preserves.bind hlookUp fun _ => ?_
  refine Preserves.bind (hvetoes _ _ _ _) fun vs => ?_
  refine Preserves.bind (hvetoed vs) fun _ => ?_
  exact Preserves.readState_bind fun _ _ => hI.info _ _

/-- The attack step stores the pool that is asked for, rolls, and records a classified roll for live
targets. -/
theorem Attack.run_preserves_built (hI : Quiet I) (t : Table δ σ) {w₀ : World δ σ} (h₀ : I w₀)
    (hp : ∀ a pool, w₀.state.actor = some a → t.builder.build (request w₀.state a) = .ok pool →
      Preserves I (storePool stepId pool))
    (hd : ∀ formula id, Preserves I (t.roll stepId formula id))
    (hr : ∀ w target ms o, I w → target ∈ w₀.state.liveTargets →
      I { w with state := w.state.recorded target (Attack.recorded (t.engine.classifyOutcome o
        target.armorClass .attack w₀.state.dialog.criticalRange ms)) }) :
    I (perform (Attack.run t) w₀).2 := by
  have hresolve : ∀ ms o, ∀ target ∈ w₀.state.liveTargets,
      Preserves I (Attack.resolve t w₀.state.dialog ms o target) := by
    intro ms o target hm
    refine Preserves.bind (hI.reportNatural o) fun _ => ?_
    refine Preserves.bind (hI.record fun w h => hr w target ms o h hm) fun _ => ?_
    exact hI.info _ _
  refine Preserves.requireActor_bind_at _ h₀ fun a ha => ?_
  rw [perform_bind_ok _ (perform_readState w₀)]
  refine Preserves.lift_bind (fun pool hpool => ?_) w₀ h₀
  refine Preserves.bind (hp a pool ha hpool) fun _ => ?_
  refine Preserves.bind (Preserves.lift _) fun ms => ?_
  split
  · exact Preserves.bind (hd _ _) fun o => hI.info _ _
  · split
    · exact Preserves.forM fun target hm =>
        Preserves.bind (hd _ _) fun o => hresolve ms o target hm
    · exact Preserves.bind (hd _ _) fun o => Preserves.forM fun target hm =>
        hresolve ms o target hm

theorem Attack.run_preserves (hI : Closed I) (t : Table δ σ) {w₀ : World δ σ} (h₀ : I w₀)
    (hr : ∀ w target ms o, I w → target ∈ w₀.state.liveTargets →
      I { w with state := w.state.recorded target (Attack.recorded (t.engine.classifyOutcome o
        target.armorClass .attack w₀.state.dialog.criticalRange ms)) }) :
    I (perform (Attack.run t) w₀).2 :=
  run_preserves_built hI.toQuiet t h₀ (fun _ _ _ _ => hI.storePool _ _)
    (fun _ _ => hI.roll _ _ _ _) hr

def Damage.dealt (damage : List (String × Int)) (o : TargetOutcome) : TargetOutcome :=
  { o with damageByType := damage }

/-- The keys under which the damage step stores its pools, with whether the pool is critical. -/
def Damage.poolKeys (t : Table δ σ) : List (String × Bool) :=
  [(stepId, false), ("damage-critical", t.settings.rules.criticalRule == .doubleDice)]

/-- The damage step opens the outcomes of the affected targets, stores the pools that are asked for,
rolls, and records the totals of a roll in the outcomes, as they are or doubled. -/
theorem Damage.run_preserves_built (hI : Quiet I) (t : Table δ σ) {w₀ : World δ σ} (h₀ : I w₀)
    (hp : ∀ w a k pool, I w → w₀.state.actor = some a → k ∈ poolKeys t →
      t.builder.build (request w.state a k.2) = .ok pool → Preserves I (storePool k.1 pool))
    (hr : ∀ formula, Preserves I (t.roll stepId formula))
    (ho : ∀ w target, I w → target ∈ affectedTargets w₀.state →
      I { w with state := w.state.recorded target id })
    (hd : ∀ w target o, I w → target ∈ affectedTargets w₀.state → ∀ damage,
      damage = Damage.totals t.builder.baseType o ∨
        damage = Damage.doubled (Damage.totals t.builder.baseType o) →
      I { w with state := w.state.recorded target (Damage.dealt damage) }) :
    I (perform (Damage.run t) w₀).2 := by
  have hroll : ∀ a key critical, w₀.state.actor = some a → (key, critical) ∈ poolKeys t →
      Preserves I (Damage.rollPool t a key critical) := by
    intro a key critical ha hk
    refine Preserves.readState_bind fun w hw => ?_
    refine Preserves.lift_bind fun pool hpool => ?_
    refine Preserves.bind (hp w a (key, critical) pool hw ha hk hpool) fun _ => ?_
    exact Preserves.bind (hr _) fun o => Preserves.pure _
  have hdeal : ∀ o damage ts, (∀ target ∈ ts, target ∈ affectedTargets w₀.state) →
      damage = Damage.totals t.builder.baseType o ∨
        damage = Damage.doubled (Damage.totals t.builder.baseType o) →
      Preserves I (Damage.deal damage ts) :=
    fun o damage ts hts hdm => Preserves.forM fun target hm =>
      hI.record fun w h => hd w target o h (hts target hm) damage hdm
  refine Preserves.requireActor_bind_at _ h₀ fun a ha => ?_
  have hplain := hroll a stepId false ha List.mem_cons_self
  have hdouble := hroll a "damage-critical" _ ha (List.mem_cons_of_mem _ List.mem_cons_self)
  rw [perform_bind_ok _ (perform_readState w₀)]
  refine (?_ : Preserves I _) w₀ h₀
  split
  · exact Preserves.bind hplain fun p => hI.info _ _
  refine Preserves.bind (Preserves.forM fun target hm => hI.record fun w h => ho w target h hm)
    fun _ => ?_
  refine Preserves.readState_bind fun w _ => ?_
  have hnormal : Preserves I (Damage.rollNormal t a
      ((affectedTargets w₀.state).filter fun target => !Damage.isCritical w.state target)) :=
    Preserves.bind hplain fun p =>
      hdeal p.2 _ _ (fun target hm => (List.mem_filter.mp hm).1) (.inl rfl)
  have hcritical : Preserves I (Damage.rollCritical t a
      ((affectedTargets w₀.state).filter (Damage.isCritical w.state))) := by
    refine Preserves.bind hdouble fun p => ?_
    refine hdeal p.2 _ _ (fun target hm => (List.mem_filter.mp hm).1) ?_
    split
    · exact .inl rfl
    · exact .inr rfl
  dsimp only
  split
  · refine Preserves.bind hnormal fun _ => ?_
    split
    · exact Preserves.bind hcritical fun _ => hI.info _ _
    · exact hI.info _ _
  · split
    · exact Preserves.bind hcritical fun _ => hI.info _ _
    · exact hI.info _ _

theorem Damage.run_preserves (hI : Closed I) (t : Table δ σ) {w₀ : World δ σ} (h₀ : I w₀)
    (ho : ∀ w target, I w → target ∈ affectedTargets w₀.state →
      I { w with state := w.state.recorded target id })
    (hd : ∀ w target o, I w → target ∈ affectedTargets w₀.state → ∀ damage,
      damage = Damage.totals t.builder.baseType o ∨
        damage = Damage.doubled (Damage.totals t.builder.baseType o) →
      I { w with state := w.state.recorded target (Damage.dealt damage) }) :
    I (perform (Damage.run t) w₀).2 :=
  run_preserves_built hI.toQuiet t h₀ (fun _ _ _ _ _ _ _ _ => hI.storePool _ _)
    (fun _ => hI.roll _ _ _ _) ho hd

theorem Save.toList_poolKey (target : Target) :
    (poolKey target).toList = 's' :: 'a' :: 'v' :: 'e' :: ':' :: target.id.toList :=
  String.toList_append

/-- The save step stores a pool for affected targets, rolls, and records a classified roll. -/
theorem Save.run_preserves_built (hI : Quiet I) (t : Table δ σ) {w₀ : World δ σ} (h₀ : I w₀)
    (hp : ∀ target pool, t.builder.build (request w₀.state.dialog target) = .ok pool →
      Preserves I (storePool (poolKey target) pool))
    (hd : ∀ formula id, Preserves I (t.roll stepId formula id))
    (hr : ∀ w target dc o, I w → target ∈ affectedTargets w₀.state →
      I { w with state :=
        w.state.recorded target (Save.recorded (t.engine.classifyOutcome o dc .save none [])) }) :
    I (perform (Save.run t) w₀).2 := by
  rw [Save.run, perform_bind_ok _ (perform_readState w₀)]
  refine (?_ : Preserves I _) w₀ h₀
  split
  · exact Preserves.throw _
  · rename_i dc _
    refine Preserves.forM fun target hm => ?_
    refine Preserves.lift_bind fun pool hpool => ?_
    refine Preserves.bind (hp target pool hpool) fun _ => ?_
    refine Preserves.bind (hd _ _) fun o => ?_
    refine Preserves.bind (hI.reportNatural o) fun _ => ?_
    exact Preserves.bind (hI.record fun w h => hr w target dc o h hm) fun _ => hI.info _ _

theorem Save.run_preserves (hI : Closed I) (t : Table δ σ) {w₀ : World δ σ} (h₀ : I w₀)
    (hr : ∀ w target dc o, I w → target ∈ affectedTargets w₀.state →
      I { w with state :=
        w.state.recorded target (Save.recorded (t.engine.classifyOutcome o dc .save none [])) }) :
    I (perform (Save.run t) w₀).2 :=
  run_preserves_built hI.toQuiet t h₀ (fun _ _ _ => hI.storePool _ _)
    (fun _ _ => hI.roll _ _ _ _) hr

def ApplyDamage.applied (n : Int) (o : TargetOutcome) : TargetOutcome :=
  { o with damageApplied := some n }

theorem ApplyDamage.perform_hurt (t : Table δ σ) (id : String) (n : Int) (w : World δ σ) :
    perform (hurt t id n) w =
      ((t.source.damage id n w.source).result.map fun _ => (),
        { w with
          source := (t.source.damage id n w.source).source
          events := w.events ++ (t.source.damage id n w.source).events }) := by
  have hh : hurt t id n = (do
      let w ← get
      set { w with
        source := (t.source.damage id n w.source).source
        events := w.events ++ (t.source.damage id n w.source).events }
      let _ ← liftM (t.source.damage id n w.source).result
      return ()) := rfl
  rw [hh, perform_bind_ok _ (perform_get w), perform_bind_ok _ (perform_set w _), perform_bind,
    perform_lift]
  cases (t.source.damage id n w.source).result <;> rfl

def ApplyDamage.appliedEvent (target : Target) (n : Int) (o : TargetOutcome) : Log.Event :=
  ⟨.info, "Damage applied to target", [("target", .text target.name), ("amount", .int n),
    ("saved", .ofOption .bool o.saved)]⟩

theorem ApplyDamage.perform_apply {w : World δ σ} (hw : w.state.WellFormed) (t : Table δ σ)
    (d : Dialog) (target : Target) {o : TargetOutcome} (ho : w.state.outcome? target.id = some o)
    (hne : o.damageByType ≠ []) :
    perform (apply t d target) w =
      perform (do
        if 0 < amount d.saveEffect target o then hurt t target.id (amount d.saveEffect target o)
        report [appliedEvent target (amount d.saveEffect target o) o] : RunM δ σ Unit)
        { w with state := w.state.recorded target (applied (amount d.saveEffect target o)) } := by
  have he : ¬ o.damageByType.isEmpty = true := by simpa using hne
  rw [apply, perform_bind_ok _ (perform_readState w), ho]
  dsimp only
  rw [if_neg he]
  exact perform_bind_ok _ (perform_record hw target (applied (amount d.saveEffect target o)))

theorem ApplyDamage.perform_apply_undamaged {w : World δ σ} (t : Table δ σ) (d : Dialog)
    (target : Target) (h : ∀ o, w.state.outcome? target.id = some o → o.damageByType = []) :
    perform (apply t d target) w = (.ok (), w) := by
  rw [apply, perform_bind_ok _ (perform_readState w)]
  cases ho : w.state.outcome? target.id with
  | none => rfl
  | some o =>
    dsimp only
    rw [if_pos (by simp [h o ho])]
    rfl

theorem ApplyDamage.undamaged_or_damaged (s : ActionState) (id : String) :
    (∀ o, s.outcome? id = some o → o.damageByType = []) ∨
      ∃ o, s.outcome? id = some o ∧ o.damageByType ≠ [] := by
  cases s.outcome? id with
  | none => exact .inl fun o h => nomatch h
  | some o =>
    by_cases h : o.damageByType = []
    · exact .inl fun o' ho => Option.some.inj ho ▸ h
    · exact .inr ⟨o, rfl, h⟩

/-- The last but one step of a fight records an amount for damaged live targets, and takes a
recorded amount from the creature if it is positive. -/
theorem ApplyDamage.run_preserves (hI : Quiet I) (t : Table δ σ) {w₀ : World δ σ} (h₀ : I w₀)
    (hr : ∀ w target o, I w → target ∈ w₀.state.liveTargets →
      w.state.outcome? target.id = some o → o.damageByType ≠ [] →
      I { w with state :=
        w.state.recorded target (applied (amount w₀.state.dialog.saveEffect target o)) })
    (hs : ∀ w target o n, I w → target ∈ w₀.state.liveTargets →
      w.state.outcome? target.id = some o → o.damageApplied = some n → 0 < n →
      I { w with source := (t.source.damage target.id n w.source).source }) :
    I (perform (ApplyDamage.run t) w₀).2 := by
  rw [ApplyDamage.run, perform_bind_ok _ (perform_readState w₀)]
  refine Preserves.forM (fun target hm => ?_) w₀ h₀
  intro w h
  obtain hu | ⟨o, ho, hne⟩ := undamaged_or_damaged w.state target.id
  · rw [perform_apply_undamaged t _ target hu]
    exact h
  have hrec := hr w target o h hm ho hne
  rw [perform_apply (hI.wellFormed w h) t _ target ho hne]
  split
  · rename_i hpos
    have hv : (w.state.recorded target
        (applied (amount w₀.state.dialog.saveEffect target o))).outcome? target.id =
          some (applied (amount w₀.state.dialog.saveEffect target o)
            (w.state.outcomeOf target)) := by
      rw [outcome?_recorded, if_pos rfl]
    have hsrc := hs _ target _ _ hrec hm hv rfl hpos
    rw [perform_bind, perform_hurt]
    cases (t.source.damage target.id _ w.source).result with
    | error e => exact hI.events _ _ hsrc
    | ok _ => exact hI.report _ _ (hI.events _ _ hsrc)
  · exact hI.report _ _ hrec

/-- The check step stores the pool that is asked for, rolls, and records its result. -/
theorem SkillCheck.run_preserves_built (hI : Quiet I) (t : Table δ σ) {w₀ : World δ σ} (h₀ : I w₀)
    (hp : ∀ a pool, w₀.state.actor = some a → t.builder.build (request w₀.state a) = .ok pool →
      Preserves I (storePool stepId pool))
    (hd : ∀ formula, Preserves I (t.roll stepId formula))
    (hr : ∀ w r, I w → I { w with state := { w.state with checkResult := r } }) :
    I (perform (SkillCheck.run t) w₀).2 := by
  refine Preserves.requireActor_bind_at _ h₀ fun a ha => ?_
  rw [perform_bind_ok _ (perform_readState w₀)]
  refine (?_ : Preserves I _) w₀ h₀
  dsimp only
  split
  · exact Preserves.throw _
  · refine Preserves.lift_bind fun pool hpool => ?_
    refine Preserves.bind (hp a pool ha hpool) fun _ => ?_
    refine Preserves.bind (hd _) fun o => ?_
    refine Preserves.bind (hI.reportNatural o) fun _ => ?_
    exact Preserves.bind (Preserves.update fun w h => hr w _ h) fun _ => hI.info _ _

theorem SkillCheck.run_preserves (hI : Closed I) (t : Table δ σ)
    (hr : ∀ w r, I w → I { w with state := { w.state with checkResult := r } }) :
    Preserves I (SkillCheck.run t) := fun _ h₀ =>
  run_preserves_built hI.toQuiet t h₀ (fun _ _ _ _ => hI.storePool _ _)
    (fun _ => hI.roll _ _ _ _) hr

/-- The last step stamps the state and writes the summary. -/
theorem Complete.run_preserves (hI : Quiet I)
    (hs : ∀ w f s, I w → I { w with state := { w.state with isFinished := f, summary := s } }) :
    Preserves I (Complete.run : RunM δ σ Unit) := by
  refine Preserves.bind (Preserves.update fun w h => hs w true w.state.summary h) fun _ => ?_
  refine Preserves.bind (Preserves.update fun w h => hs w w.state.isFinished _ h) fun _ => ?_
  exact Preserves.readState_bind fun _ _ => hI.info _ _

theorem closed_sameCourse (s : ActionState) (hs : s.WellFormed) :
    Closed fun w : World δ σ => SameCourse s w.state where
  wellFormed _ h := hs.of_sameCourse h
  events _ _ h := h
  pools _ _ h := ⟨h.steps, h.chain, h.completed⟩
  rolls _ _ _ h := ⟨h.steps, h.chain, h.completed⟩

theorem perform_handingBack (m : RunM δ σ Unit) (w : World δ σ) :
    (perform (handingBack m) w).2 = (perform m w).2 := by
  rw [handingBack, perform_bind]
  rcases perform m w with ⟨e | a, v⟩ <;> rfl

theorem perform_of_passes {t : Table δ σ} {step : String} {m : RunM δ σ Unit} {w u : World δ σ}
    (hm : Entries.get? (shippedHandlers t) step = some (handingBack m))
    (h : StepPasses (shippedHandlers t) step w u) : perform m w = (.ok (), u) := by
  obtain ⟨h', hh, hp⟩ := h
  cases hm.symm.trans hh
  obtain ⟨⟨⟩, v, hrun, hlast⟩ := exists_of_perform_bind hp
  cases hlast
  exact hrun

theorem keepsCourse_handingBack {m : RunM δ σ Unit}
    (hm : ∀ s : ActionState, s.WellFormed → ∀ w, SameCourse s w.state →
      SameCourse s (perform m w).2.state) : KeepsCourse (handingBack m) := by
  intro w hw
  rw [perform_handingBack]
  exact hm w.state hw w (.refl _)

/-- No shipped step changes the steps of the run, its position or what is completed. -/
theorem shippedHandlers_keepCourse (t : Table δ σ) : (shippedHandlers t).KeepCourse := by
  intro e he
  simp only [shippedHandlers, List.map_cons, List.map_nil, List.mem_cons, List.not_mem_nil,
    or_false] at he
  rcases he with rfl | rfl | rfl | rfl | rfl | rfl | rfl <;>
    refine keepsCourse_handingBack fun s hs w h => ?_
  · exact Start.run_preserves (closed_sameCourse s hs).toQuiet t h
      (fun _ _ _ _ h => ⟨h.steps, h.chain, h.completed⟩)
      fun _ h => ⟨h.steps, h.chain, h.completed⟩
  · exact Attack.run_preserves (closed_sameCourse s hs) t h
      fun _ _ _ _ h _ => ⟨h.steps, h.chain, h.completed⟩
  · exact Damage.run_preserves (closed_sameCourse s hs) t h
      (fun _ _ h _ => ⟨h.steps, h.chain, h.completed⟩)
      fun _ _ _ h _ _ _ => ⟨h.steps, h.chain, h.completed⟩
  · exact Save.run_preserves (closed_sameCourse s hs) t h
      fun _ _ _ _ h _ => ⟨h.steps, h.chain, h.completed⟩
  · exact ApplyDamage.run_preserves (closed_sameCourse s hs).toQuiet t h
      (fun _ _ _ h _ _ _ => ⟨h.steps, h.chain, h.completed⟩)
      fun _ _ _ _ h _ _ _ _ => h
  · exact SkillCheck.run_preserves (closed_sameCourse s hs) t
      (fun _ _ h => ⟨h.steps, h.chain, h.completed⟩) w h
  · exact Complete.run_preserves (closed_sameCourse s hs).toQuiet
      (fun _ _ _ h => ⟨h.steps, h.chain, h.completed⟩) w h

end Encounter.Run
