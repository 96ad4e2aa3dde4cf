import Encounter.Proofs.Run.Simulation
import Encounter.Proofs.Run.StepEffects

namespace Encounter

/-- What an evaluator was asked, and what it answered, in order. -/
abbrev Calls := List (String × Result Dice.Outcome)

variable {δ : Type}

/-- The evaluator with notes of its calls beside the dice. -/
def Evaluator.noting (e : Evaluator δ) : Evaluator (δ × Calls) where
  evaluate formula d :=
    let (answer, dice) := e.evaluate formula d.1
    (answer, dice, d.2 ++ [(formula, answer)])

namespace Run

open ActionState

def RollRecord.reading (r : RollRecord) : String × Int × Option Int × List (String × Int) :=
  (r.formula, r.total, r.natural, r.totalsByType)

def readings (calls : Calls) : List (String × Int × Option Int × List (String × Int)) :=
  calls.filterMap fun c => c.2.toOption.map fun o =>
    (c.1, o.total, o.natural, Entries.ofList o.totalsByType)

theorem readings_append (xs ys : Calls) : readings (xs ++ ys) = readings xs ++ readings ys :=
  List.filterMap_append

variable {σ α β : Type}

def World.noting (w : World δ σ) (calls : Calls) : World (δ × Calls) σ where
  state := w.state
  dice := (w.dice, calls)
  source := w.source
  events := w.events
  visited := w.visited

/-- A world, and the same one with notes. The answers in the notes are the rolls in the state. -/
structure Noted (w : World δ σ) (w' : World (δ × Calls) σ) : Prop where
  same : w' = w.noting w'.dice.2
  rolls : w.state.rolls.map RollRecord.reading = readings w'.dice.2

theorem Noted.state {w : World δ σ} {w' : World (δ × Calls) σ} (h : Noted w w') :
    w'.state = w.state := congrArg World.state h.same

theorem Noted.source {w : World δ σ} {w' : World (δ × Calls) σ} (h : Noted w w') :
    w'.source = w.source := congrArg World.source h.same

/-- An action and its counterpart with a noting evaluator. -/
abbrev Accounts (m : RunM δ σ α) (m' : RunM (δ × Calls) σ α) : Prop := Simulates Noted m m'

namespace Accounts

theorem readState_bind {g : ActionState → RunM δ σ β} {g' : ActionState → RunM (δ × Calls) σ β}
    (hg : ∀ s, Accounts (g s) (g' s)) : Accounts (readState >>= g) (readState >>= g') := by
  intro w w' h
  rw [perform_bind_ok _ (perform_readState w), perform_bind_ok _ (perform_readState w'), h.state]
  exact hg w.state w w' h

theorem act {op : ActionState → ActionState.Step α} (h : ∀ s, (op s).2.rolls = s.rolls) :
    Accounts (act op : RunM δ σ α) (act op) := by
  intro w w' hw
  rw [perform_act, perform_act, hw.state]
  refine ⟨rfl, ?_, ?_⟩
  · rw [hw.same]
    rfl
  · rw [h]
    exact hw.rolls

theorem update {f : ActionState → ActionState} (h : ∀ s, (f s).rolls = s.rolls) :
    Accounts (update f : RunM δ σ Unit) (update f) := act h

theorem report (events : List Log.Event) :
    Accounts (report events : RunM δ σ Unit) (report events) := by
  intro w w' hw
  rw [perform_report, perform_report]
  refine ⟨rfl, ?_, hw.rolls⟩
  rw [hw.same]
  rfl

theorem info (name : String) (fields : List (String × Value)) :
    Accounts (info name fields : RunM δ σ Unit) (info name fields) := report _

theorem reportNatural (o : Dice.Outcome) :
    Accounts (reportNatural o : RunM δ σ Unit) (reportNatural o) := by
  unfold Run.reportNatural
  split
  · exact report _
  · exact .pure ()

theorem storePool (key : String) (p : Pool.DicePool) :
    Accounts (storePool key p : RunM δ σ Unit) (storePool key p) := update fun _ => rfl

theorem record (target : Target) (f : TargetOutcome → TargetOutcome) :
    Accounts (record target f : RunM δ σ Unit) (record target f) := by
  refine act fun s => ?_
  unfold ActionState.outcomeFor
  cases s.outcome? target.id with
  | some o => rfl
  | none =>
    dsimp only [ActionState.stored]
    cases (s.setOutcome target.id (.ofTarget target)).check <;> rfl

theorem requireActor (step : String) :
    Accounts (requireActor step : RunM δ σ Actor) (requireActor step) := by
  refine readState_bind fun s => ?_
  cases s.actor with
  | some a => exact .pure a
  | none => exact .throw _

end Accounts

def Table.noting (t : Table δ σ) : Table (δ × Calls) σ where
  registry := t.registry
  builder := t.builder
  engine := t.engine
  evaluator := t.evaluator.noting
  source := t.source
  settings := t.settings

namespace Accounts

variable {t : Table δ σ}

/-- A call that gives an answer is one more roll, and a call that fails is none. -/
theorem roll (step formula : String) (id : Option String) :
    Accounts (t.roll step formula id) (t.noting.roll step formula id) := by
  intro w w' h
  have ht := perform_roll t step formula id w
  have ht' := perform_roll t.noting step formula id w'
  have hdice : w'.dice.1 = w.dice := congrArg (·.dice.1) h.same
  have hnoting : t.noting.evaluator.evaluate formula w'.dice =
      ((t.evaluator.evaluate formula w.dice).1, (t.evaluator.evaluate formula w.dice).2,
        w'.dice.2 ++ [(formula, (t.evaluator.evaluate formula w.dice).1)]) := by
    rw [← hdice]
    rfl
  rw [hnoting] at ht'
  rcases hev : t.evaluator.evaluate formula w.dice with ⟨e | o, dice⟩ <;> rw [hev] at ht ht'
  · refine Simulates.of_eq ht ht' ⟨?_, ?_⟩
    · rw [h.same]
      rfl
    · change w.state.rolls.map RollRecord.reading = readings (w'.dice.2 ++ _)
      rw [readings_append, ← h.rolls]
      exact (List.append_nil _).symm
  · rw [h.state] at ht'
    refine Simulates.of_eq ht ht' ⟨?_, ?_⟩
    · rw [h.same]
      rfl
    · change (w.state.rolls ++ [_]).map RollRecord.reading = readings (w'.dice.2 ++ _)
      rw [readings_append, List.map_append, h.rolls]
      rfl

theorem start : Accounts (Start.run t) (Start.run t.noting) := by
  have hvetoes : ∀ a d fs vs, Accounts (Start.vetoes a d vs fs : RunM δ σ (List String))
      (Start.vetoes a d vs fs) := by
    intro a d fs
    induction fs with
    | nil => exact fun vs => .pure vs
    | cons x rest ih =>
      intro vs
      rw [Start.vetoes, Start.vetoes]
      split
      · exact ih vs
      · refine .bind (.lift _) fun answer => .bind (report _) fun _ => ?_
        split
        · exact ih vs
        · exact .bind (.bind (act fun _ => rfl) fun _ => info _ _) fun _ => ih _
  have hactor : ∀ id, Accounts (Start.findActor t id) (Start.findActor t.noting id) := by
    intro id w w' h
    rw [Start.findActor, Start.findActor, perform_bind_ok _ (perform_get w),
      perform_bind_ok _ (perform_get w'), h.source]
    refine Simulates.bind (.lift _) (fun found => ?_) w w' h
    cases found with
    | some a => exact .pure a
    | none => exact .throw _
  have hlookUp : ∀ d, Accounts (Start.lookUpTargets t d) (Start.lookUpTargets t.noting d) := by
    intro d w w' h
    rw [Start.lookUpTargets, Start.lookUpTargets, perform_bind_ok _ (perform_get w),
      perform_bind_ok _ (perform_get w'), h.source]
    refine Simulates.bind (report _) (fun _ => ?_) w w' h
    exact .bind (update fun _ => rfl) fun _ => update fun _ => rfl
  refine readState_bind fun s => .bind (.lift _) fun _ => .bind (hactor _) fun a => ?_
  refine .bind (update fun _ => rfl) fun _ => .bind (hlookUp _) fun _ => ?_
  refine .bind (hvetoes _ _ _ _) fun vs => .bind (update fun _ => rfl) fun _ => ?_
  exact readState_bind fun _ => info _ _

theorem attack : Accounts (Attack.run t) (Attack.run t.noting) := by
  have hresolve : ∀ d ms o target,
      Accounts (Attack.resolve t d ms o target) (Attack.resolve t.noting d ms o target) :=
    fun d ms o target => .bind (reportNatural o) fun _ => .bind (record _ _) fun _ => info _ _
  refine .bind (requireActor _) fun a => readState_bind fun s => ?_
  refine .bind (.lift _) fun pool => .bind (storePool _ _) fun _ => .bind (.lift _) fun ms => ?_
  split
  · exact .bind (roll _ _ _) fun o => info _ _
  · change Accounts (if Attack.rollsSeparately t s.dialog then _ else _)
      (if Attack.rollsSeparately t s.dialog then _ else _)
    split
    · exact .forM fun target _ => .bind (roll _ _ _) fun o => hresolve _ ms o target
    · exact .bind (roll _ _ _) fun o => .forM fun target _ => hresolve _ ms o target

theorem damage : Accounts (Damage.run t) (Damage.run t.noting) := by
  have hroll : ∀ a key critical,
      Accounts (Damage.rollPool t a key critical) (Damage.rollPool t.noting a key critical) :=
    fun a key critical => readState_bind fun s => .bind (.lift _) fun pool =>
      .bind (storePool _ _) fun _ => .bind (roll _ _ _) fun o => .pure _
  have hdeal : ∀ damage targets, Accounts (Damage.deal damage targets : RunM δ σ Unit)
      (Damage.deal damage targets) := fun damage targets => .forM fun target _ => record _ _
  refine .bind (requireActor _) fun a => readState_bind fun s => ?_
  split
  · exact .bind (hroll _ _ _) fun p => info _ _
  · refine .bind (.forM fun target _ => record _ _) fun _ => readState_bind fun s' => ?_
    refine .optional (.bind (hroll _ _ _) fun p => hdeal _ _) fun _ => ?_
    exact .optional (.bind (hroll _ _ _) fun p => hdeal _ _) fun _ => info _ _

theorem save : Accounts (Save.run t) (Save.run t.noting) := by
  refine readState_bind fun s => ?_
  cases s.dialog.saveDc with
  | none => exact .throw _
  | some dc =>
    refine .forM fun target _ => .bind (.lift _) fun pool => .bind (storePool _ _) fun _ => ?_
    refine .bind (roll _ _ _) fun o => .bind (reportNatural o) fun _ => ?_
    exact .bind (record _ _) fun _ => info _ _

theorem hurt (id : String) (n : Int) :
    Accounts (ApplyDamage.hurt t id n) (ApplyDamage.hurt t.noting id n) := by
  intro w w' h
  have ht' := ApplyDamage.perform_hurt t.noting id n w'
  rw [h.source] at ht'
  refine Simulates.of_eq (ApplyDamage.perform_hurt t id n w) ht' ⟨?_, h.rolls⟩
  rw [h.same]
  rfl

theorem applyDamage : Accounts (ApplyDamage.run t) (ApplyDamage.run t.noting) := by
  refine readState_bind fun s => .forM fun target _ => readState_bind fun s' => ?_
  cases s'.outcome? target.id with
  | none => exact .pure ()
  | some o =>
    dsimp only
    split
    · exact .pure ()
    · exact .bind (record _ _) fun _ => .optional (hurt _ _) fun _ => info _ _

theorem skillCheck : Accounts (SkillCheck.run t) (SkillCheck.run t.noting) := by
  refine .bind (requireActor _) fun a => readState_bind fun s => ?_
  dsimp only
  cases s.dialog.checkDc with
  | none => exact .throw _
  | some dc =>
    refine .bind (.lift _) fun pool => .bind (storePool _ _) fun _ => ?_
    refine .bind (roll _ _ _) fun o => .bind (reportNatural o) fun _ => ?_
    exact .bind (update fun _ => rfl) fun _ => info _ _

theorem complete : Accounts (Complete.run : RunM δ σ Unit) Complete.run :=
  .bind (update fun _ => rfl) fun _ => .bind (update fun _ => rfl) fun _ =>
    readState_bind fun _ => info _ _

theorem shipped (step : String) : Option.Rel Accounts
    (Entries.get? (shippedHandlers t) step) (Entries.get? (shippedHandlers t.noting) step) :=
  Simulates.rel_get? <|
    .cons ⟨rfl, fun _ => start.handingBack⟩ <|
    .cons ⟨rfl, fun _ => attack.handingBack⟩ <|
    .cons ⟨rfl, fun _ => damage.handingBack⟩ <|
    .cons ⟨rfl, fun _ => save.handingBack⟩ <|
    .cons ⟨rfl, fun _ => applyDamage.handingBack⟩ <|
    .cons ⟨rfl, fun _ => skillCheck.handingBack⟩ <|
    .cons ⟨rfl, fun _ => complete.handingBack⟩ .nil

theorem failed (step message typeName : String) :
    Accounts (failed step message typeName : RunM δ σ Unit) (failed step message typeName) :=
  .bind (act fun _ => rfl) fun _ => report _

theorem runStep (step : String) :
    Accounts (runStep (shippedHandlers t) step) (runStep (shippedHandlers t.noting) step) := by
  unfold Run.runStep
  have hs := shipped (t := t) step
  generalize Entries.get? (shippedHandlers t) step = h at hs ⊢
  generalize Entries.get? (shippedHandlers t.noting) step = h' at hs ⊢
  cases hs with
  | none => exact readState_bind fun s => .bind (failed _ _ _) fun _ => .throw _
  | some hh =>
    refine readState_bind fun s => .bind (.tryCatch (.bind hh fun reply => ?_) fun e =>
      .bind (failed _ _ _) fun _ => .throw e) fun _ => readState_bind fun s => report _
    cases reply with
    | handedBack => exact .pure ()
    | nothing => exact .throw _

theorem finishStep (step : String) :
    Accounts (finishStep step : RunM δ σ Unit) (finishStep step) := by
  refine .bind (update fun _ => rfl) fun _ => ?_
  intro w w' h
  refine Simulates.of_eq (perform_modify _ w) (perform_modify _ w') ⟨?_, h.rolls⟩
  rw [h.same]
  rfl

theorem observe (step : String) (o : Observer) :
    Accounts (observe step o : RunM δ σ Unit) (observe step o) := by
  refine readState_bind fun s => .tryCatch (.bind ?_ fun _ => ?_) fun e => report _
  · split
    · exact act fun _ => rfl
    · exact .pure ()
  · split
    · exact .throw _
    · exact .pure ()

theorem nextStep : Accounts (Run.act (·.nextStep) : RunM δ σ String) (Run.act (·.nextStep)) := by
  refine act fun s => ?_
  unfold ActionState.nextStep
  split <;> rfl

theorem runFrom (observers : List Observer) (l : List String) :
    Accounts (runFrom (shippedHandlers t) observers l)
      (runFrom (shippedHandlers t.noting) observers l) := by
  induction l with
  | nil => exact .throw _
  | cons step rest ih =>
    refine readState_bind fun s => ?_
    split
    · exact info _ _
    · refine .bind (runStep step) fun _ => .bind (finishStep step) fun _ => ?_
      refine .bind (.forM fun o _ => observe step o) fun _ => ?_
      split
      · exact readState_bind fun _ => info _ _
      · exact .bind nextStep fun _ => ih

theorem execute (observers : List Observer) :
    Accounts (execute (shippedHandlers t) observers)
      (execute (shippedHandlers t.noting) observers) :=
  readState_bind fun _ => .bind (info _ _) fun _ => runFrom observers _

end Accounts

/-- A run without rolls so far ends alike with an evaluator that notes its calls, and then has
recorded the answers that were noted. -/
theorem execute_noting (t : Table δ σ) (observers : List Observer) {w : World δ σ}
    (hw : w.state.rolls = []) :
    ∃ calls, perform (execute (shippedHandlers t.noting) observers) (w.noting []) =
        ((perform (execute (shippedHandlers t) observers) w).1,
          (perform (execute (shippedHandlers t) observers) w).2.noting calls) ∧
      (perform (execute (shippedHandlers t) observers) w).2.state.rolls.map RollRecord.reading =
        readings calls := by
  have hnoted : Noted w (w.noting []) := ⟨rfl, by rw [hw]; rfl⟩
  obtain ⟨hanswer, hsame, hrolls⟩ := Accounts.execute observers w (w.noting []) hnoted
  exact ⟨_, Prod.ext hanswer hsame, hrolls⟩

end Run
end Encounter
