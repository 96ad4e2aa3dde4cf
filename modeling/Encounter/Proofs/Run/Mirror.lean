import Encounter.Proofs.Run.Simulation
import Encounter.Proofs.Run.StepEffects

namespace Encounter.Run

open ActionState

variable {δ σ α β : Type}

/-- What a run shows of another one, as long as that one has steps, choices and vetoes that are
admitted. -/
structure View where
  errors : List ErrorEntry → List ErrorEntry
  vetoed : List String → List String
  summary : Option Value → Option Value
  cancelled : Bool → Bool
  admits : List String → Dialog → List String → Prop

namespace View

def state (f : View) (s : ActionState) : ActionState :=
  { s with
    errors := f.errors s.errors
    vetoed := f.vetoed s.vetoed
    summary := f.summary s.summary
    cancelled := f.cancelled s.cancelled }

def Admits (f : View) (s : ActionState) : Prop := f.admits s.steps s.dialog s.vetoed

def vetoKind : String := "feature_veto"

/-- A view shows every error but those of vetoes, and a summary is that of the state it shows. -/
structure Faithful (f : View) : Prop where
  append : ∀ xs ys, f.errors (xs ++ ys) = f.errors xs ++ f.errors ys
  shows : ∀ es, (∀ e ∈ es, e.kind ≠ vetoKind) → f.errors es = es
  summary : ∀ s, f.summary (some (Complete.summary s)) = some (Complete.summary (f.state s))

end View

def World.logged (w : World δ σ) (events : List Log.Event)
    (visited : List (String × ActionState)) : World δ σ :=
  { w with events := events, visited := visited }

/-- The world as a view shows it. -/
def World.seen (w : World δ σ) (f : View) : World δ σ := { w with state := f.state w.state }

/-- What all steps but the first keep. -/
structure SamePlan (s t : ActionState) : Prop where
  steps : t.steps = s.steps
  dialog : t.dialog = s.dialog
  vetoed : t.vetoed = s.vetoed

theorem SamePlan.admits {f : View} {s t : ActionState} (h : SamePlan s t) (hs : f.Admits s) :
    f.Admits t := by
  rw [View.Admits, h.steps, h.dialog, h.vetoed]
  exact hs

/-- A world and what is shown of it, with any log. -/
def Mirrors (f : View) (w w' : World δ σ) : Prop :=
  w.state.WellFormed ∧ f.Admits w.state ∧ ∃ es vs, w' = (w.seen f).logged es vs

/-- An action answers as another one does, and their worlds stay mirrored: it simulates the other
one along the mirror. -/
def Follows (f : View) (m m' : RunM δ σ α) : Prop :=
  ∀ w w' : World δ σ, Mirrors f w w' →
    (perform m' w').1 = (perform m w).1 ∧ Mirrors f (perform m w).2 (perform m' w').2

variable {f : View}

theorem Follows.of_eq {m m' : RunM δ σ α} {w w' v v' : World δ σ} {r : Result α}
    (h : perform m w = (r, v)) (h' : perform m' w' = (r, v')) (hv : Mirrors f v v') :
    (perform m' w').1 = (perform m w).1 ∧ Mirrors f (perform m w).2 (perform m' w').2 :=
  Simulates.of_eq h h' hv

theorem Follows.exists_perform {m m' : RunM δ σ α} (h : Follows f m m') {w w' u : World δ σ}
    {r : Result α} (hw : Mirrors f w w') (hp : perform m w = (r, u)) :
    ∃ u', perform m' w' = (r, u') ∧ Mirrors f u u' := by
  obtain ⟨hr, hu⟩ := h w w' hw
  rw [hp] at hr hu
  exact ⟨(perform m' w').2, Prod.ext hr rfl, hu⟩

namespace Follows

theorem pure (a : α) : Follows f (pure a : RunM δ σ α) (pure a) := Simulates.pure a

theorem throw (e : Failure) : Follows f (throw e : RunM δ σ α) (throw e) := Simulates.throw e

theorem lift (r : Result α) : Follows f (liftM r : RunM δ σ α) (liftM r) := Simulates.lift r

theorem bind {m m' : RunM δ σ α} {g g' : α → RunM δ σ β} (hm : Follows f m m')
    (hg : ∀ a, Follows f (g a) (g' a)) : Follows f (m >>= g) (m' >>= g') := Simulates.bind hm hg

theorem readState_bind {g g' : ActionState → RunM δ σ β}
    (hg : ∀ s, f.Admits s → Follows f (g s) (g' (f.state s))) :
    Follows f (readState >>= g) (readState >>= g') := by
  rintro w _ ⟨hw, ha, es, vs, rfl⟩
  rw [perform_bind_ok _ (perform_readState w), perform_bind_ok _ (perform_readState _)]
  exact hg w.state ha w _ ⟨hw, ha, es, vs, rfl⟩

theorem forM {g g' : α → RunM δ σ Unit} {xs : List α} (hg : ∀ x ∈ xs, Follows f (g x) (g' x)) :
    Follows f (xs.forM g) (xs.forM g') := Simulates.forM hg

theorem optional {p : Prop} [Decidable p] {m m' : RunM δ σ Unit} {g g' : Unit → RunM δ σ β}
    (hm : Follows f m m') (hg : ∀ u, Follows f (g u) (g' u)) :
    Follows f (if p then m >>= g else g ()) (if p then m' >>= g' else g' ()) :=
  Simulates.optional hm hg

theorem tryCatch {m m' : RunM δ σ α} {g g' : Failure → RunM δ σ α} (hm : Follows f m m')
    (hg : ∀ e, Follows f (g e) (g' e)) : Follows f (tryCatch m g) (tryCatch m' g') :=
  Simulates.tryCatch hm hg

theorem act {op op' : ActionState → ActionState.Step α}
    (h : ∀ s, s.WellFormed → op' (f.state s) = ((op s).1, f.state (op s).2) ∧
      SamePlan s (op s).2 ∧ (op s).2.WellFormed) :
    Follows f (act op : RunM δ σ α) (act op') := by
  rintro w _ ⟨hw, ha, es, vs, rfl⟩
  obtain ⟨hop, hplan, hwf⟩ := h w.state hw
  have hact : perform (Run.act op' : RunM δ σ α) ((w.seen f).logged es vs) =
      ((op w.state).1, { (w.seen f).logged es vs with state := f.state (op w.state).2 }) := by
    rw [perform_act]
    change ((op' (f.state w.state)).1,
      ({ (w.seen f).logged es vs with state := (op' (f.state w.state)).2 } : World δ σ)) = _
    rw [hop]
  exact of_eq (perform_act op w) hact ⟨hwf, hplan.admits ha, es, vs, rfl⟩

theorem update {g g' : ActionState → ActionState}
    (h : ∀ s, g' (f.state s) = f.state (g s) ∧ SamePlan s (g s) ∧ (g s).chain = s.chain) :
    Follows f (update g : RunM δ σ Unit) (update g') := by
  refine act fun s hs => ?_
  obtain ⟨hg, hplan, hchain⟩ := h s
  exact ⟨by rw [hg]; rfl, hplan, hs.of_steps hplan.steps hchain⟩

theorem report (es es' : List Log.Event) : Follows f (report es : RunM δ σ Unit) (report es') := by
  rintro w _ ⟨hw, ha, events, vs, rfl⟩
  exact ⟨rfl, hw, ha, events ++ es', vs, rfl⟩

theorem info (name name' : String) (fields fields' : List (String × Value)) :
    Follows f (info name fields : RunM δ σ Unit) (info name' fields') := report _ _

theorem reportNatural (o : Dice.Outcome) :
    Follows f (reportNatural o : RunM δ σ Unit) (reportNatural o) := by
  unfold Run.reportNatural
  split
  · exact report _ _
  · exact pure ()

theorem storePool (key : String) (p : Pool.DicePool) :
    Follows f (storePool key p : RunM δ σ Unit) (storePool key p) :=
  update fun _ => ⟨rfl, ⟨rfl, rfl, rfl⟩, rfl⟩

theorem record (target : Target) (g : TargetOutcome → TargetOutcome) :
    Follows f (record target g : RunM δ σ Unit) (record target g) := by
  refine act fun s hs => ?_
  have ho : (f.state s).outcome? target.id = s.outcome? target.id := rfl
  unfold ActionState.outcomeFor
  rw [ho]
  cases s.outcome? target.id with
  | some o => exact ⟨rfl, ⟨rfl, rfl, rfl⟩, hs.of_steps rfl rfl⟩
  | none =>
    have hstored : ((f.state s).setOutcome target.id (.ofTarget target)).stored =
        ((s.setOutcome target.id (.ofTarget target)).stored.1,
          f.state (s.setOutcome target.id (.ofTarget target))) := rfl
    dsimp only
    rw [hstored, ActionState.stored]
    cases (s.setOutcome target.id (.ofTarget target)).check with
    | error e => exact ⟨rfl, ⟨rfl, rfl, rfl⟩, hs.of_steps rfl rfl⟩
    | ok u => exact ⟨rfl, ⟨rfl, rfl, rfl⟩, hs.of_steps rfl rfl⟩

theorem requireActor (step : String) :
    Follows f (requireActor step : RunM δ σ Actor) (requireActor step) := by
  refine readState_bind fun s _ => ?_
  dsimp only [View.state]
  cases s.actor with
  | some a => exact pure a
  | none => exact throw _

theorem roll {t t' : Table δ σ} (he : t'.evaluator = t.evaluator) (step formula : String)
    (id : Option String) : Follows f (t.roll step formula id) (t'.roll step formula id) := by
  rintro w _ ⟨hw, ha, es, vs, rfl⟩
  have ht := perform_roll t step formula id w
  have ht' := perform_roll t' step formula id ((w.seen f).logged es vs)
  have hdice : ((w.seen f).logged es vs).dice = w.dice := rfl
  rw [he, hdice] at ht'
  rcases hev : t.evaluator.evaluate formula w.dice with ⟨e | o, dice⟩ <;> rw [hev] at ht ht'
  · exact of_eq ht ht' ⟨hw, ha, es, vs, rfl⟩
  · exact of_eq ht ht' ⟨hw.of_steps rfl rfl, ha, es, vs, rfl⟩

end Follows

/-- Tables that differ in their features only, and build the same pools and find the same ranges
with the vetoes that are shown. -/
structure Table.Agrees (f : View) (t t' : Table δ σ) : Prop where
  engine : t'.engine = t.engine
  evaluator : t'.evaluator = t.evaluator
  source : t'.source = t.source
  settings : t'.settings = t.settings
  baseType : t'.builder.baseType = t.builder.baseType
  build : ∀ (r : Pool.Request) (s : ActionState), f.Admits s →
    t'.builder.build { r with vetoed := f.vetoed s.vetoed } =
      t.builder.build { r with vetoed := s.vetoed }
  actorless : ∀ r : Pool.Request, r.actor = none → t'.builder.build r = t.builder.build r
  ranges : ∀ (a : Actor) (step dialogType : String) (d : Option Dialog) (s : ActionState),
    f.Admits s → t'.registry.rangeModifications a step dialogType d (f.vetoed s.vetoed) =
      t.registry.rangeModifications a step dialogType d s.vetoed

namespace Table.Agrees

variable {t t' : Table δ σ}

theorem attack (h : t.Agrees f t') : Follows f (Attack.run t) (Attack.run t') := by
  have hresolve : ∀ d ms o target,
      Follows f (Attack.resolve t d ms o target) (Attack.resolve t' d ms o target) := by
    intro d ms o target
    unfold Attack.resolve
    rw [h.engine]
    exact .bind (.reportNatural o) fun _ => .bind (.record _ _) fun _ => .info _ _ _ _
  refine .bind (.requireActor _) fun a => .readState_bind fun s hs => ?_
  have hbuild : t'.builder.build (Attack.request (f.state s) a) =
      t.builder.build (Attack.request s a) := h.build (Attack.request s a) s hs
  have hranges := h.ranges a "attack-resolve" "attack" (some s.dialog) s hs
  have hseparate : Attack.rollsSeparately t' s.dialog = Attack.rollsSeparately t s.dialog := by
    rw [Attack.rollsSeparately, h.settings]
    rfl
  dsimp only [View.state] at hbuild ⊢
  rw [hbuild, hranges, hseparate]
  refine .bind (.lift _) fun pool => .bind (.storePool _ _) fun _ => .bind (.lift _) fun ms => ?_
  change Follows f (if s.liveTargets.isEmpty then _ else _) (if s.liveTargets.isEmpty then _ else _)
  split
  · exact .bind (.roll h.evaluator _ _ _) fun o => .info _ _ _ _
  · split
    · exact .forM fun target _ => .bind (.roll h.evaluator _ _ _) fun o => hresolve _ ms o target
    · exact .bind (.roll h.evaluator _ _ _) fun o => .forM fun target _ => hresolve _ ms o target

theorem rollPool (h : t.Agrees f t') (a : Actor) (key : String) (critical : Bool) :
    Follows f (Damage.rollPool t a key critical) (Damage.rollPool t' a key critical) := by
  refine .readState_bind fun s hs => ?_
  have hbuild : t'.builder.build (Damage.request (f.state s) a critical) =
      t.builder.build (Damage.request s a critical) :=
    h.build (Damage.request s a critical) s hs
  rw [hbuild]
  refine .bind (.lift _) fun pool => .bind (.storePool _ _) fun _ => ?_
  exact .bind (.roll h.evaluator _ _ _) fun o => .pure _

theorem damage (h : t.Agrees f t') : Follows f (Damage.run t) (Damage.run t') := by
  have hdeal : ∀ damage targets, Follows f (Damage.deal damage targets : RunM δ σ Unit)
      (Damage.deal damage targets) := fun damage targets => .forM fun target _ => .record _ _
  have hnormal : ∀ a targets,
      Follows f (Damage.rollNormal t a targets) (Damage.rollNormal t' a targets) := by
    intro a targets
    unfold Damage.rollNormal
    rw [h.baseType]
    exact .bind (h.rollPool _ _ _) fun p => hdeal _ _
  have hcritical : ∀ a targets,
      Follows f (Damage.rollCritical t a targets) (Damage.rollCritical t' a targets) := by
    intro a targets
    unfold Damage.rollCritical
    rw [h.baseType, h.settings]
    exact .bind (h.rollPool _ _ _) fun p => hdeal _ _
  refine .bind (.requireActor _) fun a => .readState_bind fun s hs => ?_
  change Follows f (if s.liveTargets.isEmpty then _ else _) (if s.liveTargets.isEmpty then _ else _)
  split
  · exact .bind (h.rollPool _ _ _) fun p => .info _ _ _ _
  · refine .bind (.forM fun target _ => .record _ _) fun _ => .readState_bind fun s' _ => ?_
    exact .optional (hnormal a _) fun _ => .optional (hcritical a _) fun _ => .info _ _ _ _

theorem save (h : t.Agrees f t') : Follows f (Save.run t) (Save.run t') := by
  have hresolve : ∀ d dc target,
      Follows f (Save.resolve t d dc target) (Save.resolve t' d dc target) := by
    intro d dc target
    unfold Save.resolve
    rw [h.actorless _ rfl, h.engine]
    refine .bind (.lift _) fun pool => .bind (.storePool _ _) fun _ => ?_
    refine .bind (.roll h.evaluator _ _ _) fun o => .bind (.reportNatural o) fun _ => ?_
    exact .bind (.record _ _) fun _ => .info _ _ _ _
  refine .readState_bind fun s _ => ?_
  dsimp only [View.state]
  cases s.dialog.saveDc with
  | none => exact .throw _
  | some dc => exact .forM fun target _ => hresolve _ dc target

theorem hurt (h : t.Agrees f t') (id : String) (n : Int) :
    Follows f (ApplyDamage.hurt t id n) (ApplyDamage.hurt t' id n) := by
  rintro w _ ⟨hw, ha, es, vs, rfl⟩
  have ht := ApplyDamage.perform_hurt t' id n ((w.seen f).logged es vs)
  rw [h.source] at ht
  exact Follows.of_eq (ApplyDamage.perform_hurt t id n w) ht ⟨hw, ha, _, vs, rfl⟩

theorem applyDamage (h : t.Agrees f t') : Follows f (ApplyDamage.run t) (ApplyDamage.run t') := by
  refine .readState_bind fun s _ => .forM fun target _ => .readState_bind fun s' _ => ?_
  have houtcome : (f.state s').outcome? target.id = s'.outcome? target.id := rfl
  dsimp only
  rw [houtcome]
  cases s'.outcome? target.id with
  | none => exact .pure ()
  | some o =>
    dsimp only
    split
    · exact .pure ()
    · refine .bind (.record _ _) fun _ => ?_
      exact .optional (h.hurt _ _) fun _ => .info _ _ _ _

theorem skillCheck (h : t.Agrees f t') : Follows f (SkillCheck.run t) (SkillCheck.run t') := by
  refine .bind (.requireActor _) fun a => .readState_bind fun s hs => ?_
  have hbuild : t'.builder.build (SkillCheck.request (f.state s) a) =
      t.builder.build (SkillCheck.request s a) := h.build (SkillCheck.request s a) s hs
  rw [hbuild, h.engine]
  dsimp only [View.state]
  cases s.dialog.checkDc with
  | none => exact .throw _
  | some dc =>
    refine .bind (.lift _) fun pool => .bind (.storePool _ _) fun _ => ?_
    refine .bind (.roll h.evaluator _ _ _) fun o => .bind (.reportNatural o) fun _ => ?_
    exact .bind (.update fun _ => ⟨rfl, ⟨rfl, rfl, rfl⟩, rfl⟩) fun _ => .info _ _ _ _

end Table.Agrees

theorem View.Faithful.complete (hf : f.Faithful) :
    Follows f (Complete.run : RunM δ σ Unit) Complete.run := by
  refine .bind (.update fun _ => ⟨rfl, ⟨rfl, rfl, rfl⟩, rfl⟩) fun _ => ?_
  refine .bind (.update fun s => ⟨?_, ⟨rfl, rfl, rfl⟩, rfl⟩) fun _ =>
    .readState_bind fun _ _ => .info _ _ _ _
  change _ = { f.state s with summary := f.summary (some (Complete.summary s)) }
  rw [hf.summary]

/-- What comes after a step: the books, the observers, and the steps that are left. -/
def onward (handlers : Handlers δ σ) (observers : List Observer) (step : String)
    (rest : List String) : RunM δ σ Unit := do
  finishStep step
  observers.forM (observe step)
  if step == completeStep then
    let s ← readState
    info "Workflow finished"
      [("completed_steps", .texts s.completed), ("errors", .int s.errors.length)]
  else
    let _ ← act (·.nextStep)
    runFrom handlers observers rest

theorem perform_runFrom_passes {handlers : Handlers δ σ} {observers : List Observer}
    {step : String} {rest : List String} {w u : World δ σ} (hc : w.state.cancelled = false)
    (hp : StepPasses handlers step w u) :
    perform (runFrom handlers observers (step :: rest)) w =
      perform (onward handlers observers step rest) { u with
        events := u.events ++ (u.state.errors.drop w.state.errors.length).map
          (recordedEvent step) } := by
  rw [Run.runFrom, perform_bind_ok _ (perform_readState w), if_neg (by simp [hc])]
  exact perform_bind_ok _ (perform_runStep_passes hp)

/-- An observer that reacts alike to what a view shows. -/
def View.Hides (f : View) (o : Observer) : Prop := ∀ step s, o step (f.state s) = o step s

def View.ShowsStop (f : View) : Prop := ∀ c, f.cancelled c = c

section

variable {handlers handlers' : Handlers δ σ} {observers : List Observer} {step : String}

theorem View.Faithful.addError (hf : f.Faithful) {kind : String} (hk : kind ≠ View.vetoKind)
    (message : String) (step : Option String) :
    Follows f (addError kind message step : RunM δ σ Unit) (addError kind message step) := by
  refine .act fun s hs => ⟨?_, ⟨rfl, rfl, rfl⟩, hs.of_steps rfl rfl⟩
  have he : f.errors (s.errors ++ [⟨kind, message, step⟩]) =
      f.errors s.errors ++ [⟨kind, message, step⟩] := by
    have hshown : f.errors [⟨kind, message, step⟩] = [⟨kind, message, step⟩] :=
      hf.shows _ fun e he => (List.mem_singleton.mp he) ▸ hk
    rw [hf.append, hshown]
  change ActionState.stored { f.state s with errors := f.errors s.errors ++ _ } = _
  rw [← he]
  rfl

theorem View.Faithful.failed (hf : f.Faithful) (step message typeName : String) :
    Follows f (failed step message typeName : RunM δ σ Unit) (failed step message typeName) :=
  .bind (hf.addError (by decide) _ _) fun _ => .report _ _

theorem View.Faithful.runStep (hf : f.Faithful)
    (hs : Option.Rel (Follows f) (Entries.get? handlers step) (Entries.get? handlers' step)) :
    Follows f (runStep handlers step) (runStep handlers' step) := by
  unfold Run.runStep
  generalize Entries.get? handlers step = h at hs ⊢
  generalize Entries.get? handlers' step = h' at hs ⊢
  cases hs with
  | none => exact .readState_bind fun s _ => .bind (hf.failed _ _ _) fun _ => .throw _
  | some hh =>
    refine .readState_bind fun s _ => ?_
    refine .bind (.tryCatch ?_ fun e => .bind (hf.failed _ _ _) fun _ => .throw e) fun _ => ?_
    · refine .bind hh fun reply => ?_
      cases reply with
      | handedBack => exact .pure ()
      | nothing => exact .throw _
    · exact .readState_bind fun s _ => .report _ _

theorem Follows.finishStep (step : String) :
    Follows f (finishStep step : RunM δ σ Unit) (finishStep step) := by
  refine .bind (.update fun _ => ⟨rfl, ⟨rfl, rfl, rfl⟩, rfl⟩) fun _ => ?_
  rintro w _ ⟨hw, ha, es, vs, rfl⟩
  exact ⟨rfl, hw, ha, es, _, rfl⟩

theorem Follows.observe (hc : f.ShowsStop) {o : Observer} (ho : f.Hides o) (step : String) :
    Follows f (observe step o : RunM δ σ Unit) (observe step o) := by
  refine .readState_bind fun s _ => ?_
  rw [ho]
  refine .tryCatch (.bind ?_ fun _ => ?_) fun e => .report _ _
  · split
    · refine .act fun s hs => ⟨?_, ⟨rfl, rfl, rfl⟩, hs.of_steps rfl rfl⟩
      change ActionState.stored { f.state s with cancelled := true } =
        (_, { f.state s with cancelled := f.cancelled true })
      rw [hc]
      rfl
    · exact .pure ()
  · split
    · exact .throw _
    · exact .pure ()

theorem Follows.nextStep :
    Follows f (Run.act (·.nextStep) : RunM δ σ String) (Run.act (·.nextStep)) := by
  refine .act fun s hs => ?_
  unfold ActionState.nextStep
  change (if s.hasMoreSteps = true then _ else _) = _ ∧ _
  split
  · rename_i hm
    have hposition : s.chain + 1 < s.steps.length := by simpa [hasMoreSteps] using hm
    exact ⟨rfl, ⟨rfl, rfl, rfl⟩, hs.length, hs.last, hposition⟩
  · exact ⟨rfl, ⟨rfl, rfl, rfl⟩, hs⟩

theorem Follows.onward (hc : f.ShowsStop)
    (ho : ∀ o ∈ observers, f.Hides o) {l : List String}
    (hl : Follows f (runFrom handlers observers l) (runFrom handlers' observers l)) :
    Follows f (onward handlers observers step l) (onward handlers' observers step l) := by
  refine .bind (.finishStep step) fun _ => ?_
  refine .bind (.forM fun o hm => .observe hc (ho o hm) step) fun _ => ?_
  split
  · exact .readState_bind fun _ _ => .info _ _ _ _
  · exact .bind .nextStep fun _ => hl

/-- Steps that follow one another make runs that follow one another. -/
theorem View.Faithful.runFrom (hf : f.Faithful) (hc : f.ShowsStop)
    (ho : ∀ o ∈ observers, f.Hides o) {l : List String} (hs : ∀ step ∈ l,
      Option.Rel (Follows f) (Entries.get? handlers step) (Entries.get? handlers' step)) :
    Follows f (runFrom handlers observers l) (runFrom handlers' observers l) := by
  induction l with
  | nil => exact .throw _
  | cons step rest ih =>
    have hrest := ih fun step hm => hs step (List.mem_cons_of_mem _ hm)
    refine .readState_bind fun s _ => ?_
    change Follows f _ (if f.cancelled s.cancelled = true then _ else _)
    rw [hc]
    split
    · exact .info _ _ _ _
    · exact .bind (hf.runStep (hs step List.mem_cons_self)) fun _ => .onward hc ho hrest

end

theorem Follows.rel_get? {step : String} {handlers handlers' : Handlers δ σ}
    (h : List.Forall₂ (fun e e' => e'.1 = e.1 ∧ (e.1 = step → Follows f e.2 e'.2)) handlers
      handlers') :
    Option.Rel (Follows f) (Entries.get? handlers step) (Entries.get? handlers' step) :=
  Simulates.rel_get? h

theorem Follows.handingBack {m m' : RunM δ σ Unit} (h : Follows f m m') :
    Follows f (handingBack m) (handingBack m') := Simulates.handingBack h

/-- With tables that agree all shipped steps follow one another, if the first step does. -/
theorem Table.Agrees.shipped {t t' : Table δ σ} (h : t.Agrees f t') (hf : f.Faithful)
    {step : String} (hstart : step = Start.stepId → Follows f (Start.run t) (Start.run t')) :
    Option.Rel (Follows f) (Entries.get? (shippedHandlers t) step)
      (Entries.get? (shippedHandlers t') step) :=
  Follows.rel_get? <|
    .cons ⟨rfl, fun hs => (hstart hs.symm).handingBack⟩ <|
    .cons ⟨rfl, fun _ => h.attack.handingBack⟩ <|
    .cons ⟨rfl, fun _ => h.damage.handingBack⟩ <|
    .cons ⟨rfl, fun _ => h.save.handingBack⟩ <|
    .cons ⟨rfl, fun _ => h.applyDamage.handingBack⟩ <|
    .cons ⟨rfl, fun _ => h.skillCheck.handingBack⟩ <|
    .cons ⟨rfl, fun _ => hf.complete.handingBack⟩ .nil

end Encounter.Run
