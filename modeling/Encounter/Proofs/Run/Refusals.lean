import Encounter.Proofs.Feature.Verdicts
import Encounter.Proofs.Pool.Contributors
import Encounter.Proofs.Run.Independence

namespace Encounter

/-- A feature allows an action if its data can be read and its validation answers true. -/
def Feature.Allows (f : Feature) (a : Actor) (dialogType : String) (d : Option Dialog)
    (step : Option String) : Prop :=
  ∃ c, f.context a dialogType d step = .ok c ∧ f.validate c = .ok (.bool true)

theorem Feature.allows_of_consult {f : Feature} {a : Actor} {dialogType : String}
    {d : Option Dialog} {step : Option String} {events : List Log.Event}
    (h : f.consult a dialogType d step = .ok (none, events)) : f.Allows a dialogType d step := by
  obtain ⟨c, hc, h⟩ := Result.bind_eq_ok h
  have hreason : f.vetoReason (f.validate c) = none := congrArg Prod.fst (Except.ok.inj h)
  exact ⟨c, hc, (f.vetoReason_eq_none_iff _).mp hreason⟩

namespace Run

open ActionState

variable {δ σ : Type} {t : Table δ σ}

namespace Start

theorem mem_ids_of_not_allows {a : Actor} {d : Dialog} {fs : List (String × Feature)}
    {seen : List String} (h : (poll a d seen fs).failure = none) {x : String × Feature}
    (hx : x ∈ fs) (hn : ¬ x.2.Allows a x.1 (some d) (some stepId)) :
    x.2.id ∈ seen ∨ x.2.id ∈ (poll a d seen fs).ids := by
  induction fs generalizing seen with
  | nil => cases hx
  | cons y rest ih =>
    obtain ⟨ty, f⟩ := y
    rw [poll] at h ⊢
    split at h
    · rename_i hseen
      rw [if_pos hseen]
      obtain rfl | hx := List.mem_cons.mp hx
      · exact .inl (by simpa using hseen)
      · exact ih h hx
    · rename_i hseen
      rw [if_neg hseen]
      cases hc : f.consult a ty (some d) (some stepId) with
      | error e =>
        rw [hc] at h
        cases h
      | ok answer =>
        obtain ⟨_ | reason, events⟩ := answer <;> rw [hc] at h
        · obtain rfl | hx := List.mem_cons.mp hx
          · exact (hn (Feature.allows_of_consult hc)).elim
          · exact ih h hx
        · obtain rfl | hx := List.mem_cons.mp hx
          · exact .inr List.mem_cons_self
          · obtain hm | hm := @ih (seen ++ [f.id]) h hx
            · obtain hm | hm := List.mem_append.mp hm
              · exact .inl hm
              · exact .inr (List.mem_singleton.mp hm ▸ List.mem_cons_self)
            · exact .inr (List.mem_cons_of_mem _ hm)

/-- An available feature that does not allow a kind of action that the workflow takes is refused,
if it declares this kind. -/
theorem mem_polled_of_not_allows {s : ActionState} {a : Actor}
    (h : (polled t s a).result = .ok ()) {f : Feature} (hf : f ∈ t.registry.features)
    (ha : t.registry.isAvailable a f.id = true) {dialogType : String}
    (hty : dialogType ∈ dialogTypes s) (haffects : f.affectsDialog dialogType = true)
    (hn : ¬ f.Allows a dialogType (some s.dialog) (some stepId)) :
    f.id ∈ (polled t s a).ids := by
  have hx : (dialogType, f) ∈ candidates t.registry a (dialogTypes s) := by
    refine List.mem_flatMap.mpr ⟨dialogType, hty, List.mem_map.mpr ⟨f, ?_, rfl⟩⟩
    exact List.mem_filter.mpr ⟨hf, by rw [haffects, ha]; rfl⟩
  obtain hm | hm := mem_ids_of_not_allows (Poll.failure_of_result h) hx hn
  · cases hm
  · exact hm

theorem mem_dialogTypes {s : ActionState} {step : String} (hs : step ∈ s.steps)
    (hty : step ∈ ["attack", "damage", "save"]) : step ∈ dialogTypes s :=
  List.mem_append_left _ (List.mem_filter.mpr ⟨hs, by simpa using hty⟩)

theorem mem_dialogTypes_check {s : ActionState} (hs : "check" ∈ s.steps) :
    s.dialog.checkChoice.name ∈ dialogTypes s := by
  refine List.mem_append_right _ ?_
  rw [if_pos (by simpa using hs)]
  exact List.mem_singleton_self _

end Start

/-- What the pools of a run are asked for, each under its key, once the actor is known. -/
def plans (t : Table δ σ) (s : ActionState) (a : Actor) : List (String × Pool.Request) :=
  (Attack.stepId, Attack.request s a) ::
    (Damage.poolKeys t).map (fun k => (k.1, Damage.request s a k.2)) ++
    [(SkillCheck.stepId, SkillCheck.request s a)]

def planKeys : List String := ["attack", "damage", "damage-critical", "check"]

theorem SamePlan.plans {s s' : ActionState} (h : SamePlan s s') (t : Table δ σ) (a : Actor) :
    plans t s' a = plans t s a := by
  simp only [Run.plans, Attack.request, Damage.request, SkillCheck.request, h.dialog, h.vetoed]

theorem poolKey_notMem_planKeys (target : Target) : Save.poolKey target ∉ planKeys := by
  intro hm
  have hm := List.mem_map_of_mem (f := String.toList) hm
  rw [Save.toList_poolKey] at hm
  simp [planKeys] at hm

def Built (t : Table δ σ) (s : ActionState) (key : String) (p : Pool.DicePool) : Prop :=
  ∃ a r, s.actor = some a ∧ (key, r) ∈ plans t s a ∧ t.builder.build r = .ok p ∧
    r.action.name ∈ Start.dialogTypes s

/-- A run after its first step, which has left a state: who acts, what was chosen and who is vetoed
stays as it is, and the pools are the ones that were asked for. -/
structure Prepared (t : Table δ σ) (s : ActionState) (w : World δ σ) : Prop where
  wellFormed : w.state.WellFormed
  plan : SamePlan s w.state
  actor : w.state.actor = s.actor
  built : ∀ key ∈ planKeys, ∀ p, Entries.get? w.state.pools key = some p → Built t s key p

variable {s : ActionState} {w : World δ σ}

theorem quiet_prepared (t : Table δ σ) (s : ActionState) :
    Quiet (Prepared t s : World δ σ → Prop) where
  wellFormed _ h := h.wellFormed
  events _ _ h := ⟨h.wellFormed, h.plan, h.actor, h.built⟩

namespace Prepared

theorem of_eq {w' : World δ σ} (h : Prepared t s w) (hw : w'.state.WellFormed)
    (hp : SamePlan w.state w'.state) (ha : w'.state.actor = w.state.actor)
    (hb : w'.state.pools = w.state.pools) : Prepared t s w' where
  wellFormed := hw
  plan := ⟨hp.steps.trans h.plan.steps, hp.dialog.trans h.plan.dialog,
    hp.vetoed.trans h.plan.vetoed⟩
  actor := ha.trans h.actor
  built := hb ▸ h.built

theorem storePool {key : String} {p : Pool.DicePool} (hb : key ∈ planKeys → Built t s key p) :
    Preserves (Prepared t s) (storePool key p : RunM δ σ Unit) := by
  refine Preserves.update fun w h => ⟨h.wellFormed.of_steps rfl rfl,
    ⟨h.plan.steps, h.plan.dialog, h.plan.vetoed⟩, h.actor, fun key' hk p' hp' => ?_⟩
  rw [Entries.get?_put] at hp'
  split at hp'
  · cases hp'
    subst key'
    exact hb hk
  · exact h.built key' hk p' hp'

theorem roll (step formula : String) (id : Option String) :
    Preserves (Prepared t s) (t.roll step formula id) :=
  Preserves.roll (fun _ _ _ h => h.of_eq (h.wellFormed.of_steps rfl rfl) ⟨rfl, rfl, rfl⟩ rfl rfl)
    t step formula id

theorem recorded (h : Prepared t s w) (target : Target) (f : TargetOutcome → TargetOutcome) :
    Prepared t s { w with state := w.state.recorded target f } :=
  h.of_eq (h.wellFormed.recorded target f) ⟨rfl, rfl, rfl⟩ rfl rfl

theorem mem_plans (h : Prepared t s w) {a : Actor} {k : String × Pool.Request}
    (hk : k ∈ plans t w.state a) : k ∈ plans t s a := h.plan.plans t a ▸ hk

theorem attack (h : Prepared t s w) (hs : Attack.stepId ∈ w.state.steps) :
    Prepared t s (perform (Attack.run t) w).2 := by
  refine Attack.run_preserves_built (quiet_prepared t s) t h (fun a pool ha hpool => ?_)
    (roll Attack.stepId) fun v target _ _ hv _ => hv.recorded target _
  refine storePool fun _ => ⟨a, Attack.request w.state a, h.actor ▸ ha, ?_, hpool, ?_⟩
  · exact h.mem_plans List.mem_cons_self
  · exact Start.mem_dialogTypes (h.plan.steps ▸ hs) (by decide : "attack" ∈ _)

theorem damage (h : Prepared t s w) (hs : Damage.stepId ∈ w.state.steps) :
    Prepared t s (perform (Damage.run t) w).2 := by
  refine Damage.run_preserves_built (quiet_prepared t s) t h (fun v a k pool hv ha hk hpool => ?_)
    (fun formula => roll Damage.stepId formula none) (fun v target hv _ => hv.recorded target id)
    fun v target _ hv _ _ _ => hv.recorded target _
  refine storePool fun _ => ⟨a, Damage.request v.state a k.2, h.actor ▸ ha, ?_, hpool, ?_⟩
  · exact hv.mem_plans (List.mem_cons_of_mem _ (List.mem_append_left _ (List.mem_map_of_mem hk)))
  · exact Start.mem_dialogTypes (h.plan.steps ▸ hs) (by decide : "damage" ∈ _)

theorem save (h : Prepared t s w) : Prepared t s (perform (Save.run t) w).2 :=
  Save.run_preserves_built (quiet_prepared t s) t h
    (fun target _ _ => storePool fun hk => (poolKey_notMem_planKeys target hk).elim)
    (roll Save.stepId) fun _ target _ _ hv _ => hv.recorded target _

theorem skillCheck (h : Prepared t s w) (hs : SkillCheck.stepId ∈ w.state.steps) :
    Prepared t s (perform (SkillCheck.run t) w).2 := by
  refine SkillCheck.run_preserves_built (quiet_prepared t s) t h (fun a pool ha hpool => ?_)
    (fun formula => roll SkillCheck.stepId formula none)
    fun v _ hv => hv.of_eq (hv.wellFormed.of_steps rfl rfl) ⟨rfl, rfl, rfl⟩ rfl rfl
  refine storePool fun _ => ⟨a, SkillCheck.request w.state a, h.actor ▸ ha, ?_, hpool, ?_⟩
  · exact h.mem_plans (List.mem_append_right _ (List.mem_singleton_self _))
  · have hm := Start.mem_dialogTypes_check (s := w.state) hs
    rw [Start.dialogTypes, h.plan.steps, h.plan.dialog] at hm
    rw [SkillCheck.request, h.plan.dialog]
    exact hm

theorem applyDamage (h : Prepared t s w) : Prepared t s (perform (ApplyDamage.run t) w).2 :=
  ApplyDamage.run_preserves (quiet_prepared t s) t h
    (fun _ target _ hv _ _ _ => hv.recorded target _)
    fun _ _ _ _ hv _ _ _ _ => ⟨hv.wellFormed, hv.plan, hv.actor, hv.built⟩

theorem complete (h : Prepared t s w) : Prepared t s (perform Complete.run w).2 :=
  Complete.run_preserves (quiet_prepared t s)
    (fun _ _ _ hv => hv.of_eq (hv.wellFormed.of_steps rfl rfl) ⟨rfl, rfl, rfl⟩ rfl rfl) w h

end Prepared

theorem Prepared.shipped : ∀ e ∈ shippedHandlers t, ∀ (w : World δ σ) (rest : List String),
    w.state.WellFormed → w.state.remaining = e.1 :: rest →
    Prepared t s w ∧ Start.stepId ∉ w.state.remaining →
    Prepared t s (perform e.2 w).2 ∧ Start.stepId ∉ (perform e.2 w).2.state.remaining := by
  rintro e he w rest hw hl ⟨h, hstart⟩
  have hcourse := shippedHandlers_keepCourse t e he w hw
  refine ⟨?_, hcourse.remaining ▸ hstart⟩
  have hs : e.1 ∈ w.state.steps := List.mem_of_mem_drop (hl ▸ List.mem_cons_self)
  simp only [shippedHandlers, List.map_cons, List.map_nil, List.mem_cons, List.not_mem_nil,
    or_false] at he
  rcases he with rfl | rfl | rfl | rfl | rfl | rfl | rfl <;> rw [perform_handingBack]
  · exact (hstart (hl ▸ List.mem_cons_self)).elim
  · exact h.attack hs
  · exact h.damage hs
  · exact h.save
  · exact h.applyDamage
  · exact h.skillCheck hs
  · exact h.complete

theorem kept_prepared (t : Table δ σ) (s : ActionState) :
    Kept (fun w : World δ σ => Prepared t s w ∧ Start.stepId ∉ w.state.remaining)
      fun w => Prepared t s w ∧ Start.stepId ∉ w.state.remaining where
  weaken _ h := h
  books _ _ _ _ _ _ h :=
    ⟨h.1.of_eq (h.1.wellFormed.of_steps rfl rfl) ⟨rfl, rfl, rfl⟩ rfl rfl, h.2⟩
  advanced w hw h := by
    refine ⟨h.1.of_eq hw ⟨rfl, rfl, rfl⟩ rfl rfl, fun hm => h.2 ?_⟩
    exact List.mem_of_mem_tail (remaining_advanced w.state ▸ hm)

theorem pools_of_start (hw : w.state.WellFormed) :
    (perform (Start.run t) w).2.state.pools = w.state.pools := by
  have hI : Quiet fun v : World δ σ => v.state.WellFormed ∧ v.state.pools = w.state.pools :=
    ⟨fun _ h => h.1, fun _ _ h => h⟩
  exact (Start.run_preserves hI t ⟨hw, rfl⟩ (fun _ _ _ _ h => ⟨h.1.of_steps rfl rfl, h.2⟩)
    fun _ h => ⟨h.1.of_steps rfl rfl, h.2⟩).2

theorem shipped_start : ∀ wf ∈ Workflow.shipped,
    wf.steps.head? = some Start.stepId ∧ Start.stepId ∉ wf.steps.tail := by decide

/-- A run that has built a pool has passed its first step, and is prepared ever since. -/
theorem Course.prepared {observers : List Observer} {rest : List String} {v : World δ σ}
    {r : Result Unit} (h : Course (shippedHandlers t) observers (Start.stepId :: rest) w r v)
    (hw : w.state.WellFormed) (hl : w.state.remaining = Start.stepId :: rest)
    (hrest : Start.stepId ∉ rest) (hnone : w.state.pools = []) :
    v.state.pools = [] ∨ ∃ a s, (Start.polled t w.state a).result = .ok () ∧
      SamePlan { w.state with vetoed := (Start.polled t w.state a).ids } s ∧
      s.actor = some a ∧ Prepared t s v := by
  have hk := shippedHandlers_keepCourse t
  cases h with
  | cancelled hc => exact .inl hnone
  | failed hc hf =>
    refine .inl ?_
    cases hf with
    | missing hh => cases hh
    | raised hh hp | nothing hh hp =>
      cases hh
      have hpools := pools_of_start (t := t) hw
      rw [← perform_handingBack, hp] at hpools
      exact hpools.trans hnone
  | finished hc hp hs => exact absurd hs (by decide)
  | @next _ _ _ u _ _ hc hp hs hr =>
    have hrun : perform (Start.run t) w = (.ok (), u) := perform_of_passes rfl hp
    obtain ⟨a, es, -, hresult, hu⟩ := Start.exists_of_run_ok hw (by rw [hrun])
    rw [hrun] at hu
    have hu : u.state = Start.begun (Start.gathered t w.state w.source a)
      (Start.polled t w.state a) := congrArg World.state hu
    obtain ⟨hw', hl'⟩ := wellFormed_next hk hw hl hp hs observers w.state.errors.length
    obtain ⟨c, es', hframe⟩ := settled_frame u observers Start.stepId w.state.errors.length
    have hprepared : Prepared t u.state
        (u.settled observers Start.stepId w.state.errors.length).advanced := by
      refine ⟨hw', ?_, ?_, fun key _ p hp => ?_⟩
      · rw [hframe]
        exact ⟨rfl, rfl, rfl⟩
      · rw [hframe]
        rfl
      · rw [hframe] at hp
        change Entries.get? u.state.pools key = some p at hp
        rw [hu] at hp
        change Entries.get? w.state.pools key = some p at hp
        rw [hnone] at hp
        cases hp
    have hv := hr.keeps hk (kept_prepared t u.state) Prepared.shipped hw' hl'
      ⟨hprepared, hl' ▸ hrest⟩
    refine .inr ⟨a, u.state, hresult, ?_, ?_, hv.1⟩
    · rw [hu]
      exact ⟨rfl, rfl, Start.begun_vetoed _ hresult⟩
    · rw [hu]
      rfl

/-- A pool without the help of a feature: it is built as if the feature were not registered, and if
a term carries the name of the feature, then a modifier that was asked for carries it, or another
active feature goes by this name. -/
structure Unaided (t : Table δ σ) (f : Feature) (a : Actor) (r : Pool.Request)
    (p : Pool.DicePool) : Prop where
  unregistered : (t.without [f.id]).builder.build r = .ok p
  credits : ∀ term ∈ p.terms, term.feature = some f.name →
    (∃ m ∈ r.modifiers, m.feature = some f.name) ∨
      ∃ g ∈ t.registry.activeAt a (Pool.featureStep r.action) r.vetoed,
        g.id ≠ f.id ∧ g.name = f.name

theorem unaided_of_vetoed (ht : t.builder.registry = some t.registry) {f : Feature} {a : Actor}
    {r : Pool.Request} {p : Pool.DicePool} (ha : r.actor = some a) (hf : f.id ∈ r.vetoed)
    (h : t.builder.build r = .ok p) : Unaided t f a r p where
  unregistered := by
    have hb : t.builder = ⟨some t.registry, t.builder.baseType⟩ := by rw [← ht]
    rw [← h, hb]
    exact Pool.Builder.build_unregistered _ (List.forall_mem_singleton.mpr hf)
  credits term hterm hname := by
    have hcredits := Pool.Builder.build_credits h term hterm
    rw [hname] at hcredits
    generalize hfeature : some f.name = feature at hcredits
    cases hcredits with
    | die => cases hfeature
    | @declared m hm => exact .inl ⟨m, hm, rfl⟩
    | @active registry a' g hb ha' hg =>
      cases ht.symm.trans hb
      cases ha.symm.trans ha'
      refine .inr ⟨g, hg, fun hid => ?_, (Option.some.inj hfeature).symm⟩
      have hexcluded := (List.mem_filter.mp hg).2
      simp [hid, hf] at hexcluded

theorem actor_of_mem_plans {a : Actor} {k : String × Pool.Request}
    (hk : k ∈ plans t s a) : k.2.actor = some a ∧ k.2.vetoed = s.vetoed := by
  simp only [plans, Damage.poolKeys, List.map_cons, List.map_nil, List.cons_append,
    List.nil_append, List.mem_cons, List.not_mem_nil, or_false] at hk
  obtain rfl | rfl | rfl | rfl := hk <;> exact ⟨rfl, rfl⟩

/-- In a run of a shipped workflow, every pool that is built for the actor is built without the help
of the available features that declare its kind of action and do not allow it. These features are
vetoed. -/
theorem execute_unaided (registry : Registry) (evaluator : Evaluator δ) (source : ActorSource σ)
    (settings : Settings) (observers : List Observer) {wf : Workflow}
    (hwf : wf ∈ Workflow.shipped) {w : World δ σ} {d : Dialog}
    (hw : ActionState.create wf d = .ok w.state) :
    let t := Table.make registry evaluator source settings
    let v := (perform (execute (shippedHandlers t) observers) w).2
    ∀ key ∈ planKeys, ∀ p, Entries.get? v.state.pools key = some p →
      ∃ a r, v.state.actor = some a ∧ (key, r) ∈ plans t v.state a ∧ t.builder.build r = .ok p ∧
        ∀ f ∈ registry.features, registry.isAvailable a f.id = true →
          f.affectsDialog p.action.name = true →
          ¬ f.Allows a p.action.name (some d) (some Start.stepId) →
            f.id ∈ v.state.vetoed ∧ Unaided t f a r p := by
  intro t v key hkey p hp
  obtain ⟨hwell, name, hstate⟩ := create_eq_ok hw
  obtain ⟨hhead, htail⟩ := shipped_start wf hwf
  obtain ⟨rest, hsteps⟩ := List.head?_eq_some_iff.mp hhead
  have hl : w.state.remaining = Start.stepId :: rest := by
    rw [← hsteps, hstate]
    rfl
  have hk := shippedHandlers_keepCourse t
  obtain ⟨x, u, hc⟩ := exists_course hk observers w.state.remaining w.started hwell rfl
  have hu : v = u := by
    change (perform (execute _ observers) w).2 = u
    rw [perform_execute, hc.perform_eq hk hwell rfl]
  rw [hl] at hc
  rw [hsteps] at htail
  obtain hnone | ⟨a, s, hresult, hplan, hactor, hprepared⟩ :=
    hc.prepared hwell hl htail (by rw [show w.started.state = w.state from rfl, hstate])
  · rw [hu, hnone] at hp
    cases hp
  · subst hu
    obtain ⟨a', r, ha, hr, hbuild, hty⟩ := hprepared.built key hkey p hp
    cases hactor.symm.trans ha
    have hr' : (key, r) ∈ plans t v.state a := (hprepared.plan.plans t a).symm ▸ hr
    refine ⟨a, r, hprepared.actor.trans hactor, hr', hbuild, fun f hf havailable haffects hn => ?_⟩
    have hdialog : w.started.state.dialog = d := by
      rw [show w.started.state = w.state from rfl, hstate]
    have haction := Pool.Builder.build_action hbuild
    rw [Start.dialogTypes, hplan.steps, hplan.dialog, ← haction] at hty
    have hid := Start.mem_polled_of_not_allows (t := t) hresult hf havailable hty haffects
      (hdialog.symm ▸ hn)
    have hvetoed : f.id ∈ v.state.vetoed := by
      rw [hprepared.plan.vetoed, hplan.vetoed]
      exact hid
    obtain ⟨hra, hrv⟩ := actor_of_mem_plans hr'
    exact ⟨hvetoed, unaided_of_vetoed rfl hra (hrv ▸ hvetoed) hbuild⟩

/-- A hero who has the feature and switches it on. -/
def resolute : World Unit Roster :=
  { braced with
    state := { braced.state with
      dialog := { braced.state.dialog with
        featureState := [("power-attack", [("enabled", .bool true)])] } } }

theorem execute_unaided_resolute :
    ∃ v p a r, (perform (execute (shippedHandlers (.make ⟨[spentFeature]⟩ (evenDice 12)
        Roster.source {})) []) resolute).2 = v ∧
      Entries.get? v.state.pools "attack" = some p ∧ p.action = .attack ∧
      v.state.actor = some a ∧
      Registry.isAvailable ⟨[spentFeature]⟩ a spentFeature.id = true ∧
      ¬ spentFeature.Allows a "attack" (some resolute.state.dialog) (some Start.stepId) ∧
      spentFeature.id ∈ v.state.vetoed ∧
      Unaided (.make ⟨[spentFeature]⟩ (evenDice 12) Roster.source {}) spentFeature a r p := by
  have hcreate : ActionState.create ⟨"attack", ["start", "attack", "complete"]⟩
      resolute.state.dialog = .ok resolute.state := by rfl
  have hpool : (Entries.get? (perform (execute (shippedHandlers (.make ⟨[spentFeature]⟩
      (evenDice 12) Roster.source {})) []) resolute).2.state.pools "attack").map (·.action) =
        some .attack := by decide +kernel
  have havailable : (perform (execute (shippedHandlers (.make ⟨[spentFeature]⟩
      (evenDice 12) Roster.source {})) []) resolute).2.state.actor.map
        (Registry.isAvailable ⟨[spentFeature]⟩ · spentFeature.id) = some true := by
    decide +kernel
  have h := execute_unaided (w := resolute) ⟨[spentFeature]⟩ (evenDice 12) Roster.source {} []
    (by decide) hcreate "attack" (by decide)
  generalize (perform (execute (shippedHandlers (.make ⟨[spentFeature]⟩ (evenDice 12)
    Roster.source {})) []) resolute).2 = v at hpool havailable h ⊢
  obtain ⟨p, hp, haction⟩ := Option.map_eq_some_iff.mp hpool
  obtain ⟨a, ha, havailable⟩ := Option.map_eq_some_iff.mp havailable
  obtain ⟨a', r, ha', -, -, h⟩ := h p hp
  cases ha.symm.trans ha'
  have hn : ¬ spentFeature.Allows a "attack" (some resolute.state.dialog) (some Start.stepId) := by
    rintro ⟨c, -, hc⟩
    cases hc
  rw [haction] at h
  exact ⟨v, p, a, r, rfl, hp, haction, ha, havailable, hn,
    h spentFeature (List.mem_singleton_self _) havailable (by decide) hn⟩

/-- The refusing feature, but without a kind of action that it declares. -/
def unaskedFeature : Feature := { spentFeature with affects := [], affectsDialog := fun _ => false }

/-- A feature that declares no kind of action is not asked. It contributes to the attack that it
would refuse. -/
theorem unasked_contributes :
    let t := Table.make ⟨[unaskedFeature]⟩ (evenDice 12) Roster.source {}
    let v := (perform (execute (shippedHandlers t) []) resolute).2
    ActionState.create ⟨"attack", ["start", "attack", "complete"]⟩ resolute.state.dialog =
        .ok resolute.state ∧
      v.state.actor.map (t.registry.isAvailable · unaskedFeature.id) = some true ∧
      (∀ a step, ¬ unaskedFeature.Allows a "attack" (some resolute.state.dialog) step) ∧
      (Entries.get? v.state.pools "attack").map (fun p =>
          (p.action, p.formula, p.terms.map (·.feature))) =
        some (.attack, "1d20+1d6", [none, some unaskedFeature.name]) ∧
      resolute.state.dialog.attackModifiers = [] := by
  refine ⟨rfl, by decide +kernel, ?_, by decide +kernel, rfl⟩
  rintro a step ⟨c, -, hc⟩
  cases hc

end Run
end Encounter
