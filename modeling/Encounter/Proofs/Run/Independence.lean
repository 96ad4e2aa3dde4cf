import Encounter.Proofs.Feature.Without
import Encounter.Proofs.Run.Session
import Encounter.Proofs.Run.Vetoes

namespace Encounter.Run

open ActionState

variable {δ σ : Type}

namespace View

def keeping (p : Value → Bool) : Value → Value
  | .list vs => .list (vs.filter p)
  | v => v

def isVeto : Value → Bool
  | .object fs =>
    match Entries.get? fs "type" with
    | some (.text kind) => kind == vetoKind
    | _ => false
  | _ => false

def isNamed (ids : List String) : Value → Bool
  | .text s => ids.contains s
  | _ => false

def withoutVetoes (ids : List String) : Value → Value
  | .object fs => .object (fs.map fun e =>
    if e.1 = "vetoed_features" then (e.1, keeping (fun v => !isNamed ids v) e.2)
    else if e.1 = "errors" then (e.1, keeping (fun v => !isVeto v) e.2)
    else e)
  | v => v

/-- Everything is shown but the vetoes of some ids, in a run over some steps for a dialog that has
refused these ids and no others. -/
def unvetoed (steps : List String) (d : Dialog) (ids : List String) : View where
  errors es := es.filter fun e => e.kind != vetoKind
  vetoed vs := vs.filter fun id => !ids.contains id
  summary o := o.map (withoutVetoes ids)
  cancelled c := c
  admits steps' d' vs := steps' = steps ∧ d' = d ∧ vs = ids

variable (steps : List String) (d : Dialog) (ids : List String)

theorem withoutVetoes_summary (s : ActionState) :
    withoutVetoes ids (Complete.summary s) =
      Complete.summary ((unvetoed steps d ids).state s) := by
  have hids : keeping (fun v => !isNamed ids v) (.texts s.vetoed) =
      .texts (s.vetoed.filter fun id => !ids.contains id) := by
    rw [Value.texts, keeping, List.filter_map]
    rfl
  have herrors : keeping (fun v => !isVeto v) (.list (s.errors.map ErrorEntry.toValue)) =
      .list ((s.errors.filter fun e => e.kind != vetoKind).map ErrorEntry.toValue) := by
    rw [keeping, List.filter_map]
    rfl
  have hmap : ∀ fs, withoutVetoes ids (.object fs) = .object (fs.map fun e =>
      if e.1 = "vetoed_features" then (e.1, keeping (fun v => !isNamed ids v) e.2)
      else if e.1 = "errors" then (e.1, keeping (fun v => !isVeto v) e.2)
      else e) := fun _ => rfl
  rw [Complete.summary, hmap]
  simp only [List.map_cons, List.map_nil, hids, herrors, if_true, reduceIte, String.reduceEq]
  rfl

theorem unvetoed_faithful : (unvetoed steps d ids).Faithful where
  append _ _ := List.filter_append ..
  shows es h := List.filter_eq_self.mpr fun e he => by simpa using h e he
  summary s := congrArg some (withoutVetoes_summary steps d ids s)

theorem unvetoed_showsStop : (unvetoed steps d ids).ShowsStop := fun _ => rfl

end View

def Table.without (t : Table δ σ) (ids : List String) : Table δ σ :=
  { t with
    registry := t.registry.without ids
    builder := ⟨some (t.registry.without ids), t.builder.baseType⟩ }

theorem Table.make_without (registry : Registry) (evaluator : Evaluator δ) (source : ActorSource σ)
    (settings : Settings) (ids : List String) :
    (Table.make registry evaluator source settings).without ids =
      .make (registry.without ids) evaluator source settings := by
  simp only [Table.without, Table.make, Pool.Builder.make]

section

variable {t : Table δ σ} {ids : List String}

theorem Table.agrees_without (ht : t.builder.registry = some t.registry) (steps : List String)
    (d : Dialog) : t.Agrees (.unvetoed steps d ids) (t.without ids) where
  engine := rfl
  evaluator := rfl
  source := rfl
  settings := rfl
  baseType := rfl
  build r s hs := by
    obtain ⟨-, -, hv⟩ := hs
    have hb : t.builder = ⟨some t.registry, t.builder.baseType⟩ := by rw [← ht]
    rw [hv, hb]
    exact Pool.Builder.build_without (fun _ h => h) _ r
  actorless r hr := by
    refine Pool.Builder.build_eq_of_contributions rfl rfl ?_
    unfold Pool.Builder.contributions
    rw [hr, ht]
    rfl
  ranges a step dialogType d' s hs := by
    obtain ⟨-, -, hv⟩ := hs
    rw [hv]
    exact Registry.rangeModifications_without (fun _ h => h) a step dialogType d'

namespace Start

theorem candidates_without (registry : Registry) (ids : List String) (a : Actor)
    (types : List String) :
    candidates (registry.without ids) a types =
      (candidates registry a types).filter fun x => !ids.contains x.2.id := by
  induction types with
  | nil => rfl
  | cons ty types ih =>
    change ((registry.without ids).forDialog a ty).map (fun f => (ty, f)) ++
      candidates _ a types = _
    rw [ih, Registry.forDialog_without]
    change _ = ((registry.forDialog a ty).map (fun f => (ty, f)) ++ candidates _ a types).filter _
    rw [List.filter_append, List.filter_map]
    rfl

theorem lookup_not_veto (t : Table δ σ) (s : ActionState) (creatures : σ) :
    ∀ e ∈ (lookups t s creatures).filterMap (·.error), e.kind ≠ View.vetoKind := by
  intro e he
  obtain ⟨l, hl, he⟩ := List.mem_filterMap.mp he
  obtain ⟨id, -, rfl⟩ := List.mem_map.mp hl
  have hmissing : ∀ reason, (Lookup.missing id reason (some stepId)).error = some e →
      e.kind ≠ View.vetoKind := by
    intro reason h
    cases h
    exact (by decide : "target_missing" ≠ View.vetoKind)
  unfold Lookup.ofAnswer at he
  split at he
  · cases he
    exact (by decide : "target_error" ≠ View.vetoKind)
  · exact hmissing _ he
  · split at he
    · split at he
      · cases he
      · exact hmissing _ he
    · cases he

theorem Poll.kind_entries (p : Poll) : ∀ e ∈ p.entries, e.kind = View.vetoKind := by
  intro e he
  obtain ⟨r, -, rfl⟩ := List.mem_map.mp he
  rfl

/-- What a first step records besides its refusals. -/
theorem filter_errors (t : Table δ σ) (s : ActionState) (creatures : σ) (a : Actor) (p : Poll) :
    (begun (gathered t s creatures a) p).errors.filter (fun e => e.kind != View.vetoKind) =
      s.errors.filter (fun e => e.kind != View.vetoKind) ++
        (lookups t s creatures).filterMap (·.error) := by
  have hlookups : ((lookups t s creatures).filterMap (·.error)).filter
      (fun e => e.kind != View.vetoKind) = (lookups t s creatures).filterMap (·.error) :=
    List.filter_eq_self.mpr fun e he => by simpa using lookup_not_veto t s creatures e he
  have hentries : p.entries.filter (fun e => e.kind != View.vetoKind) = [] :=
    List.filter_eq_nil_iff.mpr fun e he => by simp [p.kind_entries e he]
  change ((s.errors ++ _) ++ p.entries).filter _ = _
  rw [List.filter_append, List.filter_append, hlookups, hentries, List.append_nil]

theorem filter_vetoes {s : ActionState} (hs : s.errors = []) (creatures : σ) (a : Actor)
    (p : Poll) :
    (begun (gathered t s creatures a) p).errors.filter (fun e => e.kind == View.vetoKind) =
      p.entries := by
  have hlookups : ((lookups t s creatures).filterMap (·.error)).filter
      (fun e => e.kind == View.vetoKind) = [] :=
    List.filter_eq_nil_iff.mpr fun e he => by simpa using lookup_not_veto t s creatures e he
  have hentries : p.entries.filter (fun e => e.kind == View.vetoKind) = p.entries :=
    List.filter_eq_self.mpr fun e he => by simp [p.kind_entries e he]
  change ((s.errors ++ _) ++ p.entries).filter _ = _
  rw [hs, List.filter_append, List.nil_append, hlookups, hentries, List.nil_append]

/-- A first step that refuses some ids, beside one at a table that does not have them. -/
theorem mirrors_without {w : World δ σ} (hw : w.state.WellFormed) {a : Actor}
    (hactor : actorFor t w.state w.source = .ok a) (hresult : (polled t w.state a).result = .ok ())
    (hids : (polled t w.state a).ids = ids) (es : List Log.Event)
    (vs : List (String × ActionState)) :
    ∃ u u', perform (run t) w = (.ok (), u) ∧
      perform (run (t.without ids))
        ((w.seen (.unvetoed w.state.steps w.state.dialog ids)).logged es vs) = (.ok (), u') ∧
      Mirrors (.unvetoed w.state.steps w.state.dialog ids) u u' := by
  have hfailure : (poll a w.state.dialog [] (candidates t.registry a
      (dialogTypes w.state))).failure = none := Poll.failure_of_result hresult
  have hwithout : polled (t.without ids)
      ((w.seen (.unvetoed w.state.steps w.state.dialog ids)).logged es vs).state a = {} := by
    have hc := candidates_without t.registry ids a (dialogTypes w.state)
    refine (congrArg (poll a w.state.dialog []) hc).trans (poll_filter ?_ ?_ hfailure)
    · exact fun id h => nomatch h
    · exact fun id h => hids ▸ h
  obtain ⟨es₁, h₁⟩ := perform_run_ok hw hactor
  obtain ⟨es₂, h₂⟩ := perform_run_ok (t := t.without ids)
    (w := (w.seen (.unvetoed w.state.steps w.state.dialog ids)).logged es vs)
    (hw.of_steps rfl rfl) hactor
  rw [hresult] at h₁
  rw [hwithout] at h₂
  have hvetoed : (begun (gathered t w.state w.source a) (polled t w.state a)).vetoed = ids :=
    (begun_vetoed _ hresult).trans hids
  refine ⟨_, _, h₁, h₂, hw.of_steps rfl rfl, ⟨rfl, rfl, hvetoed⟩, es₂, vs, ?_⟩
  -- the two states differ in their errors and vetoes only
  have herrors := filter_errors t w.state w.source a (polled t w.state a)
  have hnone : ids.filter (fun id => !ids.contains id) = [] := by simp
  exact congrArg (World.logged · es₂ vs) (congrArg₂ (fun errors vetoed => ({ w with
    state := { gathered t ((View.unvetoed w.state.steps w.state.dialog ids).state w.state)
        w.source a with
      errors := errors
      vetoed := vetoed } } : World δ σ)) ((List.append_nil _).trans herrors.symm)
        (hnone.symm.trans (congrArg _ hvetoed.symm)))

/-- Steps that start the action again refuse the same features, whatever became of the actor. -/
def RefusesAgain (t : Table δ σ) (s : ActionState) (ids : List String) : Prop :=
  ∀ creatures a, actorFor t s creatures = .ok a →
    (polled t s a).result = .ok () ∧ (polled t s a).ids = ids

/-- Who acts and who is asked depends on the steps and the dialog alone. -/
theorem RefusesAgain.of_plan {s s' : ActionState} (h : RefusesAgain t s ids)
    (hsteps : s'.steps = s.steps) (hd : s'.dialog = s.dialog) : RefusesAgain t s' ids := by
  intro creatures a hactor
  have hactor' : actorFor t s creatures = .ok a := by
    unfold actorFor requireDifficulties at hactor ⊢
    rwa [hsteps, hd] at hactor
  have hpolled : polled t s' a = polled t s a := by
    unfold polled dialogTypes
    rw [hsteps, hd]
  rw [hpolled]
  exact h creatures a hactor'

theorem follows_without {s : ActionState} (h : RefusesAgain t s ids) :
    Follows (.unvetoed s.steps s.dialog ids) (run t) (run (t.without ids)) := by
  rintro w _ ⟨hw, ha, es, vs, rfl⟩
  obtain ⟨hsteps, hd, -⟩ := id ha
  rw [← hsteps, ← hd] at ha ⊢
  cases hactor : actorFor t w.state w.source with
  | error e =>
    refine Follows.of_eq (perform_run_error hactor) ?_ ⟨hw, ha, es, vs, rfl⟩
    exact perform_run_error (t := t.without ids) (w := (w.seen _).logged es vs) hactor
  | ok a =>
    obtain ⟨hresult, hids⟩ := h.of_plan hsteps hd w.source a hactor
    obtain ⟨u, u', hu, hu', hm⟩ := mirrors_without hw hactor hresult hids es vs
    exact Follows.of_eq hu hu' hm

/-- The record of a refusal: a feature of that id gave the reason. -/
def Records (r : Registry) (d : Dialog) (id : String) (e : ErrorEntry) : Prop :=
  e.kind = View.vetoKind ∧ e.step = some stepId ∧
    ∃ f ∈ r.features, f.id = id ∧ ∃ a dialogType events,
      f.consult a dialogType (some d) (some stepId) = .ok (some e.message, events)

theorem polled_records (t : Table δ σ) (s : ActionState) (a : Actor) :
    List.Forall₂ (Records t.registry s.dialog) (polled t s a).ids (polled t s a).entries := by
  have hall : ∀ r ∈ (polled t s a).refused, Records t.registry s.dialog r.1 (Poll.entry r) := by
    intro r hr
    obtain ⟨x, hx, hid, events, hc⟩ := exists_of_mem_refused hr
    obtain ⟨ty, -, hx⟩ := List.mem_flatMap.mp hx
    obtain ⟨f, hf, rfl⟩ := List.mem_map.mp hx
    exact ⟨rfl, rfl, f, (List.mem_filter.mp hf).1, hid, a, ty, events, hc⟩
  rw [Poll.ids, Poll.entries, List.forall₂_map_left_iff, List.forall₂_map_right_iff]
  exact List.forall₂_same.mpr hall

end Start

theorem stepPasses_start {w u : World δ σ} (h : perform (Start.run t) w = (.ok (), u)) :
    StepPasses (shippedHandlers t) Start.stepId w u :=
  ⟨handingBack (Start.run t), rfl, perform_bind_ok _ h⟩

/-- A run that starts by refusing some ids, beside one at a table that does not have them. -/
theorem execute_without (ht : t.builder.registry = some t.registry) {observers : List Observer}
    {w : World δ σ} {rest : List String} (hw : w.state.WellFormed)
    (hl : w.state.remaining = Start.stepId :: rest) (hc : w.state.cancelled = false) {a : Actor}
    (hactor : Start.actorFor t w.state w.source = .ok a)
    (hresult : (Start.polled t w.state a).result = .ok ())
    (hids : (Start.polled t w.state a).ids = ids)
    (hagain : Start.stepId ∈ rest → Start.RefusesAgain t w.state ids)
    (ho : ∀ o ∈ observers, (View.unvetoed w.state.steps w.state.dialog ids).Hides o)
    (hseen : (View.unvetoed w.state.steps w.state.dialog ids).state w.state = w.state) :
    ∃ r v v', perform (execute (shippedHandlers t) observers) w = (r, v) ∧
      perform (execute (shippedHandlers (t.without ids)) observers) w = (r, v') ∧
      Mirrors (.unvetoed w.state.steps w.state.dialog ids) v v' := by
  obtain ⟨u, u', hu, hu', hm⟩ := Start.mirrors_without (w := w.started) hw hactor hresult hids
    w.started.events w.visited
  have hrest : Follows (.unvetoed w.state.steps w.state.dialog ids)
      (runFrom (shippedHandlers t) observers rest)
      (runFrom (shippedHandlers (t.without ids)) observers rest) :=
    (View.unvetoed_faithful _ _ _).runFrom (View.unvetoed_showsStop _ _ _) ho fun step hm =>
      (Table.agrees_without ht _ _).shipped (View.unvetoed_faithful _ _ _) fun hs =>
        Start.follows_without (hagain (hs ▸ hm))
  have hself : (w.started.seen (.unvetoed w.state.steps w.state.dialog ids)).logged
      w.started.events w.visited = w.started :=
    congrArg (fun s => ({ w.started with state := s } : World δ σ)) hseen
  rw [show w.started.state.steps = w.state.steps from rfl,
    show w.started.state.dialog = w.state.dialog from rfl] at hu' hm
  rw [hself] at hu'
  have hpasses : ∀ {t' : Table δ σ} {x : World δ σ},
      perform (Start.run t') w.started = (.ok (), x) →
      ∃ es, perform (execute (shippedHandlers t') observers) w =
        perform (onward (shippedHandlers t') observers Start.stepId rest)
          { x with events := es } := by
    intro t' x h
    rw [perform_execute, hl]
    exact ⟨_, perform_runFrom_passes hc (stepPasses_start h)⟩
  obtain ⟨hwf, hadmits, es, vs, rfl⟩ := hm
  obtain ⟨es₁, h₁⟩ := hpasses hu
  obtain ⟨es₂, h₂⟩ := hpasses hu'
  have honward : Follows _ (onward (shippedHandlers t) observers Start.stepId rest)
      (onward (shippedHandlers (t.without ids)) observers Start.stepId rest) :=
    .onward (View.unvetoed_showsStop w.state.steps w.state.dialog ids) ho hrest
  obtain ⟨hr, hv⟩ := honward { u with events := es₁ }
    { (u.seen (.unvetoed w.state.steps w.state.dialog ids)).logged es vs with events := es₂ }
    ⟨hwf, hadmits, es₂, vs, rfl⟩
  rw [← h₁, ← h₂] at hr hv
  rcases hp : perform (execute (shippedHandlers t) observers) w with ⟨r, v⟩
  rw [hp] at hr hv
  exact ⟨r, v, (perform (execute (shippedHandlers (t.without ids)) observers) w).2, rfl,
    Prod.ext hr rfl, hv⟩

end

/-- Features that the first step of a fresh state refuses have no influence. The step records each
of them once, with one error for each in the same order, and the run is the one without them: it
ends alike, with the same dice and creatures, and with a state that differs in the list of the
vetoes, in their errors, and in the copies of both in the summary. A step that starts the action
again has to refuse the same features again. -/
theorem vetoes_without_influence {registry : Registry} {evaluator : Evaluator δ}
    {source : ActorSource σ} {settings : Settings} {observers : List Observer} {wf : Workflow}
    {w : World δ σ} {rest ids : List String}
    (hfresh : ActionState.create wf w.state.dialog = .ok w.state)
    (hsteps : wf.steps = Start.stepId :: rest)
    (hstart : (perform (Start.run (.make registry evaluator source settings)) w).1 = .ok ())
    (hvetoed : (perform (Start.run (.make registry evaluator source settings)) w).2.state.vetoed =
      ids)
    (hagain : Start.stepId ∈ rest →
      Start.RefusesAgain (.make registry evaluator source settings) w.state ids)
    (ho : ∀ o ∈ observers, (View.unvetoed wf.steps w.state.dialog ids).Hides o) :
    ids.Nodup ∧
      List.Forall₂ (Start.Records registry w.state.dialog) ids
        ((perform (Start.run (.make registry evaluator source settings)) w).2.state.errors.filter
          fun e => e.kind == View.vetoKind) ∧
      ∃ r v es vs,
        perform (execute (shippedHandlers (.make registry evaluator source settings)) observers) w =
          (r, v) ∧
        v.state.vetoed = ids ∧
        perform (execute (shippedHandlers (.make (registry.without ids) evaluator source settings))
          observers) w = (r, (v.seen (.unvetoed wf.steps w.state.dialog ids)).logged es vs) := by
  obtain ⟨hw, name, hs⟩ := create_eq_ok hfresh
  have hwsteps : w.state.steps = wf.steps := by rw [hs]
  have herrors : w.state.errors = [] := by rw [hs]
  have hseen : (View.unvetoed w.state.steps w.state.dialog ids).state w.state = w.state := by
    rw [hs]
    rfl
  have hl : w.state.remaining = Start.stepId :: rest := by
    rw [← hsteps, ← hwsteps, hs]
    rfl
  have hc : w.state.cancelled = false := by rw [hs]
  rw [← hwsteps] at ho ⊢
  obtain ⟨a, es₀, hactor, hresult, hbegun⟩ := Start.exists_of_run_ok hw hstart
  rw [hbegun, Start.begun_vetoed _ hresult] at hvetoed
  obtain ⟨r, v, v', hp, hp', -, ⟨-, -, hv⟩, es, vs, he⟩ :=
    execute_without rfl hw hl hc hactor hresult hvetoed hagain ho hseen
  refine ⟨?_, ?_, r, v, es, vs, hp, hv, ?_⟩
  · rw [← hvetoed]
    exact (Start.nodup_ids _ _ _ _).1
  · rw [hbegun, Start.filter_vetoes herrors, ← hvetoed]
    exact Start.polled_records (Table.make registry evaluator source settings) w.state a
  · rw [← he, ← hp', Table.make_without]

/-- A feature that would add to an attack, but may not be used. -/
def spentFeature : Feature where
  id := "power-attack"
  name := "Power Attack"
  affects := ["attack"]
  steps := ["base-dice-pool-features-attack"]
  validate _ := .ok (.text "No strength left")
  modifiers _ := .ok [{ name := "Power Attack", fragment := "1d6" }]

def braced : World Unit Roster :=
  { skirmish with
    source := Roster.ofActors [{ id := "hero", feats := ["Power Attack"] }, { id := "goblin" }] }

theorem vetoes_without_influence_braced :
    ActionState.create ⟨"attack", ["start", "attack", "complete"]⟩ braced.state.dialog =
        .ok braced.state ∧
      (perform (Start.run (.make ⟨[spentFeature]⟩ (evenDice 12) Roster.source {})) braced).1 =
        .ok () ∧
      (perform (Start.run (.make ⟨[spentFeature]⟩ (evenDice 12) Roster.source {}))
        braced).2.state.vetoed = ["power-attack"] ∧
      ∃ r v es vs,
        perform (execute (shippedHandlers (.make ⟨[spentFeature]⟩ (evenDice 12) Roster.source {}))
          []) braced = (r, v) ∧
        v.state.vetoed = ["power-attack"] ∧
        perform (execute (shippedHandlers (.make (.without ⟨[spentFeature]⟩ ["power-attack"])
          (evenDice 12) Roster.source {})) []) braced =
            (r, (v.seen (.unvetoed ["start", "attack", "complete"] braced.state.dialog
              ["power-attack"])).logged es vs) := by
  have hfresh : ActionState.create ⟨"attack", ["start", "attack", "complete"]⟩
      braced.state.dialog = .ok braced.state := by rfl
  have hstart : (perform (Start.run (.make ⟨[spentFeature]⟩ (evenDice 12) Roster.source {}))
      braced).1 = .ok () := by rfl
  have hvetoed : (perform (Start.run (.make ⟨[spentFeature]⟩ (evenDice 12) Roster.source {}))
      braced).2.state.vetoed = ["power-attack"] := by decide +kernel
  obtain ⟨-, -, h⟩ := vetoes_without_influence hfresh rfl hstart hvetoed
    (fun h => absurd h (by decide)) (fun (o : Observer) (h : o ∈ []) => nomatch h)
  exact ⟨hfresh, hstart, hvetoed, h⟩

/-- A feature that helps with an attack once its owner is wounded, and may not be used before. -/
def lastStand : Feature where
  id := "last-stand"
  name := "Last Stand"
  affects := ["attack"]
  steps := ["base-dice-pool-features-attack"]
  validate c := .ok (.bool (c.actor.hitPoints.any fun hp => hp < 10))
  modifiers _ := .ok [{ name := "Last Stand", fragment := "1d6" }]

/-- A hero who is wounded before the action starts again. -/
def relapse : World Unit Roster where
  state := {
    workflow := "relapse"
    steps := ["start", "damage", "applyDamage", "start", "attack", "complete"]
    dialog := {
      actorId := "hero"
      targetIds := ["hero"]
      featureState := [("last-stand", [("enabled", .bool true)])] } }
  dice := ()
  source := Roster.ofActors [{ id := "hero", feats := ["Last Stand"], hitPoints := some 12 }]

/-- The braced fight with its first step taken twice. -/
def restarted : World Unit Roster :=
  { braced with
    state := {
      workflow := "restarted"
      steps := ["start", "start", "attack", "complete"]
      dialog := braced.state.dialog } }

/-- A second start may take a veto back, and the feature then adds to the attack. Where it does not,
the refusal is recorded twice. -/
theorem restart_influences :
    let t := Table.make ⟨[lastStand]⟩ (evenDice 12) Roster.source {}
    let t' := Table.make (.without ⟨[lastStand]⟩ ["last-stand"]) (evenDice 12) Roster.source {}
    let v := (perform (execute (shippedHandlers t) []) relapse).2
    let v' := (perform (execute (shippedHandlers t') []) relapse).2
    let u := (perform (execute (shippedHandlers
      (.make ⟨[spentFeature]⟩ (evenDice 12) Roster.source {})) []) restarted).2
    ActionState.create ⟨"relapse", ["start", "damage", "applyDamage", "start", "attack", "complete"]⟩
        relapse.state.dialog = .ok relapse.state ∧
      (perform (Start.run t) relapse).1 = .ok () ∧
      (perform (Start.run t) relapse).2.state.vetoed = ["last-stand"] ∧
      v.state.vetoed = [] ∧
      v.state.rolls.map (fun r => (r.step, r.formula)) =
        [("damage", "0"), ("attack", "1d20+1d6")] ∧
      v'.state.rolls.map (fun r => (r.step, r.formula)) = [("damage", "0"), ("attack", "1d20")] ∧
      ActionState.create ⟨"restarted", ["start", "start", "attack", "complete"]⟩
        restarted.state.dialog = .ok restarted.state ∧
      u.state.vetoed = ["power-attack"] ∧
      (u.state.errors.filter fun e => e.kind == View.vetoKind).map (·.message) =
        ["No strength left", "No strength left"] := by
  exact ⟨rfl, rfl, by decide +kernel, by decide +kernel, by decide +kernel, by decide +kernel, rfl,
    by decide +kernel, by decide +kernel⟩

end Encounter.Run
