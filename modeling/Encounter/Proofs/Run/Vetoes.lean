import Encounter.Proofs.Run.Mirror

namespace Encounter.Run.Start

open ActionState

variable {δ σ : Type}

/-- The features that were refused, with the reasons, and why the asking stopped if it did. -/
structure Poll where
  refused : List (String × String) := []
  failure : Option Failure := none

namespace Poll

def refusing (p : Poll) (id reason : String) : Poll :=
  { p with refused := (id, reason) :: p.refused }

def ids (p : Poll) : List String := p.refused.map (·.1)

def entry (r : String × String) : ErrorEntry := ⟨View.vetoKind, r.2, some stepId⟩

def entries (p : Poll) : List ErrorEntry := p.refused.map entry

def result (p : Poll) : Result Unit := p.failure.elim (.ok ()) .error

theorem failure_of_result {p : Poll} (h : p.result = .ok ()) : p.failure = none := by
  unfold result at h
  cases hf : p.failure with
  | none => rfl
  | some e =>
    rw [hf] at h
    cases h

end Poll

/-- Ask the features in turn. One that was refused before is not asked again. -/
def poll (a : Actor) (d : Dialog) : List String → List (String × Feature) → Poll
  | _, [] => {}
  | seen, (ty, f) :: rest =>
    if seen.contains f.id then poll a d seen rest
    else
      match f.consult a ty (some d) (some stepId) with
      | .error e => { failure := some e }
      | .ok (none, _) => poll a d seen rest
      | .ok (some reason, _) => (poll a d (seen ++ [f.id]) rest).refusing f.id reason

theorem perform_veto {w : World δ σ} (hw : w.state.WellFormed) (f : Feature) (reason : String) :
    ∃ es, perform (veto f reason) w = (.ok (), { w with
      state := w.state.withError (Poll.entry (f.id, reason)), events := es }) := by
  exact ⟨_, perform_bind_ok _ (perform_addError_ok hw _ _ _)⟩

theorem perform_vetoes (a : Actor) (d : Dialog) (fs : List (String × Feature))
    (seen : List String) {w : World δ σ} (hw : w.state.WellFormed) :
    ∃ es, perform (vetoes a d seen fs) w =
      ((poll a d seen fs).result.map fun _ => seen ++ (poll a d seen fs).ids,
        { w with
          state := { w.state with errors := w.state.errors ++ (poll a d seen fs).entries }
          events := es }) := by
  induction fs generalizing seen w with
  | nil =>
    refine ⟨w.events, ?_⟩
    simp [vetoes, poll, Poll.result, Poll.ids, Poll.entries, Except.map]
  | cons x rest ih =>
    obtain ⟨ty, f⟩ := x
    rw [vetoes, poll]
    split
    · exact ih seen hw
    · cases hc : f.consult a ty (some d) (some stepId) with
      | error e =>
        refine ⟨w.events, ?_⟩
        rw [perform_bind_error _ (perform_lift _ w)]
        simp [Poll.result, Poll.entries, Except.map]
      | ok answer =>
        obtain ⟨reason, events⟩ := answer
        rw [perform_bind_ok _ (perform_lift _ w)]
        dsimp only
        rw [perform_bind_ok _ (perform_report events w)]
        cases reason with
        | none => exact ih seen (w := { w with events := w.events ++ events }) hw
        | some reason =>
          obtain ⟨es, hv⟩ := perform_veto (w := { w with events := w.events ++ events }) hw f reason
          obtain ⟨es', hr⟩ := ih (seen ++ [f.id])
            (w := { w with
              state := w.state.withError (Poll.entry (f.id, reason))
              events := es }) (hw.withError _)
          refine ⟨es', ?_⟩
          dsimp only
          rw [perform_bind_ok _ hv, hr]
          simp [Poll.result, Poll.refusing, Poll.ids, Poll.entries, withError]

theorem nodup_ids (a : Actor) (d : Dialog) (fs : List (String × Feature)) (seen : List String) :
    (poll a d seen fs).ids.Nodup ∧ ∀ id ∈ (poll a d seen fs).ids, id ∉ seen := by
  induction fs generalizing seen with
  | nil => exact ⟨List.nodup_nil, fun id h => nomatch h⟩
  | cons x rest ih =>
    obtain ⟨ty, f⟩ := x
    rw [poll]
    split
    · exact ih seen
    · rename_i hf
      cases f.consult a ty (some d) (some stepId) with
      | error e => exact ⟨List.nodup_nil, fun id h => nomatch h⟩
      | ok answer =>
        obtain ⟨_ | reason, events⟩ := answer
        · exact ih seen
        · obtain ⟨hnodup, hseen⟩ := ih (seen ++ [f.id])
          refine ⟨List.nodup_cons.mpr ⟨fun hm => ?_, hnodup⟩, fun id hm => ?_⟩
          · exact hseen _ hm (List.mem_append_right _ (List.mem_singleton_self _))
          · obtain rfl | hm := List.mem_cons.mp hm
            · simpa using hf
            · exact fun hs => hseen id hm (List.mem_append_left _ hs)

theorem exists_of_mem_refused {a : Actor} {d : Dialog} {fs : List (String × Feature)}
    {seen : List String} {r : String × String} (hr : r ∈ (poll a d seen fs).refused) :
    ∃ x ∈ fs, x.2.id = r.1 ∧
      ∃ events, x.2.consult a x.1 (some d) (some stepId) = .ok (some r.2, events) := by
  induction fs generalizing seen with
  | nil => cases hr
  | cons x rest ih =>
    obtain ⟨ty, f⟩ := x
    have hrest : ∀ seen, r ∈ (poll a d seen rest).refused → ∃ x ∈ (ty, f) :: rest, x.2.id = r.1 ∧
        ∃ events, x.2.consult a x.1 (some d) (some stepId) = .ok (some r.2, events) := by
      intro seen hr
      obtain ⟨x, hx, h⟩ := ih hr
      exact ⟨x, List.mem_cons_of_mem _ hx, h⟩
    rw [poll] at hr
    split at hr
    · exact hrest seen hr
    · cases hc : f.consult a ty (some d) (some stepId) with
      | error e =>
        rw [hc] at hr
        cases hr
      | ok answer =>
        obtain ⟨_ | reason, events⟩ := answer <;> rw [hc] at hr
        · exact hrest seen hr
        · obtain rfl | hr := List.mem_cons.mp hr
          · exact ⟨(ty, f), List.mem_cons_self, rfl, events, hc⟩
          · exact hrest _ hr

/-- Without the features that are refused, nobody is refused. -/
theorem poll_filter {a : Actor} {d : Dialog} {V : List String} {fs : List (String × Feature)}
    {seen : List String} (hseen : ∀ id ∈ seen, id ∈ V)
    (hrefused : ∀ id ∈ (poll a d seen fs).ids, id ∈ V)
    (hfailure : (poll a d seen fs).failure = none) :
    poll a d [] (fs.filter fun x => !V.contains x.2.id) = {} := by
  induction fs generalizing seen with
  | nil => rfl
  | cons x rest ih =>
    obtain ⟨ty, f⟩ := x
    rw [poll] at hrefused hfailure
    by_cases hf : f.id ∈ V
    · rw [List.filter_cons_of_neg (by simpa using hf)]
      split at hfailure
      · rename_i hs
        rw [if_pos hs] at hrefused
        exact ih hseen hrefused hfailure
      · rename_i hs
        rw [if_neg hs] at hrefused
        cases hc : f.consult a ty (some d) (some stepId) with
        | error e =>
          rw [hc] at hfailure
          cases hfailure
        | ok answer =>
          obtain ⟨_ | reason, events⟩ := answer <;> rw [hc] at hrefused hfailure
          · exact ih hseen hrefused hfailure
          · refine @ih (seen ++ [f.id]) (fun id hm => ?_)
              (fun id hm => hrefused id (List.mem_cons_of_mem _ hm)) hfailure
            obtain hm | hm := List.mem_append.mp hm
            · exact hseen id hm
            · rwa [List.mem_singleton.mp hm]
    · have hs : ¬ seen.contains f.id = true := fun h => hf (hseen _ (by simpa using h))
      rw [if_neg hs] at hrefused hfailure
      rw [List.filter_cons_of_pos (by simpa using hf), poll, if_neg (by simp)]
      cases hc : f.consult a ty (some d) (some stepId) with
      | error e =>
        rw [hc] at hfailure
        cases hfailure
      | ok answer =>
        obtain ⟨_ | reason, events⟩ := answer <;> rw [hc] at hrefused hfailure
        · exact ih hseen hrefused hfailure
        · exact (hf (hrefused _ List.mem_cons_self)).elim

def actorFor (t : Table δ σ) (s : ActionState) (creatures : σ) : Result Actor := do
  requireDifficulties s
  match ← t.source.actor s.dialog.actorId creatures with
  | some a => return a
  | none => throw (actorNotFound s.dialog.actorId)

def polled (t : Table δ σ) (s : ActionState) (a : Actor) : Poll :=
  poll a s.dialog [] (candidates t.registry a (dialogTypes s))

def lookups (t : Table δ σ) (s : ActionState) (creatures : σ) : List Lookup :=
  lookUp (fun id => t.source.target id creatures) s.dialog.targetIds (some stepId)

def gathered (t : Table δ σ) (s : ActionState) (creatures : σ) (a : Actor) : ActionState :=
  { s with
    actor := some a
    targets := found t s.dialog creatures
    errors := s.errors ++ (lookups t s creatures).filterMap (·.error) }

/-- The state after the first step. Its vetoes are set only if all features could be asked. -/
def begun (s : ActionState) (p : Poll) : ActionState :=
  { s with
    errors := s.errors ++ p.entries
    vetoed := if p.failure.isNone then p.ids else s.vetoed }

theorem perform_findActor (t : Table δ σ) (id : String) (w : World δ σ) :
    perform (findActor t id) w =
      (do match ← t.source.actor id w.source with
          | some a => return a
          | none => throw (actorNotFound id), w) := by
  rw [findActor, perform_bind_ok _ (perform_get w), perform_bind, perform_lift]
  rcases t.source.actor id w.source with e | _ | a <;> rfl

theorem perform_run_error {t : Table δ σ} {w : World δ σ} {e : Failure}
    (h : actorFor t w.state w.source = .error e) : perform (run t) w = (.error e, w) := by
  rw [run, perform_bind_ok _ (perform_readState w), perform_bind, perform_lift]
  unfold actorFor at h
  cases hr : requireDifficulties w.state with
  | error e' =>
    rw [hr] at h
    cases h
    rfl
  | ok u =>
    rw [hr] at h
    exact perform_bind_error _ ((perform_findActor t _ w).trans (congrArg (·, w) h))

theorem perform_lookUpTargets (t : Table δ σ) (s : ActionState) {w : World δ σ}
    (hw : w.state.WellFormed) :
    ∃ es, perform (lookUpTargets t s.dialog) w = (.ok (), { w with
      state := { w.state with
        targets := found t s.dialog w.source
        errors := w.state.errors ++ (lookups t s w.source).filterMap (·.error) }
      events := es }) := by
  refine ⟨w.events ++ (lookups t s w.source).filterMap (·.event), ?_⟩
  rw [lookUpTargets, perform_bind_ok _ (perform_get w), perform_bind_ok _ (perform_report _ w),
    perform_bind_ok _ (perform_update_ok (hw.of_steps rfl rfl)),
    perform_update_ok (hw.of_steps rfl rfl)]
  rfl

def ask (a : Actor) (d : Dialog) (fs : List (String × Feature)) : RunM δ σ Unit := do
  let vetoed ← vetoes a d [] fs
  update fun s => { s with vetoed := vetoed }
  let s ← readState
  info "Action started" [("actor", .text a.name), ("targets", .int s.targets.length),
    ("vetoed", .texts s.vetoed)]

theorem perform_ask (a : Actor) (d : Dialog) (fs : List (String × Feature)) {w : World δ σ}
    (hw : w.state.WellFormed) :
    ∃ es, perform (ask a d fs) w = ((poll a d [] fs).result,
      { w with state := begun w.state (poll a d [] fs), events := es }) := by
  obtain ⟨es, hv⟩ := perform_vetoes a d fs [] hw
  cases hf : (poll a d [] fs).failure with
  | some e =>
    have hr : (poll a d [] fs).result = .error e := by rw [Poll.result, hf]; rfl
    rw [hr] at hv ⊢
    exact ⟨es, (perform_bind_error _ hv).trans (by simp [begun, hf])⟩
  | none =>
    have hr : (poll a d [] fs).result = .ok () := by rw [Poll.result, hf]; rfl
    have hb : begun w.state (poll a d [] fs) = { w.state with
        errors := w.state.errors ++ (poll a d [] fs).entries
        vetoed := (poll a d [] fs).ids } := by rw [begun, hf]; rfl
    rw [hr] at hv ⊢
    rw [hb]
    exact ⟨_, (perform_bind_ok _ hv).trans
      (perform_bind_ok _ (perform_update_ok (hw.of_steps rfl rfl)))⟩

/-- With an actor the targets are looked up and the features are asked, and the step succeeds if
all of them could be asked. -/
theorem perform_run_ok {t : Table δ σ} {w : World δ σ} {a : Actor} (hw : w.state.WellFormed)
    (h : actorFor t w.state w.source = .ok a) :
    ∃ es, perform (run t) w = ((polled t w.state a).result, { w with
      state := begun (gathered t w.state w.source a) (polled t w.state a), events := es }) := by
  have hrun : run t = (do
      let s ← readState
      liftM (requireDifficulties s)
      let a ← findActor t s.dialog.actorId
      update fun s => { s with actor := some a }
      lookUpTargets t s.dialog
      ask a s.dialog (candidates t.registry a (dialogTypes s))) := rfl
  rw [hrun, perform_bind_ok _ (perform_readState w)]
  unfold actorFor at h
  cases hr : requireDifficulties w.state with
  | error e' =>
    rw [hr] at h
    cases h
  | ok u =>
    rw [hr] at h
    obtain ⟨es, hl⟩ := perform_lookUpTargets t w.state
      (w := { w with state := { w.state with actor := some a } }) (hw.of_steps rfl rfl)
    rw [perform_bind_ok _ (perform_lift _ w),
      perform_bind_ok _ ((perform_findActor t _ w).trans (congrArg (·, w) h)),
      perform_bind_ok _ (perform_update_ok (hw.of_steps rfl rfl)), perform_bind_ok _ hl]
    exact perform_ask a w.state.dialog _
      (w := { w with state := gathered t w.state w.source a, events := es }) (hw.of_steps rfl rfl)

theorem exists_of_run_ok {t : Table δ σ} {w : World δ σ} (hw : w.state.WellFormed)
    (h : (perform (run t) w).1 = .ok ()) :
    ∃ a es, actorFor t w.state w.source = .ok a ∧ (polled t w.state a).result = .ok () ∧
      (perform (run t) w).2 = { w with
        state := begun (gathered t w.state w.source a) (polled t w.state a), events := es } := by
  cases hactor : actorFor t w.state w.source with
  | error e =>
    rw [perform_run_error hactor] at h
    cases h
  | ok a =>
    obtain ⟨es, hp⟩ := perform_run_ok hw hactor
    rw [hp] at h ⊢
    exact ⟨a, es, rfl, h, rfl⟩

theorem begun_vetoed (s : ActionState) {p : Poll} (h : p.result = .ok ()) :
    (begun s p).vetoed = p.ids := by
  change (if _ then _ else _) = p.ids
  rw [Poll.failure_of_result h]
  rfl

end Encounter.Run.Start
