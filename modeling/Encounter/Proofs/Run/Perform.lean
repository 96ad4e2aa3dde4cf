import Encounter.Run.Execute

namespace Encounter.Run

variable {δ σ α β : Type}

/-- Perform an action in a world. -/
def perform (m : RunM δ σ α) (w : World δ σ) : Result α × World δ σ := (ExceptT.run m).run w

@[simp] theorem perform_pure (a : α) (w : World δ σ) :
    perform (pure a : RunM δ σ α) w = (.ok a, w) := rfl

@[simp] theorem perform_throw (e : Failure) (w : World δ σ) :
    perform (throw e : RunM δ σ α) w = (.error e, w) := rfl

theorem perform_bind (m : RunM δ σ α) (f : α → RunM δ σ β) (w : World δ σ) :
    perform (m >>= f) w =
      match perform m w with
      | (.ok a, v) => perform (f a) v
      | (.error e, v) => (.error e, v) := by
  simp only [perform, ExceptT.run_bind, StateT.run_bind]
  rcases (ExceptT.run m).run w with ⟨e | a, v⟩ <;> rfl

theorem perform_bind_ok {m : RunM δ σ α} {w v : World δ σ} {a : α} (f : α → RunM δ σ β)
    (h : perform m w = (.ok a, v)) : perform (m >>= f) w = perform (f a) v := by
  rw [perform_bind, h]

theorem perform_bind_error {m : RunM δ σ α} {w v : World δ σ} {e : Failure} (f : α → RunM δ σ β)
    (h : perform m w = (.error e, v)) : perform (m >>= f) w = (.error e, v) := by
  rw [perform_bind, h]

theorem exists_of_perform_bind {m : RunM δ σ α} {f : α → RunM δ σ β} {w v : World δ σ} {b : β}
    (h : perform (m >>= f) w = (.ok b, v)) :
    ∃ a u, perform m w = (.ok a, u) ∧ perform (f a) u = (.ok b, v) := by
  rw [perform_bind] at h
  rcases hm : perform m w with ⟨e | a, u⟩ <;> rw [hm] at h
  · cases h
  · exact ⟨a, u, rfl, h⟩

theorem perform_tryCatch (m : RunM δ σ α) (f : Failure → RunM δ σ α) (w : World δ σ) :
    perform (tryCatch m f) w =
      match perform m w with
      | (.ok a, v) => (.ok a, v)
      | (.error e, v) => perform (f e) v := by
  change (ExceptT.run (ExceptT.tryCatch m f)).run w = _
  rw [ExceptT.tryCatch, ExceptT.run_mk]
  change (ExceptT.run m >>= _).run w = _
  rw [StateT.run_bind, perform]
  rcases (ExceptT.run m).run w with ⟨e | a, v⟩ <;> rfl

theorem perform_forM_cons (f : α → RunM δ σ Unit) (x : α) (xs : List α) (w : World δ σ) :
    perform ((x :: xs).forM f) w = perform (f x >>= fun _ => xs.forM f) w := rfl

theorem perform_forM_of_steps {f : α → RunM δ σ Unit} {P : List α → World δ σ → Prop}
    {xs : List α} (hf : ∀ x ∈ xs, ∀ done w, P done w →
      ∃ v, perform (f x) w = (.ok (), v) ∧ P (done ++ [x]) v)
    {done : List α} {w : World δ σ} (hw : P done w) :
    ∃ v, perform (xs.forM f) w = (.ok (), v) ∧ P (done ++ xs) v := by
  induction xs generalizing done w with
  | nil => exact ⟨w, rfl, by rwa [List.append_nil]⟩
  | cons x xs ih =>
    obtain ⟨u, hp, hu⟩ := hf x List.mem_cons_self done w hw
    obtain ⟨v, hq, hv⟩ := ih (fun y hy => hf y (List.mem_cons_of_mem x hy)) hu
    refine ⟨v, ?_, ?_⟩
    · rw [perform_forM_cons, perform_bind_ok _ hp, hq]
    · rwa [List.append_cons]

@[simp] theorem perform_get (w : World δ σ) : perform (get : RunM δ σ (World δ σ)) w = (.ok w, w) :=
  rfl

@[simp] theorem perform_set (w v : World δ σ) :
    perform (set v : RunM δ σ Unit) w = (.ok (), v) := rfl

@[simp] theorem perform_modify (f : World δ σ → World δ σ) (w : World δ σ) :
    perform (modify f : RunM δ σ Unit) w = (.ok (), f w) := rfl

@[simp] theorem perform_lift (r : Result α) (w : World δ σ) :
    perform (liftM r : RunM δ σ α) w = (r, w) := by
  cases r <;> rfl

@[simp] theorem perform_readState (w : World δ σ) :
    perform (readState : RunM δ σ ActionState) w = (.ok w.state, w) := rfl

@[simp] theorem perform_report (events : List Log.Event) (w : World δ σ) :
    perform (report events : RunM δ σ Unit) w =
      (.ok (), { w with events := w.events ++ events }) := rfl

@[simp] theorem perform_info (name : String) (fields : List (String × Value)) (w : World δ σ) :
    perform (info name fields : RunM δ σ Unit) w =
      (.ok (), { w with events := w.events ++ [⟨.info, name, fields⟩] }) := rfl

@[simp] theorem perform_act (op : ActionState → ActionState.Step α) (w : World δ σ) :
    perform (act op : RunM δ σ α) w = ((op w.state).1, { w with state := (op w.state).2 }) := by
  have h : (act op : RunM δ σ α) = (do
      let w ← get
      set { w with state := (op w.state).2 }
      liftM (op w.state).1) := rfl
  rw [h, perform_bind_ok _ (perform_get w), perform_bind_ok _ (perform_set w _), perform_lift]

theorem perform_update (f : ActionState → ActionState) (w : World δ σ) :
    perform (update f : RunM δ σ Unit) w =
      ((f w.state).check, { w with state := f w.state }) := by
  rw [update, perform_act, ActionState.stored]

def ActionState.rolled (s : ActionState) (step formula : String) (id : Option String)
    (o : Dice.Outcome) : ActionState :=
  { s with rolls := s.rolls ++
    [⟨step, formula, o.total, o.natural, id, Entries.ofList o.totalsByType⟩] }

/-- A roll that fails takes its dice all the same. -/
theorem perform_roll (t : Table δ σ) (step formula : String) (id : Option String) (w : World δ σ) :
    perform (t.roll step formula id) w =
      match t.evaluator.evaluate formula w.dice with
      | (.error e, dice) => (.error e, { w with dice := dice })
      | (.ok o, dice) => ((w.state.rolled step formula id o).check.map fun _ => o,
          { w with state := w.state.rolled step formula id o, dice := dice }) := by
  have hr : t.roll step formula id = (do
      let w ← get
      set { w with dice := (t.evaluator.evaluate formula w.dice).2 }
      let o ← liftM (t.evaluator.evaluate formula w.dice).1
      act fun s =>
        s.recordRoll ⟨step, formula, o.total, o.natural, id, Entries.ofList o.totalsByType⟩
      return o) := rfl
  rw [hr, perform_bind_ok _ (perform_get w), perform_bind_ok _ (perform_set w _)]
  rcases t.evaluator.evaluate formula w.dice with ⟨e | o, dice⟩
  · exact perform_bind_error _ (perform_lift _ _)
  · rw [perform_bind_ok _ (perform_lift _ _), perform_bind, perform_act]
    have hs : ({ w with dice := dice } : World δ σ).state.recordRoll
        ⟨step, formula, o.total, o.natural, id, Entries.ofList o.totalsByType⟩ =
        ((w.state.rolled step formula id o).check, w.state.rolled step formula id o) := rfl
    rw [hs]
    dsimp only
    cases (w.state.rolled step formula id o).check <;> rfl

end Encounter.Run
