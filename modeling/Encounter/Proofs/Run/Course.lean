import Encounter.Proofs.Run.WellFormed

namespace Encounter.Run

open ActionState

variable {δ σ α : Type}

/-- A handler leaves the course of the run as it is, also when it fails. -/
def KeepsCourse (h : Handler δ σ) : Prop :=
  ∀ w : World δ σ, w.state.WellFormed → SameCourse w.state (perform h w).2.state

def Handlers.KeepCourse (handlers : Handlers δ σ) : Prop := ∀ e ∈ handlers, KeepsCourse e.2

def missingText (step : String) : String := "No handler registered for step '" ++ step ++ "'"

/-- A step fails: it has no handler, or its handler fails, or hands nothing back. The world is the
one that the handler left. -/
inductive StepFails (handlers : Handlers δ σ) (step : String) (w : World δ σ) :
    Failure → World δ σ → Prop
  | missing (hh : Entries.get? handlers step = none) :
    StepFails handlers step w (noHandler w.state step (missingText step)) w
  | raised {h : Handler δ σ} {e : Failure} {u : World δ σ}
    (hh : Entries.get? handlers step = some h) (hp : perform h w = (.error e, u)) :
    StepFails handlers step w e u
  | nothing {h : Handler δ σ} {u : World δ σ} (hh : Entries.get? handlers step = some h)
    (hp : perform h w = (.ok .nothing, u)) : StepFails handlers step w (gaveNothing step) u

/-- The handler of a step hands the state back. -/
def StepPasses (handlers : Handlers δ σ) (step : String) (w u : World δ σ) : Prop :=
  ∃ h, Entries.get? handlers step = some h ∧ perform h w = (.ok .handedBack, u)

theorem stepFails_or_stepPasses (handlers : Handlers δ σ) (step : String) (w : World δ σ) :
    (∃ e u, StepFails handlers step w e u) ∨ ∃ u, StepPasses handlers step w u := by
  cases hh : Entries.get? handlers step with
  | none => exact .inl ⟨_, _, .missing hh⟩
  | some h =>
    rcases hp : perform h w with ⟨e | reply, u⟩
    · exact .inl ⟨e, u, .raised hh hp⟩
    · cases reply with
      | handedBack => exact .inr ⟨u, h, hh, hp⟩
      | nothing => exact .inl ⟨_, u, .nothing hh hp⟩

theorem StepFails.sameCourse {handlers : Handlers δ σ} {step : String} {w u : World δ σ}
    {e : Failure} (hk : handlers.KeepCourse) (hw : w.state.WellFormed)
    (h : StepFails handlers step w e u) : SameCourse w.state u.state := by
  cases h with
  | missing hh => exact .refl _
  | raised hh hp | nothing hh hp =>
    have hc := hk _ (Entries.mem_of_get? hh) w hw
    rwa [hp] at hc

theorem StepPasses.sameCourse {handlers : Handlers δ σ} {step : String} {w u : World δ σ}
    (hk : handlers.KeepCourse) (hw : w.state.WellFormed) (h : StepPasses handlers step w u) :
    SameCourse w.state u.state := by
  obtain ⟨h, hh, hp⟩ := h
  have hc := hk _ (Entries.mem_of_get? hh) w hw
  rwa [hp] at hc

def World.afterFailure (u : World δ σ) (step : String) (e : Failure) : World δ σ :=
  { u with
    state := u.state.withError ⟨"step_runtime", e.reason, some step⟩
    events := u.events ++ [⟨.error, "Step failed", [("step", .text step),
      ("error", .text e.reason), ("error_type", .text e.typeName)]⟩] }

def World.afterStep (u : World δ σ) (step : String) (known : Nat) : World δ σ :=
  { u with
    state := u.state.past step
    events := u.events ++ (u.state.errors.drop known).map (recordedEvent step)
    visited := u.visited ++ [(step, u.state.past step)] }

theorem perform_failed {w : World δ σ} (hw : w.state.WellFormed) (step : String) (e : Failure) :
    perform (failed step e.reason e.typeName : RunM δ σ Unit) w =
      (.ok (), w.afterFailure step e) := by
  rw [failed, perform_bind_ok _ (perform_addError_ok hw _ _ _), perform_report]
  rfl

theorem perform_answered (h : Handler δ σ) (step : String) (w : World δ σ) :
    perform (answered h step) w =
      match perform h w with
      | (.ok .handedBack, u) => (.ok (), u)
      | (.ok .nothing, u) => (.error (gaveNothing step), u)
      | (.error e, u) => (.error e, u) := by
  rw [answered, perform_bind]
  rcases perform h w with ⟨e | reply, u⟩
  · rfl
  · cases reply <;> rfl

theorem perform_runStep_fails {handlers : Handlers δ σ} {step : String} {w u : World δ σ}
    {e : Failure} (hk : handlers.KeepCourse) (hw : w.state.WellFormed)
    (h : StepFails handlers step w e u) :
    perform (runStep handlers step) w = (.error e, u.afterFailure step e) := by
  have hu : u.state.WellFormed := hw.of_sameCourse (h.sameCourse hk hw)
  cases h with
  | missing hh =>
    rw [runStep, hh]
    rw [perform_bind_ok _ (perform_readState w)]
    exact perform_bind_ok _ (perform_failed hw step (noHandler w.state step (missingText step)))
  | raised hh hp | nothing hh hp =>
    rw [runStep, hh]
    rw [perform_bind_ok _ (perform_readState w)]
    refine perform_bind_error _ ?_
    rw [perform_tryCatch, perform_answered, hp]
    exact perform_bind_ok _ (perform_failed hu step _)

theorem perform_runStep_passes {handlers : Handlers δ σ} {step : String} {w u : World δ σ}
    (h : StepPasses handlers step w u) :
    perform (runStep handlers step) w = (.ok (), { u with
      events := u.events ++ (u.state.errors.drop w.state.errors.length).map
        (recordedEvent step) }) := by
  obtain ⟨h, hh, hp⟩ := h
  have ha : perform (tryCatch (answered h step) fun e => do
      failed step e.reason e.typeName
      throw e) w = (.ok (), u) := by
    rw [perform_tryCatch, perform_answered, hp]
  rw [runStep, hh]
  rw [perform_bind_ok _ (perform_readState w), perform_bind_ok _ ha,
    perform_bind_ok _ (perform_readState u), perform_report]

theorem perform_finishStep {w : World δ σ} (hw : w.state.WellFormed) (step : String) :
    perform (finishStep step) w = (.ok (), { w with
      state := w.state.past step
      visited := w.visited ++ [(step, w.state.past step)] }) := by
  rw [finishStep, perform_bind_ok _ (perform_update_ok (hw.past step)), perform_modify]
  rfl

/-- The world after an observer. One that fails is reported, and may have cancelled before. -/
def notify (step : String) (w : World δ σ) (o : Observer) : World δ σ :=
  { w with
    state := if (o step w.state).cancels then w.state.stopped else w.state
    events := if (o step w.state).failure.isSome then
      w.events ++ [⟨.error, "Step callback failed", [("step", .text step)]⟩] else w.events }

theorem wellFormed_notify {w : World δ σ} (hw : w.state.WellFormed) (step : String)
    (o : Observer) : (notify step w o).state.WellFormed := by
  unfold notify
  split
  · exact hw.stopped
  · exact hw

theorem perform_observe {w : World δ σ} (hw : w.state.WellFormed) (step : String) (o : Observer) :
    perform (observe step o) w = (.ok (), notify step w o) := by
  have hc : perform (if (o step w.state).cancels = true then act (·.cancel) else return () :
      RunM δ σ Unit) w =
      (.ok (), { w with
        state := if (o step w.state).cancels then w.state.stopped else w.state }) := by
    split
    · exact perform_cancel_ok hw
    · rfl
  rw [observe, perform_bind_ok _ (perform_readState w)]
  rw [perform_tryCatch, perform_bind_ok _ hc]
  unfold notify
  cases (o step w.state).failure <;> simp

theorem perform_observers {w : World δ σ} (hw : w.state.WellFormed) (step : String)
    (observers : List Observer) :
    perform (observers.forM (observe step)) w = (.ok (), observers.foldl (notify step) w) := by
  induction observers generalizing w with
  | nil => rfl
  | cons o os ih =>
    rw [perform_forM_cons, perform_bind_ok _ (perform_observe hw step o), List.foldl_cons]
    exact ih (wellFormed_notify hw step o)

/-- What observers leave alone, which is all but the wish to go on and the log. -/
theorem observers_frame (step : String) (observers : List Observer) (w : World δ σ) :
    ∃ c es, observers.foldl (notify step) w =
      { w with state := { w.state with cancelled := c }, events := es } := by
  induction observers generalizing w with
  | nil => exact ⟨w.state.cancelled, w.events, rfl⟩
  | cons o os ih =>
    obtain ⟨c, es, h⟩ := ih (notify step w o)
    refine ⟨c, es, ?_⟩
    rw [List.foldl_cons, h]
    unfold notify
    split <;> rfl

/-- The world once a step and its observers are done. -/
def World.settled (u : World δ σ) (observers : List Observer) (step : String) (known : Nat) :
    World δ σ :=
  observers.foldl (notify step) (u.afterStep step known)

theorem settled_frame (u : World δ σ) (observers : List Observer) (step : String) (known : Nat) :
    ∃ c es, u.settled observers step known =
      { u with
        state := { u.state.past step with cancelled := c }
        events := es
        visited := u.visited ++ [(step, u.state.past step)] } := by
  obtain ⟨c, es, h⟩ := observers_frame step observers (u.afterStep step known)
  exact ⟨c, es, h⟩

theorem wellFormed_settled {u : World δ σ} (hu : u.state.WellFormed) (observers : List Observer)
    (step : String) (known : Nat) : (u.settled observers step known).state.WellFormed := by
  obtain ⟨c, es, h⟩ := settled_frame u observers step known
  rw [h]
  exact hu.of_steps rfl rfl

def World.halted (w : World δ σ) (step : String) : World δ σ :=
  { w with events := w.events ++ [⟨.info, "Workflow cancelled",
    [("step", .text step), ("completed_steps", .texts w.state.completed)]⟩] }

def World.closed (w : World δ σ) : World δ σ :=
  { w with events := w.events ++ [⟨.info, "Workflow finished",
    [("completed_steps", .texts w.state.completed), ("errors", .int w.state.errors.length)]⟩] }

def World.advanced (w : World δ σ) : World δ σ := { w with state := w.state.advanced }

/-- The course of a run over the steps that are left: it is cancelled before the first of them, or
that one fails, or completes the workflow, or passes and the run goes on. -/
inductive Course (handlers : Handlers δ σ) (observers : List Observer) :
    List String → World δ σ → Result Unit → World δ σ → Prop
  | cancelled {step : String} {rest : List String} {w : World δ σ}
    (hc : w.state.cancelled = true) :
    Course handlers observers (step :: rest) w (.ok ()) (w.halted step)
  | failed {step : String} {rest : List String} {w u : World δ σ} {e : Failure}
    (hc : w.state.cancelled = false) (hf : StepFails handlers step w e u) :
    Course handlers observers (step :: rest) w (.error e) (u.afterFailure step e)
  | finished {step : String} {rest : List String} {w u : World δ σ}
    (hc : w.state.cancelled = false) (hp : StepPasses handlers step w u)
    (hs : step = completeStep) :
    Course handlers observers (step :: rest) w (.ok ())
      (u.settled observers step w.state.errors.length).closed
  | next {step : String} {rest : List String} {w u v : World δ σ} {r : Result Unit}
    (hc : w.state.cancelled = false) (hp : StepPasses handlers step w u)
    (hs : step ≠ completeStep)
    (hr : Course handlers observers rest
      (u.settled observers step w.state.errors.length).advanced r v) :
    Course handlers observers (step :: rest) w r v

section

variable {handlers : Handlers δ σ} {observers : List Observer} {step : String}
  {rest : List String} {w u : World δ σ}

theorem perform_runFrom_cancelled (hc : w.state.cancelled = true) :
    perform (runFrom handlers observers (step :: rest)) w = (.ok (), w.halted step) := by
  rw [runFrom, perform_bind_ok _ (perform_readState w), if_pos hc, perform_info]
  rfl

theorem perform_runFrom_failed {e : Failure} (hk : handlers.KeepCourse) (hw : w.state.WellFormed)
    (hc : w.state.cancelled = false) (hf : StepFails handlers step w e u) :
    perform (runFrom handlers observers (step :: rest)) w = (.error e, u.afterFailure step e) := by
  rw [runFrom, perform_bind_ok _ (perform_readState w), if_neg (by simp [hc])]
  exact perform_bind_error _ (perform_runStep_fails hk hw hf)

/-- What follows a step that passes starts in the settled world. -/
theorem perform_after_step (hk : handlers.KeepCourse) (hw : w.state.WellFormed)
    (hp : StepPasses handlers step w u) (m : RunM δ σ α) :
    perform (do
        runStep handlers step
        finishStep step
        observers.forM (observe step)
        m) w =
      perform m (u.settled observers step w.state.errors.length) := by
  have hu : u.state.WellFormed := hw.of_sameCourse (hp.sameCourse hk hw)
  rw [perform_bind_ok _ (perform_runStep_passes hp),
    perform_bind_ok _ (perform_finishStep (w := { u with
      events := u.events ++ (u.state.errors.drop w.state.errors.length).map
        (recordedEvent step) }) hu step)]
  exact perform_bind_ok _ (perform_observers (hu.past step) step observers)

theorem perform_runFrom_finished (hk : handlers.KeepCourse) (hw : w.state.WellFormed)
    (hc : w.state.cancelled = false) (hp : StepPasses handlers step w u)
    (hs : step = completeStep) :
    perform (runFrom handlers observers (step :: rest)) w =
      (.ok (), (u.settled observers step w.state.errors.length).closed) := by
  rw [runFrom, perform_bind_ok _ (perform_readState w), if_neg (by simp [hc]),
    perform_after_step hk hw hp, if_pos (by simp [hs]), perform_bind_ok _ (perform_readState _),
    perform_info]
  rfl

theorem remaining_settled (hk : handlers.KeepCourse) (hw : w.state.WellFormed)
    (hp : StepPasses handlers step w u) (observers : List Observer) (known : Nat) :
    (u.settled observers step known).state.remaining = w.state.remaining := by
  obtain ⟨c, es, h⟩ := settled_frame u observers step known
  rw [h]
  exact (hp.sameCourse hk hw).remaining

theorem perform_runFrom_next {next : String} (hk : handlers.KeepCourse)
    (hw : w.state.WellFormed) (hl : w.state.remaining = step :: next :: rest)
    (hc : w.state.cancelled = false) (hp : StepPasses handlers step w u)
    (hs : step ≠ completeStep) :
    perform (runFrom handlers observers (step :: next :: rest)) w =
      perform (runFrom handlers observers (next :: rest))
        (u.settled observers step w.state.errors.length).advanced := by
  have hu : u.state.WellFormed := hw.of_sameCourse (hp.sameCourse hk hw)
  have hv := wellFormed_settled hu observers step w.state.errors.length
  have hr := remaining_settled hk hw hp observers w.state.errors.length
  rw [runFrom, perform_bind_ok _ (perform_readState w), if_neg (by simp [hc]),
    perform_after_step hk hw hp, if_neg (by simpa using hs)]
  exact perform_bind_ok _ (perform_nextStep_ok hv (hr.trans hl))

theorem exists_next {s : ActionState} (hs : s.WellFormed) (hl : s.remaining = step :: rest)
    (hn : step ≠ completeStep) : ∃ next tail, rest = next :: tail := by
  cases rest with
  | nil =>
    have hlast := hs.getLast_remaining
    rw [hl] at hlast
    exact absurd (by simpa using hlast) hn
  | cons next tail => exact ⟨next, tail, rfl⟩

theorem wellFormed_next (hk : handlers.KeepCourse) (hw : w.state.WellFormed)
    (hl : w.state.remaining = step :: rest) (hp : StepPasses handlers step w u)
    (hn : step ≠ completeStep) (observers : List Observer) (known : Nat) :
    (u.settled observers step known).advanced.state.WellFormed ∧
      (u.settled observers step known).advanced.state.remaining = rest := by
  have hu : u.state.WellFormed := hw.of_sameCourse (hp.sameCourse hk hw)
  have hr := (remaining_settled hk hw hp observers known).trans hl
  obtain ⟨next, tail, rfl⟩ := exists_next hw hl hn
  exact ⟨(wellFormed_settled hu observers step known).advanced hr, remaining_advanced_of_cons hr⟩

end

theorem exists_course {handlers : Handlers δ σ} (hk : handlers.KeepCourse)
    (observers : List Observer) (l : List String) (w : World δ σ) (hw : w.state.WellFormed)
    (hl : w.state.remaining = l) : ∃ r v, Course handlers observers l w r v := by
  induction l generalizing w with
  | nil => exact absurd hl hw.remaining_ne_nil
  | cons step rest ih =>
    cases hc : w.state.cancelled with
    | true => exact ⟨_, _, .cancelled hc⟩
    | false =>
      obtain ⟨e, u, hf⟩ | ⟨u, hp⟩ := stepFails_or_stepPasses handlers step w
      · exact ⟨_, _, .failed hc hf⟩
      · by_cases hs : step = completeStep
        · exact ⟨_, _, .finished hc hp hs⟩
        · obtain ⟨hw', hl'⟩ := wellFormed_next hk hw hl hp hs observers
            w.state.errors.length
          obtain ⟨r, v, hr⟩ := ih _ hw' hl'
          exact ⟨r, v, .next hc hp hs hr⟩

theorem Course.perform_eq {handlers : Handlers δ σ} (hk : handlers.KeepCourse)
    {observers : List Observer} {l : List String} {w v : World δ σ} {r : Result Unit}
    (h : Course handlers observers l w r v) (hw : w.state.WellFormed)
    (hl : w.state.remaining = l) : perform (runFrom handlers observers l) w = (r, v) := by
  induction h with
  | cancelled hc => exact perform_runFrom_cancelled hc
  | failed hc hf => exact perform_runFrom_failed hk hw hc hf
  | finished hc hp hs => exact perform_runFrom_finished hk hw hc hp hs
  | next hc hp hs hr ih =>
    obtain ⟨hw', hl'⟩ := wellFormed_next hk hw hl hp hs observers _
    obtain ⟨next, tail, rfl⟩ := exists_next hw hl hs
    rw [perform_runFrom_next hk hw hl hc hp hs]
    exact ih hw' hl'

/-- A run over the steps that are left takes the course described here, and no other. -/
theorem perform_runFrom_iff {handlers : Handlers δ σ} (hk : handlers.KeepCourse)
    (observers : List Observer) {w v : World δ σ} {r : Result Unit} (hw : w.state.WellFormed) :
    perform (runFrom handlers observers w.state.remaining) w = (r, v) ↔
      Course handlers observers w.state.remaining w r v := by
  constructor
  · intro h
    obtain ⟨r', v', hc⟩ := exists_course hk observers _ w hw rfl
    have he := (hc.perform_eq hk hw rfl).symm.trans h
    cases he
    exact hc
  · exact fun h => h.perform_eq hk hw rfl

def World.started (w : World δ σ) : World δ σ :=
  { w with events := w.events ++ [⟨.info, "Workflow started",
    [("steps", .texts w.state.steps), ("chain_number", .int w.state.chain)]⟩] }

theorem perform_execute (handlers : Handlers δ σ) (observers : List Observer) (w : World δ σ) :
    perform (execute handlers observers) w =
      perform (runFrom handlers observers w.state.remaining) w.started := rfl

/-- What holds before a step, and what holds after it: the latter does not notice the books of the
run, and gives the former back once the step is behind. -/
structure Kept (I F : World δ σ → Prop) : Prop where
  weaken : ∀ w : World δ σ, I w → F w
  books : ∀ (w : World δ σ) (errors : List ErrorEntry) (completed : List String) (c : Bool)
    (es : List Log.Event) (visited : List (String × ActionState)), F w →
    F { w with
      state := { w.state with errors := errors, completed := completed, cancelled := c }
      events := es
      visited := visited }
  advanced : ∀ w : World δ σ, w.advanced.state.WellFormed → F w → I w.advanced

theorem Kept.settled {I F : World δ σ → Prop} (hI : Kept I F) {u : World δ σ} (hu : F u)
    (observers : List Observer) (step : String) (known : Nat) :
    F (u.settled observers step known) := by
  obtain ⟨c, es, h⟩ := settled_frame u observers step known
  rw [h]
  exact hI.books u u.state.errors (u.state.completed ++ [step]) c es _ hu

/-- What every handler makes of a world at its own step holds at the end of the run. -/
theorem Course.keeps {handlers : Handlers δ σ} (hk : handlers.KeepCourse)
    {I F : World δ σ → Prop} (hI : Kept I F)
    (hstep : ∀ e ∈ handlers, ∀ (w : World δ σ) (rest : List String), w.state.WellFormed →
      w.state.remaining = e.1 :: rest → I w → F (perform e.2 w).2)
    {observers : List Observer} {l : List String} {w v : World δ σ} {r : Result Unit}
    (h : Course handlers observers l w r v) (hwf : w.state.WellFormed)
    (hl : w.state.remaining = l) (hw : I w) : F v := by
  have hpasses : ∀ {step : String} {rest : List String} {w u : World δ σ}, w.state.WellFormed →
      w.state.remaining = step :: rest → I w → StepPasses handlers step w u → F u := by
    intro step rest w u hwf hl hw hp
    obtain ⟨h, hh, hp⟩ := hp
    have hu := hstep _ (Entries.mem_of_get? hh) w rest hwf hl hw
    rwa [hp] at hu
  induction h with
  | @cancelled step rest w hc =>
    exact hI.books w w.state.errors w.state.completed w.state.cancelled _ w.visited
      (hI.weaken w hw)
  | @failed step rest w u e hc hf =>
    have hu : F u := by
      cases hf with
      | missing hh => exact hI.weaken w hw
      | raised hh hp | nothing hh hp =>
        have hu := hstep _ (Entries.mem_of_get? hh) w rest hwf hl hw
        rwa [hp] at hu
    exact hI.books u _ u.state.completed u.state.cancelled _ u.visited hu
  | @finished step rest w u hc hp hs =>
    have hu := hI.settled (hpasses hwf hl hw hp) observers step w.state.errors.length
    exact hI.books _ _ _ _ _ _ hu
  | @next step rest w u v r hc hp hs hr ih =>
    obtain ⟨hwf', hl'⟩ := wellFormed_next hk hwf hl hp hs observers _
    exact ih hwf' hl' (hI.advanced _ hwf'
      (hI.settled (hpasses hwf hl hw hp) observers step w.state.errors.length))

end Encounter.Run
