import Encounter.Proofs.Run.Contract
import Encounter.Proofs.Run.Session
import Encounter.Proofs.Run.Vetoes

namespace Encounter.Run

open ActionState

variable {δ σ α : Type}

/-- Execute, and execute again as long as the run was cancelled, up to a number of times. -/
def resuming (handlers : Handlers δ σ) (observers : List Observer) : Nat → RunM δ σ Unit
  | 0 => return ()
  | n + 1 => do
    execute handlers observers
    if (← readState).cancelled then
      update fun s => { s with cancelled := false }
      resuming handlers observers n

/-- An observer that cancels the run at some of the positions that are still to come. -/
def cancelAt (boundaries : Nat → Bool) : Observer := fun step s =>
  { cancels := step != completeStep && boundaries (s.chain + 1) }

def World.resumed (w : World δ σ) : World δ σ :=
  { w with state := { w.state with cancelled := false } }

/-- Everything is shown but the wish to stop. -/
def View.going : View where
  errors es := es
  vetoed vs := vs
  summary s := s
  cancelled _ := false
  admits _ _ _ := True

theorem View.going_faithful : View.going.Faithful where
  append _ _ := rfl
  shows _ _ := rfl
  summary _ := rfl

theorem seen_going (w : World δ σ) : w.seen .going = w.resumed := rfl

theorem resumed_eq {w : World δ σ} (hc : w.state.cancelled = false) : w.resumed = w := by
  obtain ⟨s, dice, source, events, visited⟩ := w
  obtain ⟨⟩ := s
  cases hc
  rfl

/-- No step looks at the log, or at the wish to stop. -/
def Handlers.Steady (handlers : Handlers δ σ) : Prop :=
  ∀ step, Option.Rel (Follows .going) (Entries.get? handlers step) (Entries.get? handlers step)

theorem Start.run_follows_going (t : Table δ σ) : Follows .going (Start.run t) (Start.run t) := by
  rintro w _ ⟨hw, ha, es, vs, rfl⟩
  have hw' : ((w.seen .going).logged es vs).state.WellFormed := hw.of_steps rfl rfl
  cases hactor : actorFor t w.state w.source with
  | error e =>
    exact Follows.of_eq (perform_run_error hactor)
      (perform_run_error (w := (w.seen .going).logged es vs) hactor) ⟨hw, ha, es, vs, rfl⟩
  | ok a =>
    obtain ⟨es₁, h₁⟩ := perform_run_ok hw hactor
    obtain ⟨es₂, h₂⟩ := perform_run_ok (w := (w.seen .going).logged es vs) hw' hactor
    exact Follows.of_eq h₁ h₂ ⟨hw.of_steps rfl rfl, trivial, es₂, vs, rfl⟩

theorem steady_shipped (t : Table δ σ) : (shippedHandlers t).Steady := by
  have hagrees : Table.Agrees View.going t t := ⟨rfl, rfl, rfl, rfl, rfl, fun _ _ _ => rfl,
    fun _ _ => rfl, fun _ _ _ _ _ _ => rfl⟩
  exact fun _ => hagrees.shipped View.going_faithful fun _ => Start.run_follows_going t

theorem Follows.noted {f : View} {h h' : Handler δ σ} (hh : Follows f h h') (step : String) :
    Follows f (noted step h) (noted step h') := by
  rintro w _ ⟨hw, ha, es, vs, rfl⟩
  obtain ⟨hr, hwf, hv, es', vs', he⟩ := hh w.withoutCalls ((w.withoutCalls.seen f).logged es vs)
    ⟨hw, ha, es, vs, rfl⟩
  refine ⟨hr, hwf, hv, es', vs', ?_⟩
  exact congrArg (World.withCalls · (w.source.2 ++ [step])) he

theorem Handlers.Steady.noting {handlers : Handlers δ σ} (h : handlers.Steady) :
    handlers.noting.Steady := by
  intro step
  have hs := h step
  rw [get?_noting]
  generalize Entries.get? handlers step = x at hs ⊢
  cases hs with
  | none => exact .none
  | some hh => exact .some (hh.noted step)

theorem Mirrors.uncancelled {w w' : World δ σ} (h : Mirrors .going w w') :
    w'.state.cancelled = false := by
  obtain ⟨-, -, es, vs, rfl⟩ := h
  rfl

theorem mirrors_self {w : World δ σ} (hw : w.state.WellFormed) (hc : w.state.cancelled = false) :
    Mirrors .going w w := by
  refine ⟨hw, trivial, w.events, w.visited, ?_⟩
  rw [seen_going, resumed_eq hc]
  rfl

section

variable {handlers : Handlers δ σ} {observers : List Observer} {step : String}
  {w w' u : World δ σ}

theorem Handlers.Steady.follows (hs : handlers.Steady) {h : Handler δ σ}
    (hh : Entries.get? handlers step = some h) : Follows .going h h := by
  have hr := hs step
  rw [hh] at hr
  cases hr with
  | some hh => exact hh

theorem StepPasses.going (hs : handlers.Steady) (hm : Mirrors .going w w')
    (hp : StepPasses handlers step w u) :
    ∃ u', StepPasses handlers step w' u' ∧ Mirrors .going u u' := by
  obtain ⟨h, hh, hp⟩ := hp
  obtain ⟨u', hp', hu⟩ := (hs.follows hh).exists_perform hm hp
  exact ⟨u', ⟨h, hh, hp'⟩, hu⟩

theorem StepFails.going {e : Failure} (hs : handlers.Steady) (hm : Mirrors .going w w')
    (hf : StepFails handlers step w e u) :
    ∃ u', StepFails handlers step w' e u' ∧ Mirrors .going u u' := by
  cases hf with
  | missing hh =>
    have hn : noHandler w.state step (missingText step) =
        noHandler w'.state step (missingText step) := by
      obtain ⟨-, -, es, vs, rfl⟩ := hm
      rfl
    exact ⟨w', hn ▸ .missing hh, hm⟩
  | raised hh hp =>
    obtain ⟨u', hp', hu⟩ := (hs.follows hh).exists_perform hm hp
    exact ⟨u', .raised hh hp', hu⟩
  | nothing hh hp =>
    obtain ⟨u', hp', hu⟩ := (hs.follows hh).exists_perform hm hp
    exact ⟨u', .nothing hh hp', hu⟩

theorem StepPasses.uncancelled (hs : handlers.Steady) (hw : w.state.WellFormed)
    (hc : w.state.cancelled = false) (hp : StepPasses handlers step w u) :
    u.state.cancelled = false := by
  obtain ⟨h, hh, hp⟩ := hp
  have hu := (hs.follows hh w w (mirrors_self hw hc)).2.uncancelled
  rwa [hp] at hu

theorem StepFails.uncancelled {e : Failure} (hs : handlers.Steady) (hw : w.state.WellFormed)
    (hc : w.state.cancelled = false) (hf : StepFails handlers step w e u) :
    u.state.cancelled = false := by
  cases hf with
  | missing hh => exact hc
  | raised hh hp | nothing hh hp =>
    have hu := (hs.follows hh w w (mirrors_self hw hc)).2.uncancelled
    rwa [hp] at hu

theorem settled_uncancelled (ho : ∀ o ∈ observers, ∀ s, (o step s).cancels = false)
    (u : World δ σ) (known : Nat) :
    (u.settled observers step known).state.cancelled = u.state.cancelled := by
  have hall : ∀ v : World δ σ, (observers.foldl (notify step) v).state.cancelled =
      v.state.cancelled := by
    induction observers with
    | nil => exact fun v => rfl
    | cons o os ih =>
      intro v
      rw [List.foldl_cons, ih fun o' hm => ho o' (List.mem_cons_of_mem _ hm)]
      unfold notify
      rw [ho o List.mem_cons_self]
      rfl
  exact hall _

theorem Mirrors.settled {u' : World δ σ} (h : Mirrors .going u u') (observers : List Observer)
    (step : String) (known known' : Nat) :
    Mirrors .going (u.settled observers step known) (u'.settled [] step known') := by
  obtain ⟨hu, -, es, vs, rfl⟩ := h
  obtain ⟨c, es', hf⟩ := settled_frame u observers step known
  rw [hf]
  exact ⟨hu.of_steps rfl rfl, trivial, _, _, rfl⟩

end

section

variable {handlers : Handlers δ σ} {observers : List Observer}

/-- A run that may be stopped, beside one that is not: they end alike, or the first one stops
before a step that the other one goes on with. -/
theorem Course.interrupted (hk : handlers.KeepCourse) (hs : handlers.Steady)
    (ho : ∀ o ∈ observers, ∀ s, (o completeStep s).cancels = false) {l : List String}
    {w v : World δ σ} {r : Result Unit} (h : Course handlers observers l w r v)
    (hw : w.state.WellFormed) (hl : w.state.remaining = l) (hc : w.state.cancelled = false)
    {w' : World δ σ} (hm : Mirrors .going w w') :
    (v.state.cancelled = false ∧ ∃ v', Course handlers [] l w' r v' ∧ Mirrors .going v v') ∨
      (r = .ok () ∧ v.state.cancelled = true ∧ v.state.remaining.length < l.length ∧
        ∃ u, Mirrors .going v u ∧ ∀ r' v', Course handlers [] v.state.remaining u r' v' →
          Course handlers [] l w' r' v') := by
  induction h generalizing w' with
  | cancelled hc' => exact nomatch hc.symm.trans hc'
  | @failed step rest w u e hc' hf =>
    obtain ⟨u', hf', hu⟩ := hf.going hs hm
    have hv : u.state.cancelled = false := hf.uncancelled hs hw hc
    refine .inl ⟨hv, _, .failed hm.uncancelled hf', ?_⟩
    obtain ⟨hu, -, es, vs, rfl⟩ := hu
    exact ⟨hu.of_steps rfl rfl, trivial, _, _, rfl⟩
  | @finished step rest w u hc' hp hs' =>
    subst hs'
    obtain ⟨u', hp', hu⟩ := hp.going hs hm
    refine .inl ⟨?_, _, .finished hm.uncancelled hp' rfl, ?_⟩
    · exact (settled_uncancelled ho u _).trans (hp.uncancelled hs hw hc)
    · obtain ⟨hv, -, es, vs, he⟩ := hu.settled observers completeStep w.state.errors.length
        w'.state.errors.length
      rw [he]
      exact ⟨hv, trivial, _, _, rfl⟩
  | @next step rest w u v r hc' hp hs' hr ih =>
    obtain ⟨u', hp', hu⟩ := hp.going hs hm
    obtain ⟨hw₁, hl₁⟩ := wellFormed_next hk hw hl hp hs' observers w.state.errors.length
    have hm₁ : Mirrors .going (u.settled observers step w.state.errors.length).advanced
        (u'.settled [] step w'.state.errors.length).advanced := by
      obtain ⟨-, -, es, vs, he⟩ := hu.settled observers step w.state.errors.length
        w'.state.errors.length
      rw [he]
      exact ⟨hw₁, trivial, _, _, rfl⟩
    have hnext : ∀ r' v', Course handlers [] rest
        (u'.settled [] step w'.state.errors.length).advanced r' v' →
        Course handlers [] (step :: rest) w' r' v' :=
      fun r' v' h => .next hm.uncancelled hp' hs' h
    cases hcan : (u.settled observers step w.state.errors.length).advanced.state.cancelled with
    | true =>
      cases hr with
      | @cancelled next tail _ _ =>
        have hrest : ((u.settled observers step w.state.errors.length).advanced.halted
            next).state.remaining = next :: tail := hl₁
        refine .inr ⟨rfl, hcan, ?_, (u'.settled [] step w'.state.errors.length).advanced, ?_, ?_⟩
        · rw [hrest]
          exact Nat.lt_succ_self _
        · obtain ⟨h₁, -, es, vs, he⟩ := hm₁
          exact ⟨h₁, trivial, es, vs, he⟩
        · rw [hrest]
          exact hnext
      | failed hcan' _ | finished hcan' _ _ | next hcan' _ _ _ =>
        exact nomatch hcan.symm.trans hcan'
    | false =>
      obtain ⟨hv, v', hcourse, hvm⟩ | ⟨hr', hv, hlt, x, hx, hgoes⟩ := ih hw₁ hl₁ hcan hm₁
      · exact .inl ⟨hv, v', hnext _ _ hcourse, hvm⟩
      · exact .inr ⟨hr', hv, Nat.lt_succ_of_lt hlt, x, hx, fun r' v' h => hnext _ _ (hgoes r' v' h)⟩

theorem Mirrors.started {w w' : World δ σ} (h : Mirrors .going w w') :
    Mirrors .going w.started w' := by
  obtain ⟨hw, -, es, vs, rfl⟩ := h
  exact ⟨hw, trivial, es, vs, rfl⟩

/-- One attempt that was cancelled is followed by the next one. -/
theorem perform_resuming_again {n : Nat} {w v : World δ σ} (hv : v.state.WellFormed)
    (hc : v.state.cancelled = true) (h : perform (execute handlers observers) w = (.ok (), v)) :
    perform (resuming handlers observers (n + 1)) w =
      perform (resuming handlers observers n) v.resumed := by
  rw [resuming, perform_bind_ok _ h, perform_bind_ok _ (perform_readState v), if_pos hc]
  exact perform_bind_ok _ (perform_update_ok (hv.of_steps rfl rfl))

theorem perform_resuming_end {n : Nat} {w v : World δ σ} {r : Result Unit}
    (hc : v.state.cancelled = false) (h : perform (execute handlers observers) w = (r, v)) :
    perform (resuming handlers observers (n + 1)) w = (r, v) := by
  rw [resuming]
  cases r with
  | error e => exact perform_bind_error _ h
  | ok u =>
    rw [perform_bind_ok _ h, perform_bind_ok _ (perform_readState v), if_neg (by simp [hc])]
    rfl

/-- Attempts enough take a run that may go on where it would have ended without a stop. -/
theorem exists_resuming (hk : handlers.KeepCourse) (hs : handlers.Steady)
    (ho : ∀ o ∈ observers, ∀ s, (o completeStep s).cancels = false) {n : Nat} {w w' : World δ σ}
    (hm : Mirrors .going w w') (hc : w.state.cancelled = false)
    (hn : w.state.remaining.length ≤ n) :
    ∃ r v v', perform (resuming handlers observers n) w = (r, v) ∧ v.state.cancelled = false ∧
      Course handlers [] w.state.remaining w' r v' ∧ Mirrors .going v v' := by
  induction n generalizing w w' with
  | zero => exact (hm.1.remaining_ne_nil (List.length_eq_zero_iff.mp (Nat.le_zero.mp hn))).elim
  | succ n ih =>
    obtain ⟨r, v, hcourse⟩ := exists_course hk observers w.state.remaining w.started hm.1 rfl
    have hp : perform (execute handlers observers) w = (r, v) := by
      rw [perform_execute, hcourse.perform_eq hk hm.1 rfl]
    obtain ⟨hv, v', hcourse', hvm⟩ | ⟨rfl, hv, hlt, u, hu, hgoes⟩ :=
      hcourse.interrupted hk hs ho hm.1 rfl hc hm.started
    · exact ⟨r, v, v', perform_resuming_end hv hp, hv, hcourse', hvm⟩
    · have hr : Mirrors .going v.resumed u := by
        obtain ⟨hv, -, es, vs, rfl⟩ := hu
        exact ⟨hv.of_steps rfl rfl, trivial, es, vs, rfl⟩
      obtain ⟨r, x, x', hp', hx, hcourse', hxm⟩ :=
        ih hr rfl (Nat.le_of_lt_succ (Nat.lt_of_lt_of_le hlt hn))
      exact ⟨r, x, x', (perform_resuming_again hu.1 hv hp).trans hp', hx, hgoes r x' hcourse', hxm⟩

theorem Mirrors.eq_logged {v v' : World δ σ} (h : Mirrors .going v v')
    (hc : v.state.cancelled = false) : v = v'.logged v.events v.visited := by
  obtain ⟨-, -, es, vs, rfl⟩ := h
  rw [seen_going, resumed_eq hc]
  rfl

theorem perform_resuming (hk : handlers.KeepCourse) (hs : handlers.Steady)
    (ho : ∀ o ∈ observers, ∀ s, (o completeStep s).cancels = false) {n : Nat} {w : World δ σ}
    (hw : w.state.WellFormed) (hn : w.state.remaining.length < n) {r : Result Unit}
    {v : World δ σ} (hv : perform (execute handlers []) w.resumed = (r, v)) :
    ∃ es vs, perform (resuming handlers observers n) w = (r, v.logged es vs) := by
  have hgo : ∀ {m : Nat} {x : World δ σ}, x.state.remaining = w.state.remaining →
      Mirrors .going x w.resumed.started → x.state.cancelled = false →
      w.state.remaining.length ≤ m →
      ∃ es vs, perform (resuming handlers observers m) x = (r, v.logged es vs) := by
    intro m x hx hm hc hlen
    obtain ⟨r', y, y', hp, hy, hcourse, hym⟩ := exists_resuming hk hs ho hm hc (hx ▸ hlen)
    rw [hx] at hcourse
    have he := hcourse.perform_eq hk (w := w.resumed.started) (hw.of_steps rfl rfl) rfl
    rw [perform_execute] at hv
    cases hv.symm.trans he
    exact ⟨y.events, y.visited, by rw [hp, ← hym.eq_logged hy]⟩
  cases hc : w.state.cancelled with
  | false =>
    have hm : Mirrors .going w w.resumed.started := ⟨hw, trivial, _, w.visited, rfl⟩
    exact hgo rfl hm hc (Nat.le_of_lt hn)
  | true =>
    obtain ⟨step, rest, hl⟩ := List.exists_cons_of_ne_nil hw.remaining_ne_nil
    obtain ⟨m, rfl⟩ := Nat.exists_eq_add_of_lt hn
    have hp : perform (execute handlers observers) w = (.ok (), w.started.halted step) := by
      rw [perform_execute, hl]
      exact perform_runFrom_cancelled hc
    have hm : Mirrors .going (w.started.halted step).resumed w.resumed.started :=
      ⟨hw.of_steps rfl rfl, trivial, _, w.visited, rfl⟩
    rw [perform_resuming_again (v := w.started.halted step) hw hc hp]
    exact hgo rfl hm rfl (Nat.le_add_right _ _)

end

/-- The handlers that a run calls are those of the steps in turn, none of them twice. -/
theorem LastTurn.calls_prefix {handlers : Handlers δ σ} {observers : List Observer} {step : String}
    {w v : World δ σ} {called l : List String} {r : Result Unit} {n : Nat}
    (h : LastTurn handlers observers step w called r v) (hi : l[n]? = some step) :
    l.take n ++ called <+: l := by
  have hnext : l.take n ++ [step] <+: l := by
    rw [← Option.toList_some, ← hi, ← List.take_add_one]
    exact List.take_prefix _ _
  cases h with
  | cancelled hc => rw [List.append_nil]; exact List.take_prefix _ _
  | failed hf =>
    unfold Handlers.callsOf
    split
    · exact hnext
    · rw [List.append_nil]; exact List.take_prefix _ _
  | finished hp hs => exact hnext

/-- However often a run is cancelled between its steps, by a caller before it begins or by observers
under way, and executed again, it ends as the run that is never cancelled: the failure, the state,
the dice and the creatures are the same, and so are the calls of handlers, each step in turn. -/
theorem resuming_eq_execute (t : Table δ σ) {observers : List Observer}
    (ho : ∀ o ∈ observers, ∀ s, (o completeStep s).cancels = false) {w : World δ σ}
    (hw : w.state.check = .ok ()) {n : Nat} (hn : w.state.remaining.length < n) :
    ∃ r v calls, perform (execute (shippedHandlers t) []) w.resumed = (r, v) ∧
      perform (execute (shippedHandlers t).noting []) (w.resumed.withCalls []) =
        (r, v.withCalls calls) ∧
      calls <+: w.state.remaining ∧
      (∃ es vs, perform (resuming (shippedHandlers t) observers n) w = (r, v.logged es vs)) ∧
      ∃ es vs, perform (resuming (shippedHandlers t).noting observers n) (w.withCalls []) =
        (r, (v.withCalls calls).logged es vs) := by
  have hwf : w.state.WellFormed := (check_eq_ok_iff w.state).mp hw
  have hwr : w.resumed.started.state.WellFormed := hwf.of_steps rfl rfl
  have hk := shippedHandlers_keepCourse t
  obtain ⟨r, v, hcourse⟩ := exists_course hk [] w.state.remaining w.resumed.started hwr rfl
  obtain ⟨i, w', step, called, -, -, hi, hlast, hnoted⟩ := hcourse.exists_lastTurn hk hwr rfl
  have hplain : perform (execute (shippedHandlers t) []) w.resumed = (r, v) := by
    rw [perform_execute]
    exact hcourse.perform_eq hk hwr rfl
  have hcalls : perform (execute (shippedHandlers t).noting []) (w.resumed.withCalls []) =
      (r, v.withCalls (w.state.remaining.take i ++ called)) := by
    rw [perform_execute]
    exact (hnoted []).perform_eq hk.noting hwr rfl
  exact ⟨r, v, _, hplain, hcalls, hlast.calls_prefix hi,
    perform_resuming hk (steady_shipped t) ho hwf hn hplain,
    perform_resuming hk.noting (steady_shipped t).noting ho (w := w.withCalls []) hwf hn hcalls⟩

def stalled : World Unit Roster :=
  { skirmish with state := { skirmish.state with cancelled := true } }

/-- A fight that is cancelled before every one of its steps still takes all of them. -/
theorem resuming_eq_execute_stalled :
    (∀ o ∈ [cancelAt fun _ => true], ∀ s, (o completeStep s).cancels = false) ∧
      stalled.state.check = .ok () ∧ stalled.state.remaining.length < 4 ∧
      (perform (execute (shippedHandlers (evenTable 12)) []) stalled.resumed).2.state.completed =
        ["start", "attack", "complete"] ∧
      ∃ r v calls,
        perform (execute (shippedHandlers (evenTable 12)) []) stalled.resumed = (r, v) ∧
        calls <+: ["start", "attack", "complete"] ∧
        (∃ es vs, perform (resuming (shippedHandlers (evenTable 12)) [cancelAt fun _ => true] 4)
          stalled = (r, v.logged es vs)) ∧
        ∃ es vs, perform (resuming (shippedHandlers (evenTable 12)).noting
          [cancelAt fun _ => true] 4) (stalled.withCalls []) =
            (r, (v.withCalls calls).logged es vs) := by
  have ho : ∀ o ∈ [cancelAt fun _ => true], ∀ s, (o completeStep s).cancels = false := by
    intro o hm s
    rw [List.mem_singleton.mp hm]
    rfl
  have hw : stalled.state.check = .ok () := by rfl
  have hn : stalled.state.remaining.length < 4 := by decide
  obtain ⟨r, v, calls, hp, -, hcalls, hr, hrn⟩ := resuming_eq_execute (evenTable 12) ho hw hn
  exact ⟨ho, hw, hn, by decide +kernel, r, v, calls, hp, hcalls, hr, hrn⟩

end Encounter.Run
