import Mathlib.Logic.ExistsUnique
import Encounter.Proofs.Run.Calls
import Encounter.Proofs.Run.Loop
import Encounter.Proofs.Run.StepEffects

namespace Encounter.Run

open ActionState

variable {δ σ : Type}

namespace ActionState

def between (s : ActionState) (i j : Nat) : List String := (s.steps.take j).drop i

/-- The first position from that of the state on whose step completes the workflow. -/
structure FirstComplete (s : ActionState) (m : Nat) : Prop where
  notBefore : s.chain ≤ m
  complete : s.steps[m]? = some completeStep
  first : ∀ i, s.chain ≤ i → i < m → s.steps[i]? ≠ some completeStep

theorem between_add (s : ActionState) (n : Nat) :
    s.between s.chain (s.chain + n) = s.remaining.take n := by
  rw [between, remaining, List.take_drop]

theorem length_between (s : ActionState) (i : Nat) {j : Nat} (hj : j ≤ s.steps.length) :
    (s.between i j).length = j - i := by
  rw [between, List.length_drop, List.length_take, Nat.min_eq_left hj]

theorem FirstComplete.lt_length {s : ActionState} {m : Nat} (h : s.FirstComplete m) :
    m < s.steps.length := (List.getElem?_eq_some_iff.mp h.complete).1

theorem getElem?_remaining (s : ActionState) (n : Nat) :
    s.remaining[n]? = s.steps[s.chain + n]? := List.getElem?_drop

theorem exists_firstComplete {s : ActionState} (hs : s.WellFormed) : ∃ m, s.FirstComplete m := by
  have hm : completeStep ∈ s.remaining := List.mem_of_getLast? hs.getLast_remaining
  have hi : s.remaining.findIdx (· == completeStep) < s.remaining.length :=
    List.findIdx_lt_length_of_exists ⟨completeStep, hm, beq_self_eq_true _⟩
  refine ⟨s.chain + s.remaining.findIdx (· == completeStep), Nat.le_add_right _ _, ?_, ?_⟩
  · have hc := List.findIdx_getElem (w := hi)
    rw [← getElem?_remaining, List.getElem?_eq_getElem hi]
    simpa using hc
  · intro i hci him hc
    obtain ⟨n, rfl⟩ := Nat.exists_eq_add_of_le hci
    have hn : n < s.remaining.findIdx (· == completeStep) := by omega
    have hl : n < s.remaining.length := by omega
    have hf := List.not_of_lt_findIdx hn
    rw [← getElem?_remaining, List.getElem?_eq_getElem hl] at hc
    simp [Option.some.inj hc] at hf

theorem FirstComplete.le_of_notMem {s : ActionState} {m n : Nat} (h : s.FirstComplete m)
    (hn : completeStep ∉ s.remaining.take n) : s.chain + n ≤ m := by
  refine Nat.le_of_not_lt fun hlt => hn ?_
  obtain ⟨i, rfl⟩ := Nat.exists_eq_add_of_le h.notBefore
  have hc := h.complete
  rw [← getElem?_remaining] at hc
  refine List.mem_of_getElem? (i := i) ?_
  rw [List.getElem?_take, if_pos (by omega), hc]

theorem FirstComplete.eq_of_complete {s : ActionState} {m n : Nat} (h : s.FirstComplete m)
    (hn : completeStep ∉ s.remaining.take n) (hc : s.remaining[n]? = some completeStep) :
    m = s.chain + n := by
  have hle := h.le_of_notMem hn
  rw [getElem?_remaining] at hc
  have hge : ¬ s.chain + n < m := fun hlt => h.first _ (Nat.le_add_right _ _) hlt hc
  omega

end ActionState

/-- The loop goes on for a number of turns, which leaves it at the step that many places on. -/
structure Reaches (handlers : Handlers δ σ) (observers : List Observer) (n : Nat)
    (w v : World δ σ) : Prop where
  turns : perform (turns handlers observers n) w = (.ok true, v)
  steps : v.state.steps = w.state.steps
  chain : v.state.chain = w.state.chain + n
  completed : v.state.completed = w.state.completed ++ w.state.remaining.take n
  incomplete : completeStep ∉ w.state.remaining.take n

theorem Reaches.zero (handlers : Handlers δ σ) (observers : List Observer) (w : World δ σ) :
    Reaches handlers observers 0 w w where
  turns := rfl
  steps := rfl
  chain := rfl
  completed := by rw [List.take_zero, List.append_nil]
  incomplete := by rw [List.take_zero]; exact List.not_mem_nil

theorem Reaches.next {handlers : Handlers δ σ} {observers : List Observer} {n : Nat}
    {step : String} {rest : List String} {w u v : World δ σ} (hk : handlers.KeepCourse)
    (hw : w.state.WellFormed) (hl : w.state.remaining = step :: rest)
    (hc : w.state.cancelled = false) (hp : StepPasses handlers step w u)
    (hs : step ≠ completeStep)
    (h : Reaches handlers observers n
      (u.settled observers step w.state.errors.length).advanced v) :
    Reaches handlers observers (n + 1) w v := by
  obtain ⟨-, hr⟩ := wellFormed_next hk hw hl hp hs observers w.state.errors.length
  have hu := hp.sameCourse hk hw
  obtain ⟨c, es, hf⟩ := settled_frame u observers step w.state.errors.length
  have hsteps : (u.settled observers step w.state.errors.length).advanced.state.steps =
      w.state.steps := by rw [hf]; exact hu.steps
  have hchain : (u.settled observers step w.state.errors.length).advanced.state.chain =
      w.state.chain + 1 := by rw [hf]; exact congrArg (· + 1) hu.chain
  have hdone : (u.settled observers step w.state.errors.length).advanced.state.completed =
      w.state.completed ++ [step] := by rw [hf]; exact congrArg (· ++ [step]) hu.completed
  refine ⟨?_, h.steps.trans hsteps, ?_, ?_, ?_⟩
  · rw [perform_turns_goOn (perform_turn_next hk hw hl hc hp hs)]
    exact h.turns
  · rw [h.chain, hchain]
    omega
  · rw [h.completed, hdone, hr, hl, List.take_succ_cons, List.append_assoc]
    rfl
  · have hi := h.incomplete
    rw [hr] at hi
    rw [hl, List.take_succ_cons, List.mem_cons, not_or]
    exact ⟨Ne.symm hs, hi⟩

/-- The last turn of a run, with the calls that it makes. -/
inductive LastTurn (handlers : Handlers δ σ) (observers : List Observer) (step : String)
    (w : World δ σ) : List String → Result Unit → World δ σ → Prop
  | cancelled (hc : w.state.cancelled = true) :
    LastTurn handlers observers step w [] (.ok ()) (w.halted step)
  | failed {u : World δ σ} {e : Failure} (hf : StepFails handlers step w e u) :
    LastTurn handlers observers step w (handlers.callsOf step) (.error e) (u.afterFailure step e)
  | finished {u : World δ σ} (hp : StepPasses handlers step w u) (hs : step = completeStep) :
    LastTurn handlers observers step w [step] (.ok ())
      (u.settled observers step w.state.errors.length).closed

/-- A run is a number of turns after which the loop goes on, and one last turn. -/
theorem Course.exists_lastTurn {handlers : Handlers δ σ} (hk : handlers.KeepCourse)
    {observers : List Observer} {l : List String} {w v : World δ σ} {r : Result Unit}
    (h : Course handlers observers l w r v) (hw : w.state.WellFormed)
    (hl : w.state.remaining = l) :
    ∃ n w' step called, w'.state.WellFormed ∧ Reaches handlers observers n w w' ∧
      l[n]? = some step ∧ LastTurn handlers observers step w' called r v ∧
      ∀ calls, Course handlers.noting observers l (w.withCalls calls) r
        (v.withCalls (calls ++ (l.take n ++ called))) := by
  induction h with
  | cancelled hc =>
    refine ⟨0, _, _, [], hw, .zero _ _ _, rfl, .cancelled hc, fun calls => ?_⟩
    rw [List.take_zero, List.append_nil, List.append_nil]
    exact .cancelled hc
  | failed hc hf =>
    refine ⟨0, _, _, _, hw, .zero _ _ _, rfl, .failed hf, fun calls => ?_⟩
    rw [List.take_zero, List.nil_append]
    refine .failed ?_ (hf.noting calls)
    exact hc
  | @finished step rest w u hc hp hs =>
    refine ⟨0, _, _, _, hw, .zero _ _ _, rfl, .finished hp hs, fun calls => ?_⟩
    rw [List.take_zero, List.nil_append]
    change Course _ _ _ _ _
      ((u.settled observers step w.state.errors.length).withCalls (calls ++ [step])).closed
    rw [← settled_withCalls]
    refine .finished ?_ (hp.noting calls) hs
    exact hc
  | @next step rest w u v r hc hp hs hr ih =>
    obtain ⟨hw', hl'⟩ := wellFormed_next hk hw hl hp hs observers _
    obtain ⟨n, w', last, called, hv, hn, hi, ht, hcalls⟩ := ih hw' hl'
    refine ⟨n + 1, w', last, called, hv, hn.next hk hw hl hc hp hs, hi, ht, fun calls => ?_⟩
    refine .next (u := u.withCalls (calls ++ [step])) ?_ (hp.noting calls) hs ?_
    · exact hc
    · rw [settled_withCalls, List.take_succ_cons, List.cons_append,
        List.append_cons calls step (rest.take n ++ called)]
      exact hcalls _

/-- A run completes the workflow, or is cancelled before the step at a position, or the step at a
position fails. -/
inductive Ending
  | finished
  | cancelled (j : Nat)
  | raised (j : Nat) (e : Failure)

/-- What an ending says of the run from `w` to `v`, where `m` is the first position whose step
completes the workflow and `calls` are the handlers that were called. A step that fails leaves one
more error than its handler did. -/
def Ending.Holds (handlers : Handlers δ σ) (observers : List Observer) (w v : World δ σ) (m : Nat)
    (r : Result Unit) (calls : List String) : Ending → Prop
  | .finished =>
    r = .ok () ∧ v.state.chain = m ∧
      v.state.completed = w.state.completed ++ w.state.between w.state.chain (m + 1) ∧
      calls = w.state.between w.state.chain (m + 1)
  | .cancelled j =>
    (w.state.chain ≤ j ∧ j ≤ m) ∧ r = .ok () ∧ v.state.cancelled = true ∧ v.state.chain = j ∧
      v.state.completed = w.state.completed ++ w.state.between w.state.chain j ∧
      calls = w.state.between w.state.chain j
  | .raised j e =>
    (w.state.chain ≤ j ∧ j ≤ m) ∧ r = .error e ∧ v.state.chain = j ∧
      v.state.completed = w.state.completed ++ w.state.between w.state.chain j ∧
      ∃ step w' u, w.state.steps[j]? = some step ∧
        perform (turns handlers observers (j - w.state.chain)) w.started = (.ok true, w') ∧
        StepFails handlers step w' e u ∧
        v.state = { u.state with
          errors := u.state.errors ++ [⟨"step_runtime", e.reason, some step⟩] } ∧
        calls = w.state.between w.state.chain j ++ handlers.callsOf step

theorem Ending.Holds.not_finished_cancelled {handlers : Handlers δ σ} {observers : List Observer}
    {w v : World δ σ} {m j : Nat} {r : Result Unit} {calls : List String}
    (hm : m < w.state.steps.length)
    (hf : Ending.finished.Holds handlers observers w v m r calls)
    (hc : (Ending.cancelled j).Holds handlers observers w v m r calls) : False := by
  obtain ⟨-, hchain, -, hcalls⟩ := hf
  obtain ⟨⟨hj, -⟩, -, -, hchain', -, hcalls'⟩ := hc
  have hl := congrArg List.length (hcalls.symm.trans hcalls')
  rw [length_between _ _ hm, length_between _ _ (by omega)] at hl
  omega

/-- No two endings hold of one run. -/
theorem Ending.Holds.eq {handlers : Handlers δ σ} {observers : List Observer} {w v : World δ σ}
    {m : Nat} {r : Result Unit} {calls : List String} (hm : m < w.state.steps.length)
    {x y : Ending} (hx : x.Holds handlers observers w v m r calls)
    (hy : y.Holds handlers observers w v m r calls) : x = y := by
  cases x with
  | finished =>
    cases y with
    | finished => rfl
    | cancelled j => exact (hx.not_finished_cancelled hm hy).elim
    | raised j e => exact nomatch hx.1.symm.trans hy.2.1
  | cancelled i =>
    cases y with
    | finished => exact (hy.not_finished_cancelled hm hx).elim
    | cancelled j => rw [hx.2.2.2.1.symm.trans hy.2.2.2.1]
    | raised j e => exact nomatch hx.2.1.symm.trans hy.2.1
  | raised i e =>
    cases y with
    | finished => exact nomatch hx.2.1.symm.trans hy.1
    | cancelled j => exact nomatch hx.2.1.symm.trans hy.2.1
    | raised j e' =>
      obtain rfl : i = j := hx.2.2.1.symm.trans hy.2.2.1
      cases hx.2.1.symm.trans hy.2.1
      rfl

theorem LastTurn.exists_ending {handlers : Handlers δ σ} (hk : handlers.KeepCourse)
    {observers : List Observer} {w w' v : World δ σ} {m n : Nat} {step : String}
    {called : List String} {r : Result Unit} (hw' : w'.state.WellFormed)
    (hm : w.state.FirstComplete m) (hn : Reaches handlers observers n w.started w')
    (hi : w.state.remaining[n]? = some step)
    (h : LastTurn handlers observers step w' called r v) :
    ∃ x : Ending, x.Holds handlers observers w v m r (w.state.remaining.take n ++ called) := by
  have hchain : w'.state.chain = w.state.chain + n := hn.chain
  have hdone : w'.state.completed = w.state.completed ++ w.state.remaining.take n := hn.completed
  have hbetween := between_add w.state n
  have hle : w.state.chain + n ≤ m := hm.le_of_notMem hn.incomplete
  have hbounds : w.state.chain ≤ w.state.chain + n ∧ w.state.chain + n ≤ m :=
    ⟨Nat.le_add_right _ _, hle⟩
  cases h with
  | cancelled hc =>
    refine ⟨.cancelled (w.state.chain + n), hbounds, rfl, hc, hchain, ?_, ?_⟩
    · rw [hbetween]
      exact hdone
    · rw [hbetween, List.append_nil]
  | failed hf =>
    have hu := hf.sameCourse hk hw'
    refine ⟨.raised (w.state.chain + n) _, hbounds, rfl, hu.chain.trans hchain, ?_, step, w', _,
      ?_, ?_, hf, rfl, ?_⟩
    · rw [hbetween]
      exact hu.completed.trans hdone
    · rw [← getElem?_remaining, hi]
    · rw [Nat.add_sub_cancel_left]
      exact hn.turns
    · rw [hbetween]
  | @finished u hp hs =>
    have hu := hp.sameCourse hk hw'
    obtain ⟨c, es, hsettled⟩ := settled_frame u observers step w'.state.errors.length
    obtain rfl : m = w.state.chain + n := hm.eq_of_complete hn.incomplete (hs ▸ hi)
    have hlast : w.state.between w.state.chain (w.state.chain + n + 1) =
        w.state.remaining.take n ++ [step] := by
      rw [Nat.add_assoc, between_add, List.take_add_one, hi]
      rfl
    refine ⟨.finished, rfl, ?_, ?_, hlast.symm⟩
    · rw [hsettled]
      exact hu.chain.trans hchain
    · rw [hsettled, hlast]
      change u.state.completed ++ [step] = _
      rw [hu.completed, hdone, List.append_assoc]

/-- Whatever the handlers and the observers do, within their bounds, a run comes to an end, and to
one ending only. -/
theorem execute_contract {handlers : Handlers δ σ} (hk : handlers.KeepCourse)
    (observers : List Observer) {w : World δ σ} (hw : w.state.check = .ok ()) :
    (∀ t : Table δ σ, (shippedHandlers t).KeepCourse) ∧
      ∃ m r v calls, w.state.FirstComplete m ∧
        perform (execute handlers observers) w = (r, v) ∧
        perform (execute handlers.noting observers) (w.withCalls []) = (r, v.withCalls calls) ∧
        (∀ n, w.state.remaining.length ≤ n →
          perform (turns handlers observers n) w.started = (r.map fun _ => false, v)) ∧
        ∃! x : Ending, x.Holds handlers observers w v m r calls := by
  have hwf : w.state.WellFormed := (check_eq_ok_iff w.state).mp hw
  obtain ⟨m, hm⟩ := exists_firstComplete hwf
  obtain ⟨r, v, hcourse⟩ := exists_course hk observers w.state.remaining w.started hwf rfl
  obtain ⟨n, w', step, called, hw', hn, hi, hlast, hnoted⟩ := hcourse.exists_lastTurn hk hwf rfl
  obtain ⟨x, hx⟩ := hlast.exists_ending (w := w) hk hw' hm hn hi
  refine ⟨shippedHandlers_keepCourse, m, r, v, _, hm, ?_, ?_, ?_, x, hx, ?_⟩
  · rw [perform_execute]
    exact hcourse.perform_eq hk hwf rfl
  · rw [perform_execute]
    exact (hnoted []).perform_eq hk.noting hwf rfl
  · exact fun n hl => hcourse.perform_turns hk hwf rfl hl
  · exact fun y hy => hy.eq hm.lt_length hx

/-- Handlers that do nothing, the second of which does not even hand the state back. -/
def idleHandlers : Handlers Unit Unit :=
  [("start", (return .handedBack : RunM Unit Unit Reply)),
    ("attack", (return .nothing : RunM Unit Unit Reply))]

def idleWorld : World Unit Unit where
  state := {
    workflow := "attack"
    steps := ["start", "attack", "complete"]
    dialog := { actorId := "hero" } }
  dice := ()
  source := ()

theorem idleHandlers_keepCourse : idleHandlers.KeepCourse := by
  intro e he w hw
  simp only [idleHandlers, List.mem_cons, List.not_mem_nil, or_false] at he
  rcases he with rfl | rfl <;> exact .refl _

theorem execute_contract_idle :
    idleHandlers.KeepCourse ∧ idleWorld.state.check = .ok () ∧
      ∃ m r v calls, idleWorld.state.FirstComplete m ∧
        perform (execute idleHandlers []) idleWorld = (r, v) ∧
        perform (execute idleHandlers.noting []) (idleWorld.withCalls []) =
          (r, v.withCalls calls) ∧
        ∃! x : Ending, x.Holds idleHandlers [] idleWorld v m r calls := by
  have hw : idleWorld.state.check = .ok () := by rfl
  obtain ⟨-, m, r, v, calls, hm, hr, hcalls, -, hx⟩ :=
    execute_contract idleHandlers_keepCourse [] hw
  exact ⟨idleHandlers_keepCourse, hw, m, r, v, calls, hm, hr, hcalls, hx⟩

end Encounter.Run
