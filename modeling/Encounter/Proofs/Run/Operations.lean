import Encounter.Proofs.Result
import Encounter.Proofs.Run.WellFormed

namespace Encounter

theorem Verdict.map_eq_accepted {α β : Type} {x : Verdict α} {f : α → β} {b : β}
    (h : x.map f = .accepted b) : ∃ a, x = .accepted a ∧ f a = b := by
  cases x with
  | accepted a =>
    cases h
    exact ⟨a, rfl, rfl⟩
  | rejected ps => cases h
  | broken e => cases h

theorem Schema.of_assign_ok {α : Type} {a b : α} {computed : List String} {field : String}
    {read : Verdict α} (h : Schema.assign a computed field read = .ok b) :
    field.startsWith "_" = true ∨ read = .accepted b := by
  unfold Schema.assign at h
  split at h
  · exact .inl ‹_›
  split at h
  · cases h
  · cases read with
    | accepted c =>
      cases h
      exact .inr rfl
    | rejected ps => cases h
    | broken e => cases h

namespace Run.ActionState

/-- A state as a caller first gets it, for a named workflow or from all its fields. -/
inductive Constructed : ActionState → Prop
  | created {w : Workflow} {d : Dialog} {s : ActionState} : create w d = .ok s → Constructed s
  | fromFields {d : Dialog} {fs : Schema.Fields} {s : ActionState} :
      ActionState.read d fs = .ok s → Constructed s

/-- What a caller can do with a state. The parts of an error come as the caller gives them. -/
inductive Operation
  | next
  | cancel
  | addError (kind message step : Value)
  | recordRoll (r : RollRecord)
  | outcomeFor (t : Target)
  | assign (field : String) (v : Value)

def Step.plain {α : Type} (x : Step α) : Step Unit := (x.1.map fun _ => (), x.2)

def Operation.act : Operation → ActionState → Step Unit
  | next, s => s.nextStep.plain
  | cancel, s => s.cancel
  | addError kind message step, s =>
    match ErrorEntry.given kind message step with
    | .ok e => s.addError e
    | .error e => (.error e, s)
  | recordRoll r, s => s.recordRoll r
  | outcomeFor t, s => (s.outcomeFor t).plain
  | assign field v, s => s.assign field v

def after (s : ActionState) (ops : List Operation) : ActionState :=
  ops.foldl (fun s op => (op.act s).2) s

/-- The check passes, and the step at the position can be read, and gone on from. -/
structure Usable (s : ActionState) : Prop where
  wellFormed : s.WellFormed
  currentStep : ∃ step, s.currentStep = .ok step
  isComplete : ∃ b, s.isComplete = .ok b
  nextStep : ∃ step, s.nextStep.1 = .ok step

/-- An operation leaves a usable state, and the same one if it fails. -/
structure Operation.Clean (op : Operation) (s : ActionState) : Prop where
  usable : (op.act s).2.Usable
  unchanged : ∀ e, (op.act s).1 = .error e → (op.act s).2 = s

/-- A value that the schema accepts for the steps or for the position, but that is no workflow, or
does not fit the other one of the two. -/
def Strays (s : ActionState) : Operation → Prop
  | .assign field v =>
    (field = "workflow_steps" ∧ ∃ steps, Schema.list Schema.text v = .accepted steps ∧
      (steps.length < leastSteps ∨ steps.getLast? ≠ some completeStep ∨
        steps.length ≤ s.chain)) ∨
    (field = "chain_number" ∧ ∃ n, Schema.integerFrom 0 v = .accepted n ∧
      s.steps.length ≤ n.toNat)
  | _ => False

theorem wellFormed_of_check {s t : ActionState} (h : (s.check >>= fun _ => .ok s) = .ok t) :
    t.WellFormed := by
  obtain ⟨⟨⟩, hs, h⟩ := Result.bind_eq_ok h
  cases h
  exact (check_eq_ok_iff s).mp hs

theorem Constructed.wellFormed {s : ActionState} (h : Constructed s) : s.WellFormed := by
  cases h with
  | created h =>
    obtain ⟨_, -, h⟩ := Result.bind_eq_ok h
    exact wellFormed_of_check h
  | fromFields h =>
    obtain ⟨_, -, h⟩ := Result.bind_eq_ok h
    exact wellFormed_of_check h

theorem WellFormed.currentStep {s : ActionState} (h : s.WellFormed) :
    ∃ step, s.currentStep = .ok step := by
  refine ⟨s.steps.get ⟨s.chain, h.position⟩, ?_⟩
  rw [ActionState.currentStep, List.getElem?_eq_getElem h.position]
  rfl

theorem nextStep_of_more {s : ActionState} (h : s.hasMoreSteps = true) :
    s.nextStep = (s.advanced.check >>= fun _ => s.advanced.currentStep, s.advanced) := by
  rw [nextStep, if_pos h]
  rfl

theorem WellFormed.advanced_of_more {s : ActionState} (h : s.WellFormed)
    (hm : s.hasMoreSteps = true) : s.advanced.WellFormed where
  length := h.length
  last := h.last
  position := of_decide_eq_true hm

theorem WellFormed.usable {s : ActionState} (h : s.WellFormed) : s.Usable where
  wellFormed := h
  currentStep := h.currentStep
  isComplete := by
    obtain ⟨step, hs⟩ := h.currentStep
    exact ⟨step == completeStep, by rw [ActionState.isComplete, hs]; rfl⟩
  nextStep := by
    cases hm : s.hasMoreSteps with
    | true =>
      have ha := h.advanced_of_more hm
      obtain ⟨step, hs⟩ := ha.currentStep
      exact ⟨step, by rw [nextStep_of_more hm, ha.check, hs]; rfl⟩
    | false =>
      obtain ⟨step, hs⟩ := h.currentStep
      exact ⟨step, by rw [ActionState.nextStep, hm]; exact hs⟩

/-- An operation changes nothing, or it succeeds just if the state that it leaves passes the
check. -/
theorem Operation.act_cases (op : Operation) (s : ActionState) :
    (op.act s).2 = s ∨ (op.act s).1 = (op.act s).2.check := by
  cases op with
  | next =>
    cases hm : s.hasMoreSteps with
    | true =>
      right
      rw [act, nextStep_of_more hm]
      change (s.advanced.check >>= fun _ => s.advanced.currentStep).map (fun _ => ()) =
        s.advanced.check
      cases hc : s.advanced.check with
      | error e => rfl
      | ok =>
        obtain ⟨step, hs⟩ := ((check_eq_ok_iff _).mp hc).currentStep
        rw [hs]
        rfl
    | false =>
      left
      simp [act, nextStep, hm, Step.plain]
  | cancel => exact .inr rfl
  | addError kind message step =>
    rw [act]
    split
    · exact .inr rfl
    · exact .inl rfl
  | recordRoll r => exact .inr rfl
  | outcomeFor t =>
    rw [act, ActionState.outcomeFor]
    split
    · exact .inl rfl
    · right
      change ((s.setOutcome _ _).check.map _).map _ = (s.setOutcome _ _).check
      cases (s.setOutcome t.id (.ofTarget t)).check <;> rfl
  | assign field v =>
    rw [act, ActionState.assign]
    split
    · split
      · exact .inl rfl
      · exact .inr rfl
    · exact .inl rfl

theorem readField_cases {s t : ActionState} {v : Value} {field : String}
    (h : s.readField v field = .accepted t) :
    (field = "workflow_steps" ∧
      ∃ steps, Schema.list Schema.text v = .accepted steps ∧ { s with steps } = t) ∨
    (field = "chain_number" ∧
      ∃ n, Schema.integerFrom 0 v = .accepted n ∧ { s with chain := n.toNat } = t) ∨
    (t.steps = s.steps ∧ t.chain = s.chain) := by
  unfold readField at h
  split at h
  case h_3 => exact .inl ⟨rfl, Verdict.map_eq_accepted h⟩
  case h_4 => exact .inr (.inl ⟨rfl, Verdict.map_eq_accepted h⟩)
  case h_19 => cases h
  all_goals
    obtain ⟨x, -, rfl⟩ := Verdict.map_eq_accepted h
    exact .inr (.inr ⟨rfl, rfl⟩)

theorem assign_of_accepted {s t : ActionState} {v : Value} {field : String}
    (hf : field.startsWith "_" = false) (hc : (Schema.ownNames ++ computed).contains field = false)
    (h : s.readField v field = .accepted t) : s.assign field v = (t.check, t) := by
  have ha : Schema.assign s computed field (s.readField v field) = .ok t := by
    rw [Schema.assign, hf, hc, h]
    rfl
  rw [assign, ha, hf]
  rfl

theorem not_wellFormed_steps {s : ActionState} {steps : List String}
    (h : steps.length < leastSteps ∨ steps.getLast? ≠ some completeStep ∨ steps.length ≤ s.chain) :
    ¬ ({ s with steps } : ActionState).WellFormed := by
  intro hw
  have hl : leastSteps ≤ steps.length := hw.length
  have hp : s.chain < steps.length := hw.position
  obtain h | h | h := h
  · omega
  · exact h hw.last
  · omega

theorem Strays.act {s : ActionState} {op : Operation} (h : Strays s op) :
    (op.act s).1 = (op.act s).2.check ∧ ¬ (op.act s).2.WellFormed := by
  cases op with
  | assign field v =>
    obtain ⟨rfl, steps, hv, hn⟩ | ⟨rfl, n, hv, hn⟩ := h
    · have hr : s.readField v "workflow_steps" = .accepted { s with steps } := by
        change (Schema.list Schema.text v).map _ = _
        rw [hv]
        rfl
      rw [Operation.act, assign_of_accepted (by simp) (by decide) hr]
      exact ⟨rfl, not_wellFormed_steps hn⟩
    · have hr : s.readField v "chain_number" = .accepted { s with chain := n.toNat } := by
        change (Schema.integerFrom 0 v).map _ = _
        rw [hv]
        rfl
      rw [Operation.act, assign_of_accepted (by simp) (by decide) hr]
      exact ⟨rfl, fun hw => Nat.not_lt.mpr hn hw.position⟩
  | _ => exact h.elim

theorem WellFormed.readField {s t : ActionState} (h : s.WellFormed) {field : String} {v : Value}
    (hr : s.readField v field = .accepted t) (hn : ¬ Strays s (.assign field v)) :
    t.WellFormed := by
  obtain ⟨rfl, steps, hv, rfl⟩ | ⟨rfl, n, hv, rfl⟩ | ⟨hs, hc⟩ := readField_cases hr
  · have hfit := fun hc => hn (.inl ⟨rfl, steps, hv, hc⟩)
    refine ⟨Nat.le_of_not_lt fun hl => hfit (.inl hl), ?_,
      Nat.lt_of_not_le fun hp => hfit (.inr (.inr hp))⟩
    exact Decidable.byContradiction fun hl => hfit (.inr (.inl hl))
  · exact ⟨h.length, h.last, Nat.lt_of_not_le fun hle => hn (.inr ⟨rfl, n, hv, hle⟩)⟩
  · exact h.of_steps hs hc

theorem WellFormed.act {s : ActionState} (h : s.WellFormed) {op : Operation}
    (hn : ¬ Strays s op) : (op.act s).2.WellFormed := by
  cases op with
  | next =>
    cases hm : s.hasMoreSteps with
    | true =>
      rw [Operation.act, nextStep_of_more hm]
      exact h.advanced_of_more hm
    | false =>
      rw [Operation.act, nextStep, hm]
      exact h
  | cancel => exact h.stopped
  | addError kind message step =>
    rw [Operation.act]
    split
    · exact h.withError _
    · exact h
  | recordRoll r => exact h.of_steps rfl rfl
  | outcomeFor t =>
    rw [Operation.act, ActionState.outcomeFor]
    split
    · exact h
    · exact h.of_steps rfl rfl
  | assign field v =>
    rw [Operation.act, ActionState.assign]
    split
    · rename_i t ha
      obtain hf | hr := Schema.of_assign_ok ha
      · rw [if_pos hf]
        exact h
      · split
        · exact h
        · exact h.readField hr hn
    · exact h

theorem WellFormed.clean_iff {s : ActionState} (h : s.WellFormed) (op : Operation) :
    op.Clean s ↔ ¬ Strays s op := by
  constructor
  · exact fun hc hs => hs.act.2 hc.usable.wellFormed
  · intro hn
    have hw := h.act hn
    refine ⟨hw.usable, fun e he => ?_⟩
    obtain hs | hs := op.act_cases s
    · exact hs
    · rw [hw.check, he] at hs
      cases hs

/-- Each operation in turn has a property, in the state that the ones before it leave. -/
def Throughout (p : Operation → ActionState → Prop) (s : ActionState) (ops : List Operation) :
    Prop :=
  ∀ done op rest, ops = done ++ op :: rest → p op (s.after done)

theorem throughout_nil (p : Operation → ActionState → Prop) (s : ActionState) :
    Throughout p s [] := by
  intro done op rest h
  exact absurd h.symm (List.append_ne_nil_of_right_ne_nil _ (List.cons_ne_nil _ _))

theorem throughout_cons {p : Operation → ActionState → Prop} {s : ActionState} {op : Operation}
    {ops : List Operation} :
    Throughout p s (op :: ops) ↔ p op s ∧ Throughout p (op.act s).2 ops := by
  constructor
  · intro h
    exact ⟨h [] op ops rfl, fun done op' rest ho => h (op :: done) op' rest (ho ▸ rfl)⟩
  · rintro ⟨hop, h⟩ done op' rest ho
    cases done with
    | nil =>
      cases ho
      exact hop
    | cons first done =>
      cases ho
      exact h done op' rest rfl

theorem WellFormed.throughout_clean_iff {s : ActionState} (h : s.WellFormed)
    (ops : List Operation) :
    Throughout Operation.Clean s ops ↔ Throughout (fun op s => ¬ Strays s op) s ops := by
  induction ops generalizing s with
  | nil => exact iff_of_true (throughout_nil _ s) (throughout_nil _ s)
  | cons op ops ih =>
    -- what does not stray leaves a well-formed state, from which the others go on
    rw [throughout_cons, throughout_cons, h.clean_iff op]
    exact and_congr_right fun hn => ih (h.act hn)

theorem WellFormed.after {s : ActionState} (h : s.WellFormed) {ops : List Operation}
    (hn : Throughout (fun op s => ¬ Strays s op) s ops) : (s.after ops).WellFormed := by
  induction ops generalizing s with
  | nil => exact h
  | cons op ops ih =>
    obtain ⟨hop, hn⟩ := throughout_cons.mp hn
    exact ih (h.act hop) hn

theorem fault_of_check {s : ActionState} (h : ¬ s.WellFormed) :
    ∃ f, s.check = .error (.fault f) ∧ f.kind = .workflowConfiguration := by
  rw [← check_eq_ok_iff] at h
  unfold check at h ⊢
  split
  · exact ⟨_, rfl, rfl⟩
  split
  · exact ⟨_, rfl, rfl⟩
  split
  · exact ⟨_, rfl, rfl⟩
  · simp_all

/-- The operations on a new state are all clean just if no assigned value strays. One that strays
is reported, and stays. -/
theorem throughout_clean_constructed {s : ActionState} (hs : Constructed s)
    (ops : List Operation) :
    s.Usable ∧
      (Throughout Operation.Clean s ops ↔ Throughout (fun op s => ¬ Strays s op) s ops) ∧
      (Throughout Operation.Clean s ops → ∀ op, Strays (s.after ops) op →
        (s.after ops).WellFormed ∧ ¬ (op.act (s.after ops)).2.WellFormed ∧
        ∃ f, (op.act (s.after ops)).1 = .error (.fault f) ∧ f.kind = .workflowConfiguration) := by
  have hw := hs.wellFormed
  refine ⟨hw.usable, hw.throughout_clean_iff ops, fun hc op hop => ?_⟩
  obtain ⟨hcheck, hn⟩ := hop.act
  refine ⟨hw.after ((hw.throughout_clean_iff ops).mp hc), hn, ?_⟩
  rw [hcheck]
  exact fault_of_check hn

def attackState : ActionState where
  workflow := "attack"
  steps := ["start", "attack", "complete"]
  dialog := { actorId := "hero" }

theorem create_attackState :
    create ⟨"attack", ["start", "attack", "complete"]⟩ { actorId := "hero" } = .ok attackState :=
  rfl

/-- The last position is reached at once, and a value that is no flag is refused. -/
theorem throughout_clean_attack :
    Throughout Operation.Clean attackState
      [.assign "chain_number" (.int 2), .next, .assign "cancelled" (.text "maybe")] := by
  refine (throughout_clean_constructed (.created create_attackState) _).2.1.mpr ?_
  refine throughout_cons.mpr ⟨?_, throughout_cons.mpr ⟨id, throughout_cons.mpr
    ⟨?_, throughout_nil _ _⟩⟩⟩
  · rintro (⟨hf, -⟩ | ⟨-, n, hv, hn⟩)
    · exact absurd hf (by decide)
    · cases hv
      exact absurd hn (by decide)
  · rintro (⟨hf, -⟩ | ⟨hf, -⟩)
    · exact absurd hf (by decide)
    · exact absurd hf (by decide)

/-- A position past the end is reported, but stays, and no step can be read any more. -/
theorem attack_keeps_position_past_end :
    Constructed attackState ∧
      ¬ Throughout Operation.Clean attackState [.assign "chain_number" (.int 3)] ∧
      (Operation.act (.assign "chain_number" (.int 3)) attackState).2.chain = 3 ∧
      (∃ f, (Operation.act (.assign "chain_number" (.int 3)) attackState).1 = .error (.fault f) ∧
        f.kind = .workflowConfiguration) ∧
      (Operation.act (.assign "chain_number" (.int 3)) attackState).2.currentStep =
        .error .pastEnd := by
  have hstray : Strays attackState (.assign "chain_number" (.int 3)) :=
    .inr ⟨rfl, 3, rfl, by decide⟩
  have hr : attackState.readField (.int 3) "chain_number" =
      .accepted { attackState with chain := 3 } := rfl
  have hact : Operation.act (.assign "chain_number" (.int 3)) attackState =
      (({ attackState with chain := 3 } : ActionState).check, { attackState with chain := 3 }) :=
    assign_of_accepted (by simp) (by decide) hr
  refine ⟨.created create_attackState, fun h => ?_, ?_, ?_, ?_⟩
  · exact hstray.act.2 (throughout_cons.mp h).1.usable.wellFormed
  · rw [hact]
  · rw [hstray.act.1]
    exact fault_of_check hstray.act.2
  · rw [hact]
    rfl

end Run.ActionState
end Encounter
