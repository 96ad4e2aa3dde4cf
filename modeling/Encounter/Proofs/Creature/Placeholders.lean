import Encounter.Run.State
import Encounter.Proofs.Result

namespace Encounter

theorem Target.isLive_iff (t : Target) : t.isLive = true ↔ ¬ t.isPlaceholder = true := by
  cases h : t.error <;> simp [isLive, isPlaceholder, h]

/-- An id that is looked up, and the answer of the source. A source may answer one id in different
ways as it goes on. -/
abbrev Answer := String × Result (Option Target)

namespace Lookup

def settle (step : Option String) (qs : List Answer) : List Lookup :=
  qs.map fun q => ofAnswer q.1 step q.2

def targets (found : List Lookup) : List Target := found.map (·.target)

def errors (found : List Lookup) : List ErrorEntry := found.filterMap (·.error)

end Lookup

namespace Answer

def live? (q : Answer) : Option Target :=
  match q.2 with
  | .ok (some t) => if t.isLive then some t else none
  | _ => none

def unflagged (q : Answer) : Bool :=
  match q.2 with
  | .ok (some t) => t.error == some ""
  | _ => false

end Answer

/-- What each answer becomes: the targets and the error entries in its order. Answers whose
placeholder has no entry are listed apart. -/
inductive Accounted (step : Option String) :
    List Answer → List Target → List ErrorEntry → List Answer → Prop
  | nil : Accounted step [] [] [] []
  | live {id : String} {t : Target} {qs ts es lost} (ht : t.isLive = true)
      (hrest : Accounted step qs ts es lost) :
      Accounted step ((id, .ok (some t)) :: qs) (t :: ts) es lost
  | missing {q : Answer} {t : Target} {e : ErrorEntry} {qs ts es lost}
      (hq : q.2 = .ok none ∨ ∃ t', q.2 = .ok (some t') ∧ t'.isPlaceholder = true)
      (ht : t.isPlaceholder = true) (hid : t.id = q.1) (hkind : e.kind = "target_missing")
      (hstep : e.step = step) (hrest : Accounted step qs ts es lost) :
      Accounted step (q :: qs) (t :: ts) (e :: es) lost
  | failed {q : Answer} {f : Failure} {t : Target} {e : ErrorEntry} {qs ts es lost}
      (hq : q.2 = .error f) (ht : t.isPlaceholder = true) (hid : t.id = q.1)
      (hkind : e.kind = "target_error") (hstep : e.step = step)
      (hrest : Accounted step qs ts es lost) : Accounted step (q :: qs) (t :: ts) (e :: es) lost
  | unflagged {id : String} {t : Target} {qs ts es lost} (ht : t.error = some "")
      (hrest : Accounted step qs ts es lost) :
      Accounted step ((id, .ok (some t)) :: qs) (t :: ts) es ((id, .ok (some t)) :: lost)

namespace Accounted

variable {step : Option String} {qs lost : List Answer} {ts : List Target} {es : List ErrorEntry}

theorem length_eq (h : Accounted step qs ts es lost) : ts.length = qs.length := by
  induction h with
  | nil => rfl
  | live ht hrest ih => simp only [List.length_cons, ih]
  | missing hq ht hid hkind hstep hrest ih => simp only [List.length_cons, ih]
  | failed hq ht hid hkind hstep hrest ih => simp only [List.length_cons, ih]
  | unflagged ht hrest ih => simp only [List.length_cons, ih]

theorem countP_isPlaceholder (h : Accounted step qs ts es lost) :
    ts.countP (·.isPlaceholder) = es.length + lost.length := by
  induction h with
  | nil => rfl
  | live ht hrest ih => rw [List.countP_cons_of_neg ((Target.isLive_iff _).mp ht), ih]
  | missing hq ht hid hkind hstep hrest ih =>
    rw [List.countP_cons_of_pos ht, ih, List.length_cons]
    omega
  | failed hq ht hid hkind hstep hrest ih =>
    rw [List.countP_cons_of_pos ht, ih, List.length_cons]
    omega
  | @unflagged id t qs ts es lost ht hrest ih =>
    have hp : t.isPlaceholder = true := by simp [Target.isPlaceholder, ht]
    rw [List.countP_cons_of_pos hp, ih, List.length_cons]
    omega

theorem filter_isLive (h : Accounted step qs ts es lost) :
    ts.filter (·.isLive) = qs.filterMap Answer.live? := by
  have hidden {t : Target} (h : t.isPlaceholder = true) : t.isLive = false :=
    Bool.eq_false_iff.mpr fun hlive => t.isLive_iff.mp hlive h
  induction h with
  | nil => rfl
  | @live id t qs ts es lost ht hrest ih =>
    have hq : Answer.live? (id, .ok (some t)) = some t := if_pos ht
    rw [List.filter_cons_of_pos ht, List.filterMap_cons_some hq, ih]
  | @missing q t e qs ts es lost hq ht hid hkind hstep hrest ih =>
    have hq : Answer.live? q = none := by
      obtain hq | ⟨t', hq, ht'⟩ := hq
      · simp [Answer.live?, hq]
      · simp [Answer.live?, hq, hidden ht']
    rw [List.filter_cons_of_neg (by simp [hidden ht]), List.filterMap_cons_none hq, ih]
  | @failed q f t e qs ts es lost hq ht hid hkind hstep hrest ih =>
    have hq : Answer.live? q = none := by simp [Answer.live?, hq]
    rw [List.filter_cons_of_neg (by simp [hidden ht]), List.filterMap_cons_none hq, ih]
  | @unflagged id t qs ts es lost ht hrest ih =>
    have hlive : t.isLive = false := by simp [Target.isLive, ht]
    have hq : Answer.live? (id, .ok (some t)) = none := by simp [Answer.live?, hlive]
    rw [List.filter_cons_of_neg (by simp [hlive]), List.filterMap_cons_none hq, ih]

end Accounted

section Settle

open Lookup

theorem ofAnswer_flagged {t : Target} {reason : String} (ht : t.error = some reason)
    (hr : reason ≠ "") (id : String) (step : Option String) :
    ofAnswer id step (.ok (some t)) = missing id reason step := by
  simp only [ofAnswer, ht, String.isEmpty_iff, hr, if_false]

theorem ofAnswer_unflagged {t : Target} (ht : ∀ reason, t.error = some reason → reason = "")
    (id : String) (step : Option String) : ofAnswer id step (.ok (some t)) = { target := t } := by
  cases h : t.error with
  | none => simp only [ofAnswer, h]
  | some reason => simp [ofAnswer, h, ht reason h]

theorem accounted_settle (step : Option String) (qs : List Answer) :
    Accounted step qs (targets (settle step qs)) (errors (settle step qs))
      (qs.filter Answer.unflagged) := by
  induction qs with
  | nil => exact .nil
  | cons q qs ih =>
    obtain ⟨id, f | _ | t⟩ := q
    · rw [List.filter_cons_of_neg (by simp [Answer.unflagged])]
      exact .failed rfl rfl rfl rfl rfl ih
    · rw [List.filter_cons_of_neg (by simp [Answer.unflagged])]
      exact .missing (.inl rfl) rfl rfl rfl rfl ih
    · rw [settle, List.map_cons]
      by_cases hlive : t.error = none
      · rw [ofAnswer_unflagged (by simp [hlive]),
          List.filter_cons_of_neg (by simp [Answer.unflagged, hlive])]
        exact .live (by simp [Target.isLive, hlive]) ih
      · obtain ⟨reason, hreason⟩ := Option.ne_none_iff_exists'.mp hlive
        by_cases hr : reason = ""
        · subst hr
          rw [ofAnswer_unflagged (by simp [hreason]),
            List.filter_cons_of_pos (by simp [Answer.unflagged, hreason])]
          exact .unflagged hreason ih
        · rw [ofAnswer_flagged hreason hr,
            List.filter_cons_of_neg (by simp [Answer.unflagged, hreason, hr])]
          exact .missing (.inr ⟨t, rfl, by simp [Target.isPlaceholder, hreason]⟩) rfl rfl rfl rfl ih

theorem ofAnswer_step (id : String) (step : Option String) (a : Result (Option Target)) :
    ofAnswer id step a = { ofAnswer id none a with
      error := (ofAnswer id none a).error.map fun e => { e with step } } := by
  rcases a with f | _ | t
  · rfl
  · rfl
  · by_cases h : ∀ reason, t.error = some reason → reason = ""
    · rw [ofAnswer_unflagged h, ofAnswer_unflagged h]
      rfl
    · push Not at h
      obtain ⟨reason, ht, hr⟩ := h
      rw [ofAnswer_flagged ht hr, ofAnswer_flagged ht hr]
      rfl

theorem lookUpGiven_of_texts {vs : List Value} {ids : List String} {v : Value}
    {step : Option String} (find : String → Result (Option Target))
    (hids : List.Forall₂ (fun v id => Schema.text v = .accepted id) vs ids)
    (hstep : Schema.nullable Schema.text v = .accepted step) :
    lookUpGiven find vs v = .ok (lookUp find ids step) := by
  apply Result.mapM_of_forall₂
  apply hids.imp
  intro v' id hid
  have hread : ((Schema.text v').under "id").result = .ok id := by rw [hid]; rfl
  have hwritten : ((Schema.nullable Schema.text v).under "step").result = .ok step := by
    rw [hstep]; rfl
  rw [hread, hwritten, ofAnswer_step id step]
  simp only [bind, Except.bind]
  rcases ofAnswer id none (find id) with ⟨target, _ | e, event⟩
  · rfl
  · rfl

theorem lookUp_eq_settle (find : String → Result (Option Target)) (ids : List String)
    (step : Option String) :
    lookUp find ids step = settle step (ids.map fun id => (id, find id)) := by
  rw [settle, List.map_map]
  rfl

end Settle

/-- What becomes of the targets of an action. The exact condition under which each placeholder has
its entry is that no answer has an empty error text. -/
structure LookedUp (step : Option String) (qs : List Answer) (ts : List Target)
    (es : List ErrorEntry) : Prop where
  accounted : Accounted step qs ts es (qs.filter Answer.unflagged)
  length : ts.length = qs.length
  complete : Accounted step qs ts es [] ↔ ∀ q ∈ qs, q.unflagged = false
  counted : ts.countP (·.isPlaceholder) = es.length + qs.countP Answer.unflagged
  live : ∀ s : Run.ActionState,
    ({ s with targets := ts } : Run.ActionState).liveTargets = qs.filterMap Answer.live?

theorem Accounted.lookedUp {step : Option String} {qs : List Answer} {ts : List Target}
    {es : List ErrorEntry} (h : Accounted step qs ts es (qs.filter Answer.unflagged)) :
    LookedUp step qs ts es where
  accounted := h
  length := h.length_eq
  complete := by
    have hcount := h.countP_isPlaceholder
    constructor
    · intro hall
      have hnone := hall.countP_isPlaceholder
      rw [hcount, List.length_nil, Nat.add_left_cancel_iff, List.length_eq_zero_iff,
        List.filter_eq_nil_iff] at hnone
      intro q hq
      exact Bool.eq_false_iff.mpr (hnone q hq)
    · intro hall
      have hnone : qs.filter Answer.unflagged = [] := by
        apply List.filter_eq_nil_iff.mpr
        intro q hq
        simp [hall q hq]
      rwa [hnone] at h
  counted := by rw [h.countP_isPlaceholder, List.countP_eq_length_filter]
  live _ := h.filter_isLive

/-- The look-up of targets never fails, and answers every id. A placeholder is left without an
entry exactly where the source answers with an empty error text. -/
theorem lookUp_accounted (step : Option String) :
    (∀ find ids vs v, List.Forall₂ (fun v id => Schema.text v = .accepted id) vs ids →
      Schema.nullable Schema.text v = .accepted step →
        lookUpGiven find vs v = .ok (lookUp find ids step)) ∧
    (∀ find ids, lookUp find ids step = Lookup.settle step (ids.map fun id => (id, find id))) ∧
    ∀ qs, LookedUp step qs (Lookup.targets (Lookup.settle step qs))
      (Lookup.errors (Lookup.settle step qs)) := by
  refine ⟨?_, ?_, ?_⟩
  · intro find ids vs v hids hstep
    exact lookUpGiven_of_texts find hids hstep
  · intro find ids
    exact lookUp_eq_settle find ids step
  · intro qs
    exact (accounted_settle step qs).lookedUp

def haunted (id : String) : Result (Option Target) :=
  (Roster.source.disturbed [] [("ghost", .text "")]).target id
    (Roster.ofActors [{ id := "goblin", hitPoints := some 7 }])

/-- The ghost is a placeholder, but no entry says so. -/
theorem haunted_unaccounted :
    let found := lookUp haunted ["goblin", "ghost"] (some "start")
    ¬ Accounted (some "start") [("goblin", haunted "goblin"), ("ghost", haunted "ghost")]
        (Lookup.targets found) (Lookup.errors found) [] ∧
      (Lookup.targets found).countP (·.isPlaceholder) = 1 ∧ Lookup.errors found = [] := by
  intro found
  have hplaceholders : (Lookup.targets found).countP (·.isPlaceholder) = 1 := by decide
  have herrors : Lookup.errors found = [] := by decide
  refine ⟨?_, hplaceholders, herrors⟩
  intro h
  have hcount := h.countP_isPlaceholder
  rw [hplaceholders, herrors] at hcount
  cases hcount

end Encounter
