import Encounter.Proofs.Feature.Registrations
import Encounter.Proofs.Feature.Verdicts
import Encounter.Proofs.Run.Refusals

namespace Encounter.Run.Start

open ActionState

variable {δ σ : Type} {a : Actor} {d : Dialog} {seen : List String} {fs : List (String × Feature)}

/-- All features can be asked just if the data of each can be read. One that refused before is not
asked again, but its data were read. -/
theorem failure_poll_eq_none_iff (hseen : ∀ x ∈ fs, x.2.id ∈ seen → x.2.Readable a (some d)) :
    (poll a d seen fs).failure = none ↔ ∀ x ∈ fs, x.2.Readable a (some d) := by
  induction fs generalizing seen with
  | nil => simp [poll]
  | cons x rest ih =>
    obtain ⟨ty, f⟩ := x
    obtain ⟨hf, hrest⟩ := List.forall_mem_cons.mp hseen
    rw [List.forall_mem_cons, poll]
    split
    · rename_i hs
      rw [ih hrest]
      exact (and_iff_right (hf (by simpa using hs))).symm
    · have hconsults := f.consults a ty (some d) (some stepId)
      by_cases hread : f.Readable a (some d)
      · rw [and_iff_right hread]
        obtain ⟨c, reason, events, -, hconsult, -⟩ := hconsults.readable hread
        rw [hconsult]
        cases reason with
        | none => exact ih hrest
        | some reason =>
          refine ih fun y hy hid => ?_
          obtain hid | hid := List.mem_append.mp hid
          · exact hrest y hy hid
          · exact hread.of_id (List.mem_singleton.mp hid)
      · obtain ⟨kind, hconsult⟩ := hconsults.unreadable hread
        rw [hconsult]
        exact iff_of_false (Option.some_ne_none _) fun h => hread h.1

theorem exists_problem_of_failure {e : Failure} (h : (poll a d seen fs).failure = some e) :
    ∃ kind, e = .rejected [⟨["enabled"], kind⟩] := by
  induction fs generalizing seen with
  | nil => cases h
  | cons x rest ih =>
    obtain ⟨ty, f⟩ := x
    rw [poll] at h
    split at h
    · exact ih h
    · have hconsults := f.consults a ty (some d) (some stepId)
      by_cases hread : f.Readable a (some d)
      · obtain ⟨c, reason, events, -, hconsult, -⟩ := hconsults.readable hread
        rw [hconsult] at h
        cases reason with
        | none => exact ih h
        | some reason => exact ih h
      · obtain ⟨kind, hconsult⟩ := hconsults.unreadable hread
        rw [hconsult] at h
        cases h
        exact ⟨kind, rfl⟩

theorem not_allows_of_refuses {f : Feature} {dialogType : String}
    (h : f.Refuses a dialogType (some d) (some stepId)) :
    ¬ f.Allows a dialogType (some d) (some stepId) := by
  obtain ⟨c, hc, hfalse⟩ := h
  rintro ⟨c', hc', htrue⟩
  obtain rfl := Except.ok.inj (hc.symm.trans hc')
  exact hfalse htrue

/-- Whom the step asks: the features for a kind of action that the workflow takes, if the actor has
them. -/
def IsAsked (t : Table δ σ) (s : ActionState) (a : Actor) (ty : String) (f : Feature) : Prop :=
  ty ∈ dialogTypes s ∧ f ∈ t.registry.features ∧ f.affectsDialog ty = true ∧ f.GrantedTo a

theorem mem_candidates_iff {t : Table δ σ} (hr : Registry.Distinct t.registry.features)
    {s : ActionState} {a : Actor} {ty : String} {f : Feature} :
    (ty, f) ∈ candidates t.registry a (dialogTypes s) ↔ IsAsked t s a ty f := by
  rw [candidates, IsAsked, List.mem_flatMap]
  constructor
  · rintro ⟨ty', hty, hf⟩
    obtain ⟨g, hg, heq⟩ := List.mem_map.mp hf
    cases heq
    exact ⟨hty, ((hr.lists.inDialog a ty).mem_iff f).mp hg⟩
  · rintro ⟨hty, hf⟩
    exact ⟨ty, hty, List.mem_map_of_mem (((hr.lists.inDialog a ty).mem_iff f).mpr hf)⟩

/-- What the first step does once the action can begin. It succeeds just if all data can be read, and
then each feature that refuses is vetoed once, with a reason of its own. -/
structure Opens (t : Table δ σ) (w : World δ σ) (a : Actor) : Prop where
  returns : (perform (run t) w).1 = .ok () ↔
    ∀ ty f, IsAsked t w.state a ty f → f.Readable a (some w.state.dialog)
  fails : ∀ e, (perform (run t) w).1 = .error e → ∃ kind, e = .rejected [⟨["enabled"], kind⟩]
  vetoes : (perform (run t) w).1 = .ok () → ∃ refused : List (String × String),
    (perform (run t) w).2.state.vetoed = refused.map (·.1) ∧
    (perform (run t) w).2.state.errors = w.state.errors ++
      (lookups t w.state w.source).filterMap (·.error) ++
        refused.map (fun r => ⟨"feature_veto", r.2, some "start"⟩) ∧
    (refused.map (·.1)).Nodup ∧
    (∀ r ∈ refused, r.2 ≠ "" ∧ ∃ ty f events, IsAsked t w.state a ty f ∧ f.id = r.1 ∧
      f.consult a ty (some w.state.dialog) (some "start") = .ok (some r.2, events)) ∧
    ∀ f ∈ t.registry.features, f.id ∈ refused.map (·.1) ↔
      ∃ ty, IsAsked t w.state a ty f ∧ f.Refuses a ty (some w.state.dialog) (some "start")

theorem opens {t : Table δ σ} (hr : Registry.Distinct t.registry.features) {w : World δ σ}
    (hw : w.state.WellFormed) {a : Actor} (h : actorFor t w.state w.source = .ok a) :
    Opens t w a := by
  obtain ⟨es, hrun⟩ := perform_run_ok hw h
  have hasked : (polled t w.state a).failure = none ↔
      ∀ ty f, IsAsked t w.state a ty f → f.Readable a (some w.state.dialog) := by
    rw [polled, failure_poll_eq_none_iff fun _ _ hx => absurd hx List.not_mem_nil]
    constructor
    · exact fun hall ty f hf => hall (ty, f) ((mem_candidates_iff hr).mpr hf)
    · exact fun hall x hx => hall x.1 x.2 ((mem_candidates_iff hr).mp hx)
  have hreturns : (polled t w.state a).result = .ok () ↔ (polled t w.state a).failure = none :=
    ⟨Poll.failure_of_result, fun hnone => by rw [Poll.result, hnone]; rfl⟩
  refine ⟨?_, ?_, ?_⟩
  · rw [hrun]
    exact hreturns.trans hasked
  · intro e he
    rw [hrun, Poll.result] at he
    cases hfailure : (polled t w.state a).failure with
    | none =>
      rw [hfailure] at he
      cases he
    | some e' =>
      rw [hfailure] at he
      cases he
      exact exists_problem_of_failure hfailure
  · intro hok
    rw [hrun] at hok ⊢
    have hfailure := hreturns.mp hok
    refine ⟨(polled t w.state a).refused, begun_vetoed _ hok, rfl,
      (nodup_ids a w.state.dialog _ []).1, fun r hr' => ?_, fun f hf => ⟨fun hmem => ?_, ?_⟩⟩
    · obtain ⟨x, hx, hid, events, hconsult⟩ := exists_of_mem_refused hr'
      exact ⟨Feature.reason_ne_empty hconsult, x.1, x.2, events, (mem_candidates_iff hr).mp hx, hid,
        hconsult⟩
    · obtain ⟨r, hr', hid⟩ := List.mem_map.mp hmem
      obtain ⟨⟨ty, g⟩, hx, hg, events, hconsult⟩ := exists_of_mem_refused hr'
      have hasked := (mem_candidates_iff hr).mp hx
      -- ids are distinct, so the feature that refused is this one
      obtain rfl : g = f := by
        have hget := (Registry.get?_eq_some_iff hr).mpr ⟨hasked.2.1, hg.trans hid⟩
        rw [(Registry.get?_eq_some_iff hr).mpr ⟨hf, rfl⟩] at hget
        exact (Option.some.inj hget).symm
      exact ⟨ty, hasked, Feature.refuses_iff.mpr ⟨r.2, events, hconsult⟩⟩
    · rintro ⟨ty, hasked, hrefuses⟩
      have hx := (mem_candidates_iff hr).mpr hasked
      have hn := not_allows_of_refuses hrefuses
      exact (mem_ids_of_not_allows hfailure hx hn).resolve_left List.not_mem_nil

/-- A feature cannot stop the first step, whatever its hook does, but what a dialog or an actor holds
for it can. -/
theorem run_asks {t : Table δ σ} {calls : List Feature}
    (hr : t.registry = Registry.attempts calls) {w : World δ σ} (hw : w.state.WellFormed)
    {a : Actor} (hdifficulties : requireDifficulties w.state = .ok ())
    (hactor : t.source.actor w.state.dialog.actorId w.source = .ok (some a)) :
    (∀ f b dialogType d step, Feature.Consults f b dialogType d step) ∧ Opens t w a := by
  refine ⟨Feature.consults, opens ?_ hw ?_⟩
  · rw [hr]
    exact Registry.distinct_attempts calls
  · rw [actorFor, hdifficulties, hactor]
    rfl

def bless : Feature := { id := "bless", name := "Bless", affects := ["attack"] }

def grudge : Feature :=
  { id := "grudge", name := "Grudge", affects := ["attack"], validate := fun _ => .ok (.bool false) }

def glitch : Feature :=
  { id := "glitch", name := "Glitch", affects := ["attack"],
    validate := fun _ => .error (.host "sensor fault") }

def cleric : Actor := { id := "cleric", feats := ["Bless", "Grudge", "Glitch"] }

def chapel (d : Dialog) : World Unit Roster where
  state := { workflow := "attack", steps := ["start", "attack", "complete"], dialog := d }
  dice := ()
  source := Roster.ofActors [cleric]

def chapelTable : Table Unit Roster :=
  .make (Registry.attempts [bless, grudge, bless, glitch]) (evenDice 12) Roster.source {}

def prayer : Dialog := { actorId := "cleric" }

theorem run_asks_prayer : requireDifficulties (chapel prayer).state = .ok () ∧
    Roster.source.actor "cleric" (chapel prayer).source = .ok (some cleric) ∧
    (perform (run chapelTable) (chapel prayer)).1 = .ok () ∧
    ∃ refused : List (String × String),
      (perform (run chapelTable) (chapel prayer)).2.state.vetoed = refused.map (·.1) ∧
      (refused.map (·.1)).Nodup ∧ "grudge" ∈ refused.map (·.1) ∧ "glitch" ∈ refused.map (·.1) ∧
      "bless" ∉ refused.map (·.1) := by
  have hwell : (chapel prayer).state.WellFormed := ⟨by decide, rfl, by decide⟩
  have hopens := (run_asks (t := chapelTable) rfl hwell (a := cleric) rfl rfl).2
  have hok := hopens.returns.mpr fun _ _ _ _ hv => nomatch hv
  obtain ⟨refused, hvetoed, -, hnodup, -, hmem⟩ := hopens.vetoes hok
  refine ⟨rfl, rfl, hok, refused, hvetoed, hnodup, (hmem grudge ?_).mpr ?_, (hmem glitch ?_).mpr ?_,
    fun hbless => ?_⟩
  · exact List.mem_cons_of_mem _ List.mem_cons_self
  · exact ⟨"attack", ⟨List.mem_cons_self, List.mem_cons_of_mem _ List.mem_cons_self, rfl, .inl rfl⟩, _,
      rfl, fun h => nomatch h⟩
  · exact List.mem_cons_of_mem _ (List.mem_cons_of_mem _ List.mem_cons_self)
  · exact ⟨"attack", ⟨List.mem_cons_self,
      List.mem_cons_of_mem _ (List.mem_cons_of_mem _ List.mem_cons_self), rfl, .inl rfl⟩, _,
      rfl, fun h => nomatch h⟩
  · obtain ⟨ty, -, c, -, hfalse⟩ := (hmem bless List.mem_cons_self).mp hbless
    exact hfalse rfl

/-- A dialog that is accepted, but holds for a feature what is no flag. -/
def doubt : Dialog :=
  { actorId := "cleric", featureState := [("bless", [("enabled", .text "maybe")])] }

/-- A feature that allows everything stops the first step. -/
theorem doubt_stops_start :
    Dialog.read (.object [("actor_id", .text "cleric"), ("feature_state",
      .object [("bless", .object [("enabled", .text "maybe")])])]) = .accepted doubt ∧
    (∀ c, bless.validate c = .ok (.bool true)) ∧
    bless.consult cleric "attack" (some doubt) none =
      .error (.rejected [⟨["enabled"], .boolParsing⟩]) ∧
    requireDifficulties (chapel doubt).state = .ok () ∧
    Roster.source.actor "cleric" (chapel doubt).source = .ok (some cleric) ∧
    (perform (run chapelTable) (chapel doubt)).1 =
      .error (.rejected [⟨["enabled"], .boolParsing⟩]) := by
  exact ⟨rfl, fun _ => rfl, rfl, rfl, rfl, rfl⟩

end Encounter.Run.Start
