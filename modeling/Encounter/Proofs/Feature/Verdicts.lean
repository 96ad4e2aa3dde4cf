import Encounter.Feature.Basic
import Encounter.Proofs.Result

namespace Encounter

theorem Schema.flag_cases (v : Value) :
    (∃ b, Schema.flag v = .accepted b) ∨ ∃ kind, Schema.flag v = .problem kind := by
  have hint (n : Int) :
      (∃ b, Schema.flagOfInt n = .accepted b) ∨ ∃ kind, Schema.flagOfInt n = .problem kind := by
    unfold Schema.flagOfInt
    split
    · exact .inl ⟨_, rfl⟩
    split
    · exact .inl ⟨_, rfl⟩
    split
    · exact .inr ⟨_, rfl⟩
    · exact .inr ⟨_, rfl⟩
  cases v with
  | bool b => exact .inl ⟨b, rfl⟩
  | int n => exact hint n
  | float x =>
    rw [Schema.flag, Schema.flagOfFloat]
    split
    · exact hint _
    · exact .inr ⟨_, rfl⟩
  | text s =>
    rw [Schema.flag]
    cases Schema.flagOfText? s with
    | none => exact .inr ⟨_, rfl⟩
    | some b => exact .inl ⟨b, rfl⟩
  | null => exact .inr ⟨_, rfl⟩
  | garbled s => exact .inr ⟨_, rfl⟩
  | list vs => exact .inr ⟨_, rfl⟩
  | pair v w => exact .inr ⟨_, rfl⟩
  | object es => exact .inr ⟨_, rfl⟩

namespace Feature

/-- The data for a feature can be read: what they say of `enabled`, if anything, is a flag. -/
def Readable (f : Feature) (a : Actor) (d : Option Dialog) : Prop :=
  ∀ v, Entries.get? (f.data a d) "enabled" = some v → ∃ b, Schema.flag v = .accepted b

def Refuses (f : Feature) (a : Actor) (dialogType : String) (d : Option Dialog)
    (step : Option String) : Prop :=
  ∃ c, f.context a dialogType d step = .ok c ∧ f.validate c ≠ .ok (.bool true)

variable {f g : Feature} {a : Actor} {dialogType : String} {d : Option Dialog}
  {step : Option String}

theorem Readable.of_id (h : f.Readable a d) (hid : g.id = f.id) : g.Readable a d := by
  have hdata : g.data a d = f.data a d := by rw [data, data, hid]
  unfold Readable
  rwa [hdata]

theorem exists_context (h : f.Readable a d) (dialogType : String) (step : Option String) :
    ∃ data, f.context a dialogType d step = .ok ⟨a, dialogType, data, d, step⟩ := by
  have hread : ∃ data, FeatureData.read (.object (f.data a d)) = .accepted data := by
    rw [FeatureData.read, Schema.record, Schema.optional]
    split
    · rename_i v hv
      obtain ⟨b, hb⟩ := h v hv
      rw [hb]
      exact ⟨_, rfl⟩
    · exact ⟨_, rfl⟩
  obtain ⟨data, hdata⟩ := hread
  exact ⟨data, by rw [context, hdata]; rfl⟩

theorem exists_problem (h : ¬ f.Readable a d) : ∃ kind, ∀ dialogType step,
    f.context a dialogType d step = .error (.rejected [⟨["enabled"], kind⟩]) := by
  unfold Readable at h
  push Not at h
  obtain ⟨v, hv, hflag⟩ := h
  obtain ⟨b, hb⟩ | ⟨kind, hkind⟩ := Schema.flag_cases v
  · exact absurd hb (hflag b)
  · refine ⟨kind, fun dialogType step => ?_⟩
    have hread : FeatureData.read (.object (f.data a d)) =
        .rejected [⟨["enabled"], kind⟩] := by
      rw [FeatureData.read, Schema.record, Schema.optional, hv]
      simp only [hkind]
      rfl
    rw [context, hread]
    rfl

theorem vetoReason_eq_none_iff (f : Feature) (answer : Result Value) :
    f.vetoReason answer = none ↔ answer = .ok (.bool true) := by
  unfold vetoReason
  split <;> simp_all

theorem vetoReason_ne_empty {answer : Result Value} {reason : String}
    (h : f.vetoReason answer = some reason) : reason ≠ "" := by
  have hrefused : f.name ++ " cannot be used" ≠ "" := fun hempty =>
    absurd (String.append_eq_empty_iff.mp hempty).2 (by decide)
  unfold vetoReason at h
  split at h
  · cases h
    exact fun hempty => absurd (String.append_eq_empty_iff.mp hempty).1 (by decide)
  · cases h
  · split at h
    · cases h
      exact hrefused
    · rename_i hfilled
      cases h
      simpa using hfilled
  · cases h
    exact hrefused

/-- What asking a feature comes to. It fails on data that cannot be read, and only on them. -/
structure Consults (f : Feature) (a : Actor) (dialogType : String) (d : Option Dialog)
    (step : Option String) : Prop where
  readable : f.Readable a d → ∃ c reason events, f.context a dialogType d step = .ok c ∧
    f.consult a dialogType d step = .ok (reason, events) ∧
    (reason = none ↔ f.validate c = .ok (.bool true)) ∧ ∀ s, reason = some s → s ≠ ""
  unreadable : ¬ f.Readable a d → ∃ kind,
    f.consult a dialogType d step = .error (.rejected [⟨["enabled"], kind⟩])

theorem consults (f : Feature) (a : Actor) (dialogType : String) (d : Option Dialog)
    (step : Option String) : f.Consults a dialogType d step where
  readable h := by
    obtain ⟨data, hc⟩ := exists_context h dialogType step
    refine ⟨_, _, _, hc, by rw [consult, hc]; rfl, f.vetoReason_eq_none_iff _, ?_⟩
    exact fun _ => vetoReason_ne_empty
  unreadable h := by
    obtain ⟨kind, hkind⟩ := exists_problem h
    exact ⟨kind, by rw [consult, hkind]; rfl⟩

theorem refuses_iff : f.Refuses a dialogType d step ↔
    ∃ reason events, f.consult a dialogType d step = .ok (some reason, events) := by
  constructor
  · rintro ⟨c, hc, hfalse⟩
    cases hreason : f.vetoReason (f.validate c) with
    | none => exact absurd ((f.vetoReason_eq_none_iff _).mp hreason) hfalse
    | some reason =>
      refine ⟨reason, f.consultEvents (f.validate c), ?_⟩
      rw [consult, hc, ← hreason]
      rfl
  · rintro ⟨reason, events, hconsult⟩
    obtain ⟨c, hc, hanswer⟩ := Result.bind_eq_ok hconsult
    refine ⟨c, hc, fun htrue => ?_⟩
    rw [htrue] at hanswer
    cases hanswer

theorem reason_ne_empty {reason : String} {events : List Log.Event}
    (h : f.consult a dialogType d step = .ok (some reason, events)) : reason ≠ "" := by
  obtain ⟨c, -, hanswer⟩ := Result.bind_eq_ok h
  have hreason : f.vetoReason (f.validate c) = some reason :=
    congrArg Prod.fst (Except.ok.inj hanswer)
  exact vetoReason_ne_empty hreason

end Feature
end Encounter
