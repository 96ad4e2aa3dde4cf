import Encounter.Proofs.Feature.Without
import Encounter.Proofs.Result
import Mathlib.Data.List.Nodup

namespace Encounter.Registry

/-- Features that can be registered one after another. -/
structure Distinct (fs : List Feature) : Prop where
  nodup : (fs.map (·.id)).Nodup
  ne_empty : ∀ f ∈ fs, f.id ≠ ""

variable {r r' : Registry} {f g : Feature} {fs xs ys : List Feature}

theorem Distinct.sublist (h : Distinct fs) (hsub : xs.Sublist fs) : Distinct xs :=
  ⟨h.nodup.sublist (hsub.map _), fun f hf => h.ne_empty f (hsub.subset hf)⟩

theorem distinct_append_singleton :
    Distinct (fs ++ [f]) ↔ Distinct fs ∧ f.id ≠ "" ∧ f.id ∉ fs.map (·.id) := by
  constructor
  · intro h
    refine ⟨h.sublist (List.sublist_append_left fs [f]), h.ne_empty f (by simp), fun hmem => ?_⟩
    have hnodup := h.nodup
    rw [List.map_append, List.map_singleton, List.nodup_append] at hnodup
    exact hnodup.2.2 _ hmem _ (List.mem_singleton_self _) rfl
  · rintro ⟨h, hne, hnew⟩
    refine ⟨?_, List.forall_mem_append.mpr ⟨h.ne_empty, List.forall_mem_singleton.mpr hne⟩⟩
    rw [List.map_append, List.map_singleton]
    exact List.nodup_append_comm.mp (List.nodup_cons.mpr ⟨hnew, h.nodup⟩)

theorem contains_iff (r : Registry) (id : String) : r.contains id = true ↔ id ∈ r.ids := by
  simp [contains, ids]

theorem register_eq_ok_iff :
    r.register f = .ok r' ↔ (f.id ≠ "" ∧ f.id ∉ r.ids) ∧ r' = ⟨r.features ++ [f]⟩ := by
  unfold register
  by_cases hempty : f.id = ""
  · simp [hempty]
  · by_cases htaken : f.id ∈ r.ids
    · simp [hempty, htaken, contains_iff]
    · simpa [hempty, htaken, contains_iff] using eq_comm

/-- A run of registrations succeeds if the features are distinct from each other and from those that
are there, and then they follow these in order. -/
theorem foldlM_register (hr : Distinct r.features) :
    fs.foldlM register r = .ok r' ↔
      Distinct (r.features ++ fs) ∧ r' = ⟨r.features ++ fs⟩ := by
  induction fs generalizing r with
  | nil =>
    rw [List.append_nil, List.foldlM_nil]
    exact ⟨fun h => ⟨hr, (Except.ok.inj h).symm⟩, fun h => congrArg _ h.2.symm⟩
  | cons f fs ih =>
    rw [List.foldlM_cons, List.append_cons]
    constructor
    · intro h
      obtain ⟨s, hs, h⟩ := Result.bind_eq_ok h
      obtain ⟨⟨hne, hnew⟩, rfl⟩ := register_eq_ok_iff.mp hs
      exact (ih (distinct_append_singleton.mpr ⟨hr, hne, hnew⟩)).mp h
    · rintro ⟨hdistinct, rfl⟩
      have hfirst := hdistinct.sublist (List.sublist_append_left _ fs)
      rw [register_eq_ok_iff.mpr ⟨(distinct_append_singleton.mp hfirst).2, rfl⟩]
      exact (ih hfirst).mpr ⟨hdistinct, rfl⟩

theorem ofList_eq_ok_iff : ofList fs = .ok r ↔ Distinct fs ∧ r = ⟨fs⟩ :=
  foldlM_register ⟨List.nodup_nil, fun _ h => nomatch h⟩

theorem Distinct.id_ne (h : Distinct (xs ++ f :: ys)) (hg : g ∈ xs ++ ys) : g.id ≠ f.id := by
  have hnodup := h.nodup
  rw [List.map_append, List.map_cons, List.nodup_middle, List.nodup_cons, ← List.map_append]
    at hnodup
  exact fun heq => hnodup.1 (heq ▸ List.mem_map_of_mem hg)

theorem Distinct.filter_self (h : Distinct (xs ++ f :: ys)) :
    (xs ++ f :: ys).filter (fun g => !([f.id]).contains g.id) = xs ++ ys := by
  have hothers : ∀ g ∈ xs ++ ys, (!([f.id]).contains g.id) = true := by
    intro g hg
    simpa using h.id_ne hg
  obtain ⟨hxs, hys⟩ := List.forall_mem_append.mp hothers
  rw [List.filter_append, List.filter_cons_of_neg (by simp), List.filter_eq_self.mpr hxs,
    List.filter_eq_self.mpr hys]

theorem mem_activeAt {a : Actor} {step : String} {exclude : List String} :
    f ∈ r.activeAt a step exclude ↔ f ∈ r.features ∧ f.affectsStep step = true ∧
      f.id ∉ exclude ∧ r.isAvailable a f.id = true := by
  simp only [activeAt, forStep, List.mem_filter, Bool.and_eq_true, Bool.not_eq_true',
    List.contains_eq_mem, decide_eq_false_iff_not, and_assoc]

end Encounter.Registry
