import Encounter.Proofs.Feature.Registered

namespace Encounter

def Feature.GrantedTo (f : Feature) (a : Actor) : Prop :=
  a.hasFeat f.name = true ∨ ∃ i ∈ a.items, i.grants f.id = true

namespace Registry

def attempt (r : Registry) (f : Feature) : Registry :=
  match r.register f with
  | .ok r' => r'
  | .error _ => r

def attempts (calls : List Feature) : Registry := calls.foldl attempt {}

variable {r r' : Registry} {f : Feature} {e : Failure}

theorem register_eq_error_iff : r.register f = .error e ↔
    f.id = "" ∧ e = withoutId f ∨ f.id ≠ "" ∧ f.id ∈ r.ids ∧ e = taken f.id := by
  unfold register
  by_cases hempty : f.id = ""
  · simpa [hempty] using eq_comm
  · by_cases htaken : f.id ∈ r.ids
    · simpa [hempty, htaken, contains_iff] using eq_comm
    · simp [hempty, htaken, contains_iff]

theorem attempt_of_ok (h : r.register f = .ok r') : r.attempt f = r' := by
  rw [attempt, h]

theorem attempt_of_error (h : r.register f = .error e) : r.attempt f = r := by
  rw [attempt, h]

theorem attempt_cases (r : Registry) (f : Feature) :
    ((f.id ≠ "" ∧ f.id ∉ r.ids) ∧ r.register f = .ok ⟨r.features ++ [f]⟩ ∧
      r.attempt f = ⟨r.features ++ [f]⟩) ∨
    ((f.id = "" ∨ f.id ∈ r.ids) ∧ (∃ e, r.register f = .error e) ∧ r.attempt f = r) := by
  cases h : r.register f with
  | ok r' =>
    obtain ⟨hnew, rfl⟩ := register_eq_ok_iff.mp h
    exact .inl ⟨hnew, rfl, attempt_of_ok h⟩
  | error e =>
    refine .inr ⟨?_, ⟨e, rfl⟩, attempt_of_error h⟩
    obtain ⟨hempty, -⟩ | ⟨-, htaken, -⟩ := register_eq_error_iff.mp h
    · exact .inl hempty
    · exact .inr htaken

theorem Distinct.attempt (h : Distinct r.features) (f : Feature) :
    Distinct (r.attempt f).features := by
  obtain ⟨hnew, -, hr⟩ | ⟨-, -, hr⟩ := attempt_cases r f
  · rw [hr]
    exact distinct_append_singleton.mpr ⟨h, hnew⟩
  · rwa [hr]

theorem Distinct.foldl (h : Distinct r.features) (calls : List Feature) :
    Distinct (calls.foldl Registry.attempt r).features := by
  induction calls generalizing r with
  | nil => exact h
  | cons f calls ih => exact ih (h.attempt f)

theorem distinct_attempts (calls : List Feature) : Distinct (attempts calls).features := by
  have hempty : Distinct ({} : Registry).features := ⟨List.nodup_nil, fun _ h => nomatch h⟩
  exact hempty.foldl calls

theorem get?_eq_some_iff (h : Distinct r.features) {id : String} :
    r.get? id = some f ↔ f ∈ r.features ∧ f.id = id := by
  unfold get?
  constructor
  · intro hf
    exact ⟨List.mem_of_find?_eq_some hf, by simpa using List.find?_some hf⟩
  · rintro ⟨hf, rfl⟩
    obtain ⟨xs, ys, hfs⟩ := List.append_of_mem hf
    rw [hfs] at h ⊢
    refine List.find?_eq_some_iff_append.mpr ⟨beq_self_eq_true _, xs, ys, rfl, fun g hg => ?_⟩
    simpa using h.id_ne (List.mem_append_left ys hg)

theorem get?_eq_none_iff {id : String} : r.get? id = none ↔ id ∉ r.ids := by
  simp [get?, ids]

theorem isAvailable_iff (h : Distinct r.features) (hf : f ∈ r.features) (a : Actor) :
    r.isAvailable a f.id = true ↔ f.GrantedTo a := by
  rw [isAvailable, (get?_eq_some_iff h).mpr ⟨hf, rfl⟩]
  simp [Feature.GrantedTo]

/-- The features of a registry for which something holds, each once and in order. -/
structure Draws (r : Registry) (P : Feature → Prop) (fs : List Feature) : Prop where
  sublist : fs.Sublist r.features
  nodup : (fs.map (·.id)).Nodup
  mem_iff : ∀ f, f ∈ fs ↔ f ∈ r.features ∧ P f

theorem Distinct.draws (h : Distinct r.features) {P : Feature → Prop} {p : Feature → Bool}
    (hp : ∀ f ∈ r.features, p f = true ↔ P f) : Draws r P (r.features.filter p) where
  sublist := List.filter_sublist
  nodup := (h.sublist List.filter_sublist).nodup
  mem_iff f := by
    rw [List.mem_filter]
    exact and_congr_right (hp f)

/-- What features give when they are asked in turn. One that fails is the failure of all. -/
structure Collects {α : Type} (fs : List Feature) (ask : Feature → Result (List α))
    (given : Result (List α)) : Prop where
  ok : ∀ xs, given = .ok xs ↔
    ∃ parts, List.Forall₂ (fun f part => ask f = .ok part) fs parts ∧ xs = parts.flatten
  error : ∀ e, given = .error e → ∃ f ∈ fs, ask f = .error e

theorem collects_flattened {α : Type} (fs : List Feature) (ask : Feature → Result (List α)) :
    Collects fs ask (flattened (fs.map ask)) := by
  have hmap : flattened (fs.map ask) = fs.mapM ask >>= fun parts => .ok parts.flatten := by
    rw [flattened, List.mapM_map]
    rfl
  rw [hmap]
  refine ⟨fun xs => ⟨fun h => ?_, ?_⟩, fun e h => ?_⟩
  · obtain ⟨parts, hparts, hxs⟩ := Result.bind_eq_ok h
    exact ⟨parts, Result.forall₂_of_mapM hparts, (Except.ok.inj hxs).symm⟩
  · rintro ⟨parts, hparts, rfl⟩
    have hall : fs.mapM ask = .ok (parts.map id) := Result.mapM_of_forall₂ hparts
    rw [hall, List.map_id]
    rfl
  · obtain h | ⟨parts, -, h⟩ := Result.bind_eq_error h
    · exact Result.exists_of_mapM_eq_error h
    · cases h

def offered (a : Actor) (dialogType : String) (d : Option Dialog) (f : Feature) :
    Result (List Pool.Modifier) := do
  f.modifiers (← f.context a dialogType d none)

def declared (a : Actor) (step dialogType : String) (d : Option Dialog) (f : Feature) :
    Result (List Check.RangeModification) :=
  match f.ranges with
  | none => .ok []
  | some ranges => do ranges (← f.context a dialogType d (some step))

/-- Every listing of a registry is drawn from its features. -/
structure Lists (r : Registry) : Prop where
  get : ∀ id f, r.get? id = some f ↔ f ∈ r.features ∧ f.id = id
  missing : ∀ id, r.get? id = none ↔ id ∉ r.ids
  atStep : ∀ step, r.Draws (fun f => f.affectsStep step = true) (r.forStep step)
  inDialog : ∀ a dialogType,
    r.Draws (fun f => f.affectsDialog dialogType = true ∧ f.GrantedTo a) (r.forDialog a dialogType)
  reactive : r.Draws (fun f => f.isReactive = true) r.reactive
  described : r.describe = .list (r.features.map Feature.summary)
  modifiers : ∀ a dialogType d exclude, ∃ fs,
    r.Draws (fun f => (f.affectsDialog dialogType = true ∧ f.GrantedTo a) ∧ f.id ∉ exclude) fs ∧
      Collects fs (offered a dialogType d) (r.rollModifiers a dialogType d exclude)
  ranges : ∀ a step dialogType d exclude, ∃ fs,
    r.Draws (fun f => f.affectsStep step = true ∧ f.id ∉ exclude ∧ f.GrantedTo a) fs ∧
      Collects fs (declared a step dialogType d) (r.rangeModifications a step dialogType d exclude)

theorem Distinct.lists (h : Distinct r.features) : r.Lists where
  get _ _ := get?_eq_some_iff h
  missing _ := get?_eq_none_iff
  atStep _ := h.draws fun _ _ => Iff.rfl
  inDialog a dialogType := h.draws fun f hf => by
    rw [Bool.and_eq_true, isAvailable_iff h hf]
  reactive := h.draws fun _ _ => Iff.rfl
  described := rfl
  modifiers a dialogType d exclude := by
    refine ⟨_, ?_, collects_flattened _ (offered a dialogType d)⟩
    rw [forDialog, List.filter_filter]
    refine h.draws fun f hf => ?_
    simp [isAvailable_iff h hf, and_comm]
  ranges a step dialogType d exclude := by
    refine ⟨_, ?_, collects_flattened _ (declared a step dialogType d)⟩
    rw [activeAt, forStep, List.filter_filter]
    refine h.draws fun f hf => ?_
    simp [isAvailable_iff h hf, and_comm]

end Registry
end Encounter
