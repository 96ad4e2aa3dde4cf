import Encounter.Pool.Builder

namespace Encounter

namespace Registry

def without (r : Registry) (ids : List String) : Registry :=
  ⟨r.features.filter fun f => !ids.contains f.id⟩

variable {r : Registry} {ids : List String}

theorem features_without (r : Registry) (ids : List String) :
    (r.without ids).features = r.features.filter fun f => !ids.contains f.id := rfl

theorem get?_without {id : String} (h : id ∉ ids) : (r.without ids).get? id = r.get? id := by
  unfold get? without
  generalize r.features = fs
  induction fs with
  | nil => rfl
  | cons f fs ih =>
    by_cases hid : f.id = id
    · rw [List.filter_cons_of_pos (by simp [hid, h]), List.find?_cons_of_pos (by simp [hid]),
        List.find?_cons_of_pos (by simp [hid])]
    · rw [List.find?_cons_of_neg (by simp [hid]), ← ih]
      by_cases hf : f.id ∈ ids
      · rw [List.filter_cons_of_neg (by simpa using hf)]
      · rw [List.filter_cons_of_pos (by simpa using hf), List.find?_cons_of_neg (by simp [hid])]

theorem isAvailable_without {id : String} (h : id ∉ ids) (a : Actor) :
    (r.without ids).isAvailable a id = r.isAvailable a id := by
  rw [isAvailable, isAvailable, get?_without h]

theorem forDialog_without (r : Registry) (ids : List String) (a : Actor) (dialogType : String) :
    (r.without ids).forDialog a dialogType =
      (r.forDialog a dialogType).filter fun f => !ids.contains f.id := by
  unfold forDialog
  rw [features_without, List.filter_filter, List.filter_filter]
  refine List.filter_congr fun f _ => ?_
  by_cases hf : f.id ∈ ids
  · simp [hf]
  · simp [hf, isAvailable_without hf]

/-- Without features that are excluded, the same ones are active, whether their ids stay excluded or
not. -/
theorem activeAt_without_of {exclude exclude' : List String} (h : ∀ id ∈ ids, id ∈ exclude)
    (hx : ∀ id ∉ ids, (id ∈ exclude' ↔ id ∈ exclude)) (a : Actor) (step : String) :
    (r.without ids).activeAt a step exclude' = r.activeAt a step exclude := by
  unfold activeAt forStep
  rw [List.filter_filter, List.filter_filter, features_without, List.filter_filter]
  refine List.filter_congr fun f _ => ?_
  by_cases hf : f.id ∈ ids
  · simp [hf, h _ hf]
  · simp [hf, hx _ hf, isAvailable_without hf]

theorem activeAt_without {exclude : List String} (h : ∀ id ∈ ids, id ∈ exclude) (a : Actor)
    (step : String) :
    (r.without ids).activeAt a step (exclude.filter fun id => !ids.contains id) =
      r.activeAt a step exclude :=
  activeAt_without_of h (fun id hid => by simp [hid]) a step

theorem rangeModifications_without {exclude : List String} (h : ∀ id ∈ ids, id ∈ exclude)
    (a : Actor) (step dialogType : String) (d : Option Dialog) :
    (r.without ids).rangeModifications a step dialogType d
        (exclude.filter fun id => !ids.contains id) =
      r.rangeModifications a step dialogType d exclude := by
  rw [rangeModifications, rangeModifications, activeAt_without h]

end Registry

namespace Pool.Builder

theorem build_eq_of_contributions {b b' : Builder} {r r' : Request}
    (hb : b'.baseType = b.baseType) (hr : r' = { r with vetoed := r'.vetoed })
    (hc : b'.contributions r' = b.contributions r) : b'.build r' = b.build r := by
  obtain ⟨registry, baseType⟩ := b
  obtain ⟨registry', baseType'⟩ := b'
  cases hb
  rw [build, hc, hr]
  rfl

theorem build_without {registry : Registry} {ids exclude : List String}
    (h : ∀ id ∈ ids, id ∈ exclude) (baseType : String) (r : Request) :
    Builder.build ⟨some (registry.without ids), baseType⟩
        { r with vetoed := exclude.filter fun id => !ids.contains id } =
      Builder.build ⟨some registry, baseType⟩ { r with vetoed := exclude } := by
  refine build_eq_of_contributions rfl rfl ?_
  unfold contributions
  cases r.actor with
  | none => rfl
  | some a =>
    dsimp only
    rw [Registry.activeAt_without h]
    rfl

theorem build_unregistered {registry : Registry} {ids : List String} (baseType : String)
    {r : Request} (h : ∀ id ∈ ids, id ∈ r.vetoed) :
    Builder.build ⟨some (registry.without ids), baseType⟩ r =
      Builder.build ⟨some registry, baseType⟩ r := by
  refine build_eq_of_contributions rfl rfl ?_
  unfold contributions
  cases r.actor with
  | none => rfl
  | some a =>
    dsimp only
    rw [Registry.activeAt_without_of h fun id _ => Iff.rfl]
    rfl

end Pool.Builder
end Encounter
