import Encounter.Pool.Builder
import Encounter.Proofs.Result

namespace Encounter

def Dialog.aimedAt (d : Dialog) (ids : List String) : Dialog := { d with targetIds := ids }

def FeatureContext.aimedAt (c : FeatureContext) (ids : List String) : FeatureContext :=
  { c with dialog := c.dialog.map (·.aimedAt ids) }

namespace Feature

/-- The hooks of a feature give the same answer for every list of targets. -/
structure BlindToTargets (f : Feature) : Prop where
  validate : ∀ c ids, f.validate (c.aimedAt ids) = f.validate c
  modifiers : ∀ c ids, f.modifiers (c.aimedAt ids) = f.modifiers c
  ranges : ∀ hook, f.ranges = some hook → ∀ c ids, hook (c.aimedAt ids) = hook c

variable {f : Feature}

theorem context_aimedAt (f : Feature) (a : Actor) (dialogType : String) (d : Option Dialog)
    (ids : List String) (step : Option String) :
    f.context a dialogType (d.map (·.aimedAt ids)) step =
      (f.context a dialogType d step).map (·.aimedAt ids) := by
  have hdata : f.data a (d.map (·.aimedAt ids)) = f.data a d := by
    cases d <;> rfl
  rw [context, context, hdata]
  cases (FeatureData.read (.object (f.data a d))).result <;> rfl

theorem BlindToTargets.consult_aimedAt (hf : f.BlindToTargets) (a : Actor) (dialogType : String)
    (d : Dialog) (ids : List String) (step : Option String) :
    f.consult a dialogType (some (d.aimedAt ids)) step =
      f.consult a dialogType (some d) step := by
  have hc := f.context_aimedAt a dialogType (some d) ids step
  rw [Option.map_some] at hc
  rw [consult, consult, hc]
  cases f.context a dialogType (some d) step with
  | error e => rfl
  | ok c =>
    exact congrArg (fun r => Except.ok (f.vetoReason r, f.consultEvents r)) (hf.validate c ids)

end Feature

namespace Registry

def BlindToTargets (r : Registry) : Prop := ∀ f ∈ r.features, f.BlindToTargets

variable {r : Registry}

theorem mem_features_of_active {a : Actor} {step : String} {exclude : List String} {f : Feature}
    (h : f ∈ r.activeAt a step exclude) : f ∈ r.features :=
  (List.mem_filter.mp (List.mem_filter.mp h).1).1

theorem BlindToTargets.rangeModifications_aimedAt (hr : r.BlindToTargets) (a : Actor)
    (step dialogType : String) (d : Dialog) (ids exclude : List String) :
    r.rangeModifications a step dialogType (some (d.aimedAt ids)) exclude =
      r.rangeModifications a step dialogType (some d) exclude := by
  refine congrArg flattened (List.map_congr_left fun f hf => ?_)
  cases hranges : f.ranges with
  | none => rfl
  | some hook =>
    have hc := f.context_aimedAt a dialogType (some d) ids (some step)
    rw [Option.map_some] at hc
    dsimp only
    rw [hc]
    cases f.context a dialogType (some d) (some step) with
    | error e => rfl
    | ok c => exact (hr f (mem_features_of_active hf)).ranges hook hranges c ids

end Registry

namespace Pool.Builder

theorem featureTerms_aimedAt {f : Feature} (hf : f.BlindToTargets) (b : Builder) (r : Request)
    (a : Actor) (ids : List String) :
    b.featureTerms { r with dialog := r.dialog.map (·.aimedAt ids) } a f =
      b.featureTerms r a f := by
  rw [featureTerms, featureTerms, f.context_aimedAt]
  cases f.context a r.action.name r.dialog (some (featureStep r.action)) with
  | error e => rfl
  | ok c =>
    have hm := hf.modifiers c ids
    change (if c.data.enabled then f.modifiers (c.aimedAt ids) >>= _ else _) = _
    rw [hm]
    rfl

theorem build_aimedAt {registry : Registry} (hr : registry.BlindToTargets) (baseType : String)
    (r : Request) (ids : List String) :
    Builder.build ⟨some registry, baseType⟩ { r with dialog := r.dialog.map (·.aimedAt ids) } =
      Builder.build ⟨some registry, baseType⟩ r := by
  have hc : contributions ⟨some registry, baseType⟩
      { r with dialog := r.dialog.map (·.aimedAt ids) } =
      contributions ⟨some registry, baseType⟩ r := by
    unfold contributions
    cases r.actor with
    | none => rfl
    | some a =>
      have hadded : (registry.activeAt a (featureStep r.action) r.vetoed).mapM (fun f =>
          return (f.name, ← featureTerms ⟨some registry, baseType⟩
            { r with dialog := r.dialog.map (·.aimedAt ids) } a f)) =
          (registry.activeAt a (featureStep r.action) r.vetoed).mapM (fun f =>
            (return (f.name, ← featureTerms ⟨some registry, baseType⟩ r a f) : Result _)) := by
        refine Result.mapM_congr fun f hf => ?_
        rw [featureTerms_aimedAt (hr f (Registry.mem_features_of_active hf))]
      exact congrArg (· >>= _) hadded
  rw [build, hc]
  rfl

end Pool.Builder
end Encounter
