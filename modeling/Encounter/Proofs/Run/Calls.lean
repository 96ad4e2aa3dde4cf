import Encounter.Proofs.Run.Course

namespace Encounter.Run

open ActionState

variable {δ σ α : Type}

def World.withCalls (w : World δ σ) (calls : List String) : World δ (σ × List String) where
  state := w.state
  dice := w.dice
  source := (w.source, calls)
  events := w.events
  visited := w.visited

def World.withoutCalls (w : World δ (σ × List String)) : World δ σ where
  state := w.state
  dice := w.dice
  source := w.source.1
  events := w.events
  visited := w.visited

def noted (step : String) (h : Handler δ σ) : Handler δ (σ × List String) :=
  ExceptT.mk fun w =>
    ((perform h w.withoutCalls).1,
      (perform h w.withoutCalls).2.withCalls (w.source.2 ++ [step]))

def Handlers.noting (handlers : Handlers δ σ) : Handlers δ (σ × List String) :=
  handlers.map fun e => (e.1, noted e.1 e.2)

theorem perform_noted (step : String) (h : Handler δ σ) (w : World δ (σ × List String)) :
    perform (noted step h) w =
      ((perform h w.withoutCalls).1,
        (perform h w.withoutCalls).2.withCalls (w.source.2 ++ [step])) := rfl

theorem Handlers.KeepCourse.noting {handlers : Handlers δ σ} (hk : handlers.KeepCourse) :
    handlers.noting.KeepCourse := by
  intro e he w hw
  obtain ⟨e, hm, rfl⟩ := List.mem_map.mp he
  exact hk e hm w.withoutCalls hw

theorem get?_noting (handlers : Handlers δ σ) (step : String) :
    Entries.get? handlers.noting step = (Entries.get? handlers step).map (noted step) := by
  induction handlers with
  | nil => rfl
  | cons e es ih =>
    have hc : Handlers.noting (e :: es) = (e.1, noted e.1 e.2) :: Handlers.noting es := rfl
    rw [hc, Entries.get?_cons, Entries.get?_cons, ih]
    by_cases hs : e.1 = step
    · subst hs
      simp
    · simp [hs]

def Handlers.callsOf (handlers : Handlers δ σ) (step : String) : List String :=
  if (Entries.get? handlers step).isSome then [step] else []

section

variable {handlers : Handlers δ σ} {observers : List Observer} {step : String} {w u : World δ σ}

theorem perform_noted_withCalls {h : Handler δ σ} {a : Result Reply} (hp : perform h w = (a, u))
    (calls : List String) :
    perform (noted step h) (w.withCalls calls) = (a, u.withCalls (calls ++ [step])) := by
  have hw : (w.withCalls calls).withoutCalls = w := rfl
  rw [perform_noted, hw, hp]
  rfl

theorem StepFails.noting {e : Failure} (h : StepFails handlers step w e u)
    (calls : List String) :
    StepFails handlers.noting step (w.withCalls calls) e
      (u.withCalls (calls ++ handlers.callsOf step)) := by
  cases h with
  | missing hh =>
    have hn : Entries.get? handlers.noting step = none := by rw [get?_noting, hh]; rfl
    rw [Handlers.callsOf, hh, Option.isSome_none, if_neg Bool.false_ne_true, List.append_nil]
    exact .missing hn
  | raised hh hp =>
    rw [Handlers.callsOf, hh, Option.isSome_some, if_pos rfl]
    exact .raised (by rw [get?_noting, hh]; rfl) (perform_noted_withCalls hp calls)
  | nothing hh hp =>
    rw [Handlers.callsOf, hh, Option.isSome_some, if_pos rfl]
    exact .nothing (by rw [get?_noting, hh]; rfl) (perform_noted_withCalls hp calls)

theorem StepPasses.noting (h : StepPasses handlers step w u) (calls : List String) :
    StepPasses handlers.noting step (w.withCalls calls) (u.withCalls (calls ++ [step])) := by
  obtain ⟨h, hh, hp⟩ := h
  exact ⟨noted step h, by rw [get?_noting, hh]; rfl, perform_noted_withCalls hp calls⟩

theorem settled_withCalls (u : World δ σ) (calls : List String) (observers : List Observer)
    (step : String) (known : Nat) :
    (u.withCalls calls).settled observers step known =
      (u.settled observers step known).withCalls calls := by
  have hf : ∀ v : World δ σ, observers.foldl (notify step) (v.withCalls calls) =
      (observers.foldl (notify step) v).withCalls calls := by
    induction observers with
    | nil => exact fun v => rfl
    | cons o os ih => exact fun v => ih (notify step v o)
  exact hf (u.afterStep step known)

end

end Encounter.Run
