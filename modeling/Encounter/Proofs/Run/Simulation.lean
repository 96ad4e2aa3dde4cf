import Encounter.Proofs.Run.Perform
import Mathlib.Data.List.Forall2

namespace Encounter.Run

variable {δ σ δ' σ' α β : Type} {R : World δ σ → World δ' σ' → Prop}

/-- Both programs answer alike, and leave related worlds. -/
def Simulates (R : World δ σ → World δ' σ' → Prop) (m : RunM δ σ α) (m' : RunM δ' σ' α) : Prop :=
  ∀ w w', R w w' → (perform m' w').1 = (perform m w).1 ∧ R (perform m w).2 (perform m' w').2

namespace Simulates

theorem of_eq {m : RunM δ σ α} {m' : RunM δ' σ' α} {w v : World δ σ} {w' v' : World δ' σ'}
    {r : Result α} (h : perform m w = (r, v)) (h' : perform m' w' = (r, v')) (hv : R v v') :
    (perform m' w').1 = (perform m w).1 ∧ R (perform m w).2 (perform m' w').2 := by
  rw [h, h']
  exact ⟨rfl, hv⟩

theorem pure (a : α) : Simulates R (pure a : RunM δ σ α) (pure a : RunM δ' σ' α) :=
  fun _ _ h => ⟨rfl, h⟩

theorem throw (e : Failure) : Simulates R (throw e : RunM δ σ α) (throw e : RunM δ' σ' α) :=
  fun _ _ h => ⟨rfl, h⟩

theorem lift (r : Result α) : Simulates R (liftM r : RunM δ σ α) (liftM r : RunM δ' σ' α) :=
  fun _ _ h => of_eq (perform_lift r _) (perform_lift r _) h

theorem bind {m : RunM δ σ α} {m' : RunM δ' σ' α} {g : α → RunM δ σ β} {g' : α → RunM δ' σ' β}
    (hm : Simulates R m m') (hg : ∀ a, Simulates R (g a) (g' a)) :
    Simulates R (m >>= g) (m' >>= g') := by
  intro w w' h
  obtain ⟨ha, hv⟩ := hm w w' h
  rw [perform_bind, perform_bind]
  rcases hp : perform m w with ⟨e | a, v⟩ <;> rcases hp' : perform m' w' with ⟨e' | a', v'⟩ <;>
    rw [hp, hp'] at ha hv <;> cases ha
  · exact ⟨rfl, hv⟩
  · exact hg a v v' hv

theorem forM {g : α → RunM δ σ Unit} {g' : α → RunM δ' σ' Unit} {xs : List α}
    (hg : ∀ x ∈ xs, Simulates R (g x) (g' x)) : Simulates R (xs.forM g) (xs.forM g') := by
  induction xs with
  | nil => exact Simulates.pure ()
  | cons x xs ih =>
    exact bind (hg x List.mem_cons_self) fun _ => ih fun y hy => hg y (List.mem_cons_of_mem x hy)

/-- An action that is taken if there is need of it, and what follows in either case. -/
theorem optional {p : Prop} [Decidable p] {m : RunM δ σ Unit} {m' : RunM δ' σ' Unit}
    {g : Unit → RunM δ σ β} {g' : Unit → RunM δ' σ' β} (hm : Simulates R m m')
    (hg : ∀ u, Simulates R (g u) (g' u)) :
    Simulates R (if p then m >>= g else g ()) (if p then m' >>= g' else g' ()) := by
  split
  · exact bind hm hg
  · exact hg ()

theorem tryCatch {m : RunM δ σ α} {m' : RunM δ' σ' α} {g : Failure → RunM δ σ α}
    {g' : Failure → RunM δ' σ' α} (hm : Simulates R m m') (hg : ∀ e, Simulates R (g e) (g' e)) :
    Simulates R (tryCatch m g) (tryCatch m' g') := by
  intro w w' h
  obtain ⟨ha, hv⟩ := hm w w' h
  rw [perform_tryCatch, perform_tryCatch]
  rcases hp : perform m w with ⟨e | a, v⟩ <;> rcases hp' : perform m' w' with ⟨e' | a', v'⟩ <;>
    rw [hp, hp'] at ha hv <;> cases ha
  · exact hg e v v' hv
  · exact ⟨rfl, hv⟩

theorem rel_get? {step : String} {handlers : Handlers δ σ} {handlers' : Handlers δ' σ'}
    (h : List.Forall₂ (fun e e' => e'.1 = e.1 ∧ (e.1 = step → Simulates R e.2 e'.2)) handlers
      handlers') :
    Option.Rel (Simulates R) (Entries.get? handlers step) (Entries.get? handlers' step) := by
  induction h with
  | nil => exact .none
  | @cons e e' es es' he hes ih =>
    obtain ⟨hname, hsim⟩ := he
    rw [Entries.get?_cons, Entries.get?_cons, hname]
    split
    · exact .some (hsim ‹_›)
    · exact ih

theorem handingBack {m : RunM δ σ Unit} {m' : RunM δ' σ' Unit} (h : Simulates R m m') :
    Simulates R (handingBack m) (handingBack m') := bind h fun _ => pure _

end Simulates
end Encounter.Run
