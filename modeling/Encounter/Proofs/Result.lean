import Encounter.Failure
import Mathlib.Data.List.Forall2

namespace Encounter.Result

variable {α β : Type}

theorem eq_ok_of_toOption [DecidableEq α] {x : Result α} {a : α}
    (h : (x.toOption == some a) = true) : x = .ok a := by
  cases x with
  | error e => cases h
  | ok b => exact congrArg Except.ok (Option.some.inj (beq_iff_eq.mp h))

theorem ne_ok_of_toOption {x : Result α} {a : α} (h : x.toOption ≠ some a) : x ≠ .ok a := by
  rintro rfl
  exact h rfl

theorem exists_of_map_toOption {x : Result α} {f : α → β} {b : β}
    (h : x.toOption.map f = some b) : ∃ a, x = .ok a ∧ f a = b := by
  cases x with
  | error e => cases h
  | ok a => exact ⟨a, rfl, Option.some.inj h⟩

theorem bind_eq_ok {x : Result α} {f : α → Result β} {b : β} (h : x >>= f = .ok b) :
    ∃ a, x = .ok a ∧ f a = .ok b := by
  cases x with
  | error e => cases h
  | ok a => exact ⟨a, rfl, h⟩

theorem bind_eq_error {x : Result α} {f : α → Result β} {e : Failure} (h : x >>= f = .error e) :
    x = .error e ∨ ∃ a, x = .ok a ∧ f a = .error e := by
  cases x with
  | error e' =>
    cases h
    exact .inl rfl
  | ok a => exact .inr ⟨a, rfl, h⟩

theorem map_eq_ok {x : Result α} {f : α → β} {b : β} (h : x.map f = .ok b) :
    ∃ a, x = .ok a ∧ f a = b := by
  cases x with
  | error e => cases h
  | ok a =>
    cases h
    exact ⟨a, rfl, rfl⟩

theorem map_eq_error {x : Result α} {f : α → β} {e : Failure} (h : x.map f = .error e) :
    x = .error e := by
  cases x with
  | error e' =>
    cases h
    rfl
  | ok a => cases h

theorem ofNumeral_eq_ok {x : Except Numeral.Flaw α} {a : α} (h : ofNumeral x = .ok a) :
    x = .ok a := by
  cases x with
  | error e => cases h
  | ok b =>
    cases h
    rfl

theorem ofNumeral_eq_error {x : Except Numeral.Flaw α} {e : Failure} (h : ofNumeral x = .error e) :
    ∃ flaw, e = .numeral flaw := by
  cases x with
  | error flaw =>
    cases h
    exact ⟨flaw, rfl⟩
  | ok a => cases h

theorem forall₂_of_mapM {f : α → Result β} {xs : List α} {ys : List β} (h : xs.mapM f = .ok ys) :
    List.Forall₂ (fun x y => f x = .ok y) xs ys := by
  induction xs generalizing ys with
  | nil =>
    cases h
    exact .nil
  | cons x xs ih =>
    rw [List.mapM_cons] at h
    obtain ⟨y, hy, h⟩ := bind_eq_ok h
    obtain ⟨zs, hzs, h⟩ := bind_eq_ok h
    cases h
    exact .cons hy (ih hzs)

theorem mapM_congr {f g : α → Result β} {xs : List α} (h : ∀ x ∈ xs, f x = g x) :
    xs.mapM f = xs.mapM g := by
  induction xs with
  | nil => rfl
  | cons x xs ih =>
    rw [List.mapM_cons, List.mapM_cons, h x List.mem_cons_self,
      ih fun y hy => h y (List.mem_cons_of_mem x hy)]

theorem mapM_eq_ok {f : α → Result β} {g : α → β} {xs : List α}
    (h : ∀ x ∈ xs, f x = .ok (g x)) : xs.mapM f = .ok (xs.map g) :=
  (mapM_congr h).trans List.mapM_pure

theorem mapM_of_forall₂ {γ : Type} {f : α → Result β} {g : γ → β} {xs : List α} {zs : List γ}
    (h : List.Forall₂ (fun x z => f x = .ok (g z)) xs zs) : xs.mapM f = .ok (zs.map g) := by
  induction h with
  | nil => rfl
  | cons hx _ ih =>
    rw [List.mapM_cons, hx, ih]
    rfl

theorem exists_of_mem_mapM {f : α → Result β} {xs : List α} {ys : List β}
    (h : xs.mapM f = .ok ys) {y : β} (hy : y ∈ ys) : ∃ x ∈ xs, f x = .ok y := by
  have hall := forall₂_of_mapM h
  clear h
  induction hall with
  | nil => cases hy
  | @cons x z xs zs hxz hxs ih =>
    obtain rfl | hy := List.mem_cons.mp hy
    · exact ⟨x, List.mem_cons_self, hxz⟩
    · obtain ⟨x', hx', heq⟩ := ih hy
      exact ⟨x', List.mem_cons_of_mem x hx', heq⟩

theorem exists_of_mapM_eq_error {f : α → Result β} {xs : List α} {e : Failure}
    (h : xs.mapM f = .error e) : ∃ x ∈ xs, f x = .error e := by
  induction xs with
  | nil => cases h
  | cons x xs ih =>
    rw [List.mapM_cons] at h
    obtain h | ⟨y, -, h⟩ := bind_eq_error h
    · exact ⟨x, List.mem_cons_self, h⟩
    · obtain h | ⟨ys, -, h⟩ := bind_eq_error h
      · obtain ⟨x', hx', h⟩ := ih h
        exact ⟨x', List.mem_cons_of_mem x hx', h⟩
      · cases h

theorem mapM_eq_map {f : α → Result β} {g : α → β} {P : α → Prop} {xs : List α} {ys : List β}
    (hf : ∀ x ∈ xs, ∀ y, f x = .ok y → P x ∧ y = g x) (h : xs.mapM f = .ok ys) :
    (∀ x ∈ xs, P x) ∧ ys = xs.map g := by
  have hall := forall₂_of_mapM h
  clear h
  induction hall with
  | nil => exact ⟨(fun _ h => nomatch h), rfl⟩
  | cons hxy _ ih =>
    obtain ⟨hP, rfl⟩ := hf _ List.mem_cons_self _ hxy
    obtain ⟨hrest, rfl⟩ := ih fun x hx => hf x (List.mem_cons_of_mem _ hx)
    exact ⟨List.forall_mem_cons.mpr ⟨hP, hrest⟩, rfl⟩

end Encounter.Result
