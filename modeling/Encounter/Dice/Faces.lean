namespace Encounter.Dice

/-- A stream and the position of the next value. -/
structure Faces where
  raw : Nat → Int
  position : Nat := 0

def shownFace (size : Nat) (r : Int) : Nat := ((r - 1) % size).toNat + 1

theorem shownFace_bounds (size : Nat) (r : Int) (h : 0 < size) :
    1 ≤ shownFace size r ∧ shownFace size r ≤ size := by
  have := Int.emod_nonneg (r - 1) (b := size) (by omega)
  have := Int.emod_lt_of_pos (r - 1) (b := size) (by omega)
  unfold shownFace
  omega

namespace Faces

/-- The values of a list over and over. Without values every raw value is one. -/
def cycle (xs : Array Int) : Faces := ⟨fun i => (xs[i % xs.size]?).getD 1, 0⟩

def next (f : Faces) (count size : Nat) : List Nat :=
  (List.range count).map fun i => shownFace size (f.raw (f.position + i))

theorem length_next (f : Faces) (count size : Nat) : (f.next count size).length = count := by
  simp [next]

def skip (f : Faces) (count : Nat) : Faces := { f with position := f.position + count }

end Faces
end Encounter.Dice
