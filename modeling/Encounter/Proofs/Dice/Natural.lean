import Encounter.Proofs.Dice.Twice

namespace Encounter.Dice

def naturalOf (size : Nat) (kept : List Nat) : Option Nat := if size == 20 then kept.head? else none

namespace Node

mutual

/-- The first kept face of the first kept twenty-sided dice. -/
def keptNatural : Node → Option Nat
  | number _ => none
  | dice size faces => naturalOf size ((faces.filter (·.1)).map (·.2))
  | unary _ e => e.keptNatural
  | binary _ l r => l.keptNatural.or r.keptNatural
  | group _ ms => membersNatural ms
  | labelled _ e => e.keptNatural

def membersNatural : List (Bool × Node) → Option Nat
  | [] => none
  | (kept, n) :: rest => (if kept then n.keptNatural else none).or (membersNatural rest)

end

end Node

namespace Findings

theorem natural_addLabel (f : Findings) (t : List Char) (n : Int) :
    (f.addLabel t n).natural = f.natural := by
  unfold addLabel
  split <;> rfl

theorem natural_addDice (f : Findings) (size : Nat) (faces : List (Bool × Nat)) :
    (f.addDice size faces).natural =
      f.natural.or (naturalOf size ((faces.filter (·.1)).map (·.2))) := by
  rw [addDice]
  cases f.natural <;> rfl

end Findings

mutual

theorem natural_gather (f : Findings) : ∀ n : Node,
    (n.gather f).natural = f.natural.or n.keptNatural
  | .number n => Option.or_none.symm
  | .dice size faces => f.natural_addDice size faces
  | .unary s e => natural_gather f e
  | .binary s l r => by
    rw [Node.gather, natural_gather _ r, natural_gather f l, Node.keptNatural, Option.or_assoc]
  | .group ks ms => natural_gatherMembers f ms
  | .labelled t e => by
    rw [Node.gather, natural_gather _ e, Findings.natural_addLabel, Node.keptNatural]

theorem natural_gatherMembers (f : Findings) : ∀ ms : List (Bool × Node),
    (gatherMembers f ms).natural = f.natural.or (Node.membersNatural ms)
  | [] => Option.or_none.symm
  | (kept, n) :: rest => by
    rw [gatherMembers, natural_gatherMembers _ rest, Node.membersNatural, ← Option.or_assoc]
    congr 1
    cases kept with
    | false => exact Option.or_none.symm
    | true => exact natural_gather f n

end

theorem natural_ofNode (formula : String) (n : Node) :
    (Outcome.ofNode formula n).natural = n.keptNatural.map Int.ofNat := by
  change ((n.gather {}).natural).map Int.ofNat = _
  rw [natural_gather, Option.none_or]

def Faces.face (f : Faces) (size : Nat) : Nat := shownFace size (f.raw f.position)

theorem Faces.next_one (f : Faces) (size : Nat) : f.next 1 size = [f.face size] := rfl

theorem Faces.face_bounds (f : Faces) {size : Nat} (h : 0 < size) :
    1 ≤ f.face size ∧ f.face size ≤ size := shownFace_bounds size _ h

namespace Lot

def natural : List (Lot × List Nat) → Option Nat
  | [] => none
  | d :: ds => (naturalOf d.1.size d.2).or (natural ds)

theorem natural_append (xs ys : List (Lot × List Nat)) :
    natural (xs ++ ys) = (natural xs).or (natural ys) := by
  induction xs with
  | nil => exact Option.none_or.symm
  | cons x xs ih => rw [List.cons_append, natural, ih, natural, Option.or_assoc]

theorem naturalOf_next (size count : Nat) (f : Faces) : naturalOf size (f.next count size) =
    if size = 20 ∧ count ≠ 0 then some (f.face 20) else none := by
  by_cases hsize : size = 20
  · subst hsize
    cases count with
    | zero => rfl
    | succ count =>
      rw [naturalOf, Faces.next, List.range_succ_eq_map]
      rfl
  · rw [naturalOf, if_neg (by simpa using hsize), if_neg fun h => hsize h.1]

theorem isSome_natural_deal {ls : List Lot} (hls : ∀ l ∈ ls, l.net ≠ 0) (f : Faces) :
    (natural (deal ls f)).isSome = true ↔ ∃ l ∈ ls, l.size = 20 := by
  induction ls generalizing f with
  | nil => simp [deal, natural]
  | cons l ls ih =>
    obtain ⟨hl, hls⟩ := List.forall_mem_cons.mp hls
    have hcount : l.count ≠ 0 := Int.natAbs_ne_zero.mpr hl
    rw [deal, natural, Option.isSome_or, Bool.or_eq_true, ih hls, List.exists_mem_cons_iff,
      naturalOf_next]
    refine or_congr_left ?_
    by_cases hsize : l.size = 20 <;> simp [hsize, hcount]

theorem natural_deal_bounds {ls : List Lot} {f : Faces} {n : Nat}
    (h : natural (deal ls f) = some n) : 1 ≤ n ∧ n ≤ 20 := by
  induction ls generalizing f with
  | nil => cases h
  | cons l ls ih =>
    rw [deal, natural, naturalOf_next] at h
    split at h
    · cases h
      exact f.face_bounds (by decide)
    · exact ih h

theorem natural_deal_of_ne {ls : List Lot} (hls : ∀ l ∈ ls, l.size ≠ 20) (f : Faces) :
    natural (deal ls f) = none := by
  induction ls generalizing f with
  | nil => rfl
  | cons l ls ih =>
    obtain ⟨hl, hls⟩ := List.forall_mem_cons.mp hls
    rw [deal, natural, naturalOf_next, if_neg fun h => hl h.1, ih hls, Option.none_or]

end Lot

/-- An expression whose natural face is that of the lots that it rolls. -/
def ShowsNatural (e : Expr) (ls : List Lot) : Prop :=
  ∀ f, (e.shown f).keptNatural = Lot.natural (Lot.deal ls f)

namespace ShowsNatural

theorem number (n : Nat) : ShowsNatural (.number n) [] := fun _ => rfl

theorem dice (l : Lot) : ShowsNatural (.dice l.count l.size) [l] := by
  intro f
  have hkept := keptFaces_true l.size (f.next l.count l.size)
  rw [Node.keptFaces] at hkept
  rw [Expr.shown, Node.keptNatural, hkept, Lot.deal, Lot.deal, Lot.natural, Lot.natural,
    Option.or_none]

theorem unary {e : Expr} {ls : List Lot} (h : ShowsNatural e ls) (s : Sign) :
    ShowsNatural (.unary s e) ls := h

end ShowsNatural

/-- An expression that shows what another one does, and then rolls lots and adds a number. -/
structure GoesOn (e₀ e : Expr) (ls : List Lot) (n : Int) : Prop where
  sides : e₀.HasSides → e.HasSides
  count : e.diceCount = e₀.diceCount + Lot.dice ls
  total : ∀ f, (e.shown f).total = (e₀.shown f).total +
    (((Lot.deal ls (f.skip e₀.diceCount)).map Lot.signedSum).sum + n)
  faces : ∀ f, (e.shown f).keptFaces =
    (e₀.shown f).keptFaces ++ (Lot.deal ls (f.skip e₀.diceCount)).flatMap (·.2)
  natural : ∀ f, (e.shown f).keptNatural =
    ((e₀.shown f).keptNatural).or (Lot.natural (Lot.deal ls (f.skip e₀.diceCount)))

namespace GoesOn

variable {e₀ e e' : Expr} {ls ms : List Lot} {m n : Int} {s : Sign}

theorem refl (e : Expr) : GoesOn e e [] 0 :=
  ⟨id, rfl, fun _ => (Int.add_zero _).symm, fun _ => (List.append_nil _).symm,
    fun _ => Option.or_none.symm⟩

theorem binary (h : GoesOn e₀ e ls m) (hr : Rolls s e' ms n) (hn : ShowsNatural e' ms) :
    GoesOn e₀ (.binary s e e') (ls ++ ms) (m + n) := by
  refine ⟨fun h₀ => ⟨h.sides h₀, hr.sides⟩, ?_, fun f => ?_, fun f => ?_, fun f => ?_⟩
  · rw [Expr.diceCount, h.count, hr.count, Lot.dice_append, Nat.add_assoc]
  · change (e.shown f).total + s.apply (e'.shown (f.skip e.diceCount)).total = _
    rw [h.total, hr.total, h.count, Lot.deal_append, Faces.skip_skip, List.map_append,
      List.sum_append]
    omega
  · change (e.shown f).keptFaces ++ (e'.shown (f.skip e.diceCount)).keptFaces = _
    rw [h.faces, hr.faces, h.count, Lot.deal_append, Faces.skip_skip, List.flatMap_append,
      List.append_assoc]
  · change ((e.shown f).keptNatural).or (e'.shown (f.skip e.diceCount)).keptNatural = _
    rw [h.natural, hn, h.count, Lot.deal_append, Faces.skip_skip, Lot.natural_append,
      Option.or_assoc]

theorem sumFrom {ι : Type} {sign : ι → Sign} {item : ι → Expr} {lots : ι → List Lot}
    {constant : ι → Int} {xs : List ι} (h : GoesOn e₀ e ls n)
    (hxs : ∀ x ∈ xs, Rolls (sign x) (item x) (lots x) (constant x))
    (hns : ∀ x ∈ xs, ShowsNatural (item x) (lots x)) :
    GoesOn e₀ (e.sumFrom sign item xs) (ls ++ xs.flatMap lots) (n + (xs.map constant).sum) := by
  induction xs generalizing e ls n with
  | nil =>
    rw [List.flatMap_nil, List.append_nil, List.map_nil, List.sum_nil, Int.add_zero]
    exact h
  | cons x xs ih =>
    obtain ⟨hx, hxs⟩ := List.forall_mem_cons.mp hxs
    obtain ⟨hn, hns⟩ := List.forall_mem_cons.mp hns
    have hrest := ih (h.binary hx hn) hxs hns
    rwa [List.append_assoc, Int.add_assoc, ← List.flatMap_cons, ← List.sum_cons,
      ← List.map_cons] at hrest

theorem showsNatural (h : GoesOn e₀ e ls n) (hn : ShowsNatural e₀ ms)
    (hcount : e₀.diceCount = Lot.dice ms) : ShowsNatural e (ms ++ ls) := by
  intro f
  rw [h.natural, hn, hcount, Lot.deal_append, Lot.natural_append]

end GoesOn

section Twice

variable {k : Keep} {e : Expr}

theorem keptFaces_twice (f : Faces) :
    ((e.twice k).shown f).keptFaces = (e.shown (e.keptFrom k f)).keptFaces := by
  rw [shown_twice, Node.keptFaces, Expr.keptFrom]
  split <;> simp [Node.membersFaces]

theorem keptNatural_twice (f : Faces) :
    ((e.twice k).shown f).keptNatural = (e.shown (e.keptFrom k f)).keptNatural := by
  rw [shown_twice, Node.keptNatural, Expr.keptFrom]
  split <;> simp [Node.membersNatural]

def Keep.pick : Keep → Nat → Nat → Nat
  | highest, a, b => max a b
  | lowest, a, b => min a b

theorem total_die (size : Nat) (f : Faces) :
    ((Expr.dice 1 size).shown f).total = f.face size := by
  rw [Expr.shown, Node.total, sumKept_true, Faces.next_one, List.sum_singleton]

theorem keptFaces_die (size : Nat) (f : Faces) :
    ((Expr.dice 1 size).shown f).keptFaces = [f.face size] := by
  rw [Expr.shown, keptFaces_true, Faces.next_one]

theorem keptNatural_die (f : Faces) :
    ((Expr.dice 1 20).shown f).keptNatural = some (f.face 20) := rfl

theorem face_keptFrom (k : Keep) (size : Nat) (f : Faces) :
    ((Expr.dice 1 size).keptFrom k f).face size =
      k.pick (f.face size) ((f.skip 1).face size) := by
  have hcount : (Expr.dice 1 size).diceCount = 1 := rfl
  rw [Expr.keptFrom, hcount, total_die, total_die]
  cases k with
  | highest =>
    by_cases h : f.face size < (f.skip 1).face size
    · rw [if_pos (by simpa [Keep.beats] using h)]
      exact (Nat.max_eq_right (Nat.le_of_lt h)).symm
    · rw [if_neg (by simpa [Keep.beats] using h)]
      exact (Nat.max_eq_left (Nat.le_of_not_lt h)).symm
  | lowest =>
    by_cases h : (f.skip 1).face size < f.face size
    · rw [if_pos (by simpa [Keep.beats] using h)]
      exact (Nat.min_eq_right (Nat.le_of_lt h)).symm
    · rw [if_neg (by simpa [Keep.beats] using h)]
      exact (Nat.min_eq_left (Nat.le_of_not_lt h)).symm

end Twice

end Encounter.Dice
