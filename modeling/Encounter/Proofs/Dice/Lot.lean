import Encounter.Proofs.Dice.Gather
import Mathlib.Algebra.Ring.Nat

namespace Encounter.Dice

/-- Dice of one size that a damage type is left with, counted with their sign. -/
structure Lot where
  damageType : String
  size : Nat
  net : Int
  deriving DecidableEq, Repr

namespace Lot

def count (l : Lot) : Nat := l.net.natAbs

def dice (ls : List Lot) : Nat := (ls.map count).sum

def deal : List Lot → Faces → List (Lot × List Nat)
  | [], _ => []
  | l :: ls, f => (l, f.next l.count l.size) :: deal ls (f.skip l.count)

def signedSum (d : Lot × List Nat) : Int := if d.1.net < 0 then -(d.2.sum : Int) else d.2.sum

theorem dice_cons (l : Lot) (ls : List Lot) : dice (l :: ls) = l.count + dice ls := rfl

theorem dice_append (ls ms : List Lot) : dice (ls ++ ms) = dice ls + dice ms := by
  rw [dice, List.map_append, List.sum_append, ← dice, ← dice]

theorem deal_append (ls ms : List Lot) (f : Faces) :
    deal (ls ++ ms) f = deal ls f ++ deal ms (f.skip (dice ls)) := by
  induction ls generalizing f with
  | nil => rfl
  | cons l ls ih =>
    rw [List.cons_append, deal, ih, deal, List.cons_append, Faces.skip_skip]
    rfl

theorem mem_of_mem_deal {ls : List Lot} {f : Faces} {d : Lot × List Nat} (h : d ∈ deal ls f) :
    d.1 ∈ ls := by
  induction ls generalizing f with
  | nil => cases h
  | cons l ls ih =>
    obtain rfl | h := List.mem_cons.mp h
    · exact List.mem_cons_self
    · exact List.mem_cons_of_mem l (ih h)

end Lot

/-- An expression that, with a sign in front, rolls lots in their order and adds a number. -/
structure Rolls (s : Sign) (e : Expr) (ls : List Lot) (n : Int) : Prop where
  sides : e.HasSides
  count : e.diceCount = Lot.dice ls
  total : ∀ f, s.apply (e.shown f).total = ((Lot.deal ls f).map Lot.signedSum).sum + n
  faces : ∀ f, (e.shown f).keptFaces = (Lot.deal ls f).flatMap (·.2)

def Bare (e : Expr) : Prop := ∀ f, (e.shown f).keptLabels = []

/-- An expression whose annotations name something and hold all of its total. -/
structure Annotated (e : Expr) : Prop where
  names : ∀ f, ∀ l ∈ (e.shown f).keptLabels, labelName l.1 ≠ []
  total : ∀ f, ((e.shown f).keptLabels.map (·.2)).sum = (e.shown f).total

theorem sumKept_true (faces : List Nat) :
    sumKept ((faces.map fun n => (true, n)).map fun f => (f.1, (f.2 : Int))) = faces.sum := by
  induction faces with
  | nil => rfl
  | cons n faces ih =>
    rw [List.map_cons, List.map_cons, List.sum_cons, Int.natCast_add, ← ih]
    rfl

theorem keptFaces_true (size : Nat) (faces : List Nat) :
    (Node.dice size (faces.map fun n => (true, n))).keptFaces = faces := by
  rw [Node.keptFaces, List.filter_eq_self.mpr (by simp), List.map_map]
  exact List.map_id faces

namespace Rolls

variable {s : Sign} {e e' : Expr} {ls ms : List Lot} {m n : Int}

theorem number (s : Sign) (n : Nat) : Rolls s (.number n) [] (s.apply n) :=
  ⟨trivial, rfl, fun _ => (Int.zero_add _).symm, fun _ => rfl⟩

theorem dice (l : Lot) (hsize : 0 < l.size) :
    Rolls (if l.net < 0 then .minus else .plus) (.dice l.count l.size) [l] 0 := by
  refine ⟨fun _ => hsize, (Nat.add_zero _).symm, fun f => ?_, fun f => ?_⟩
  · rw [Expr.shown, Node.total, sumKept_true, Int.add_zero, Lot.deal, Lot.deal, List.map_singleton,
      List.sum_singleton, Lot.signedSum]
    split <;> rfl
  · rw [Expr.shown, keptFaces_true, Lot.deal, Lot.deal, List.flatMap_singleton]

theorem unary (h : Rolls s e ls n) : Rolls .plus (.unary s e) ls n :=
  ⟨h.sides, h.count, h.total, h.faces⟩

theorem binary (hl : Rolls .plus e ls m) (hr : Rolls s e' ms n) :
    Rolls .plus (.binary s e e') (ls ++ ms) (m + n) := by
  refine ⟨⟨hl.sides, hr.sides⟩, ?_, fun f => ?_, fun f => ?_⟩
  · rw [Expr.diceCount, hl.count, hr.count, Lot.dice_append]
  · have htotal : (e.shown f).total = ((Lot.deal ls f).map Lot.signedSum).sum + m := hl.total f
    change (e.shown f).total + s.apply (e'.shown (f.skip e.diceCount)).total = _
    rw [htotal, hr.total, hl.count, Lot.deal_append, List.map_append, List.sum_append]
    omega
  · change (e.shown f).keptFaces ++ (e'.shown (f.skip e.diceCount)).keptFaces = _
    rw [hl.faces, hr.faces, hl.count, Lot.deal_append, List.flatMap_append]

theorem grouped (h : Rolls .plus e ls n) : Rolls .plus (.group [] [e]) ls n := by
  refine ⟨⟨h.sides, trivial⟩, h.count, fun f => ?_, fun f => ?_⟩
  · exact (Int.add_zero _).trans (h.total f)
  · exact (List.append_nil _).trans (h.faces f)

theorem labelled (h : Rolls .plus e ls n) (t : List Char) : Rolls .plus (.labelled t e) ls n :=
  ⟨h.sides, h.count, h.total, h.faces⟩

theorem sumFrom {ι : Type} {sign : ι → Sign} {item : ι → Expr} {lots : ι → List Lot}
    {constant : ι → Int} {xs : List ι} (h : Rolls .plus e ls n)
    (hxs : ∀ x ∈ xs, Rolls (sign x) (item x) (lots x) (constant x)) :
    Rolls .plus (e.sumFrom sign item xs) (ls ++ xs.flatMap lots) (n + (xs.map constant).sum) := by
  induction xs generalizing e ls n with
  | nil =>
    rw [List.flatMap_nil, List.append_nil, List.map_nil, List.sum_nil, Int.add_zero]
    exact h
  | cons x xs ih =>
    obtain ⟨hx, hxs⟩ := List.forall_mem_cons.mp hxs
    have hrest := ih (h.binary hx) hxs
    rwa [List.append_assoc, Int.add_assoc, ← List.flatMap_cons, ← List.sum_cons,
      ← List.map_cons] at hrest

end Rolls

namespace Bare

variable {e e' : Expr}

theorem number (n : Nat) : Bare (.number n) := fun _ => rfl

theorem dice (count size : Nat) : Bare (.dice count size) := fun _ => rfl

theorem unary (h : Bare e) (s : Sign) : Bare (.unary s e) := h

theorem binary (hl : Bare e) (hr : Bare e') (s : Sign) : Bare (.binary s e e') := by
  intro f
  change (e.shown f).keptLabels ++ (e'.shown _).keptLabels = []
  rw [hl, hr, List.append_nil]

theorem grouped (h : Bare e) : Bare (.group [] [e]) :=
  fun f => (List.append_nil _).trans (h f)

theorem keptLabels_labelled (h : Bare e) (t : List Char) (f : Faces) :
    ((Expr.labelled t e).shown f).keptLabels = [(t, (e.shown f).total)] := by
  change (t, (e.shown f).total) :: (e.shown f).keptLabels = _
  rw [h f]

theorem labelled (h : Bare e) {t : List Char} (ht : labelName t ≠ []) :
    Annotated (.labelled t e) := by
  refine ⟨fun f l hl => ?_, fun f => ?_⟩
  · rw [h.keptLabels_labelled, List.mem_singleton] at hl
    rw [hl]
    exact ht
  · rw [h.keptLabels_labelled]
    exact Int.add_zero _

end Bare

theorem Bare.sumFrom {ι : Type} {sign : ι → Sign} {item : ι → Expr} {e : Expr} {xs : List ι}
    (h : Bare e) (hxs : ∀ x ∈ xs, Bare (item x)) : Bare (e.sumFrom sign item xs) := by
  induction xs generalizing e with
  | nil => exact h
  | cons x xs ih =>
    obtain ⟨hx, hxs⟩ := List.forall_mem_cons.mp hxs
    exact ih (h.binary hx (sign x)) hxs

theorem Annotated.plus {e e' : Expr} (hl : Annotated e) (hr : Annotated e') :
    Annotated (.binary .plus e e') := by
  refine ⟨fun f l h => ?_, fun f => ?_⟩
  · obtain h | h := List.mem_append.mp h
    · exact hl.names f l h
    · exact hr.names _ l h
  · change (((e.shown f).keptLabels ++ (e'.shown _).keptLabels).map (·.2)).sum = _
    rw [List.map_append, List.sum_append, hl.total, hr.total]
    rfl

theorem Annotated.sumFrom {ι : Type} {item : ι → Expr} {e : Expr} {xs : List ι}
    (h : Annotated e) (hxs : ∀ x ∈ xs, Annotated (item x)) :
    Annotated (e.sumFrom (fun _ => .plus) item xs) := by
  induction xs generalizing e with
  | nil => exact h
  | cons x xs ih =>
    obtain ⟨hx, hxs⟩ := List.forall_mem_cons.mp hxs
    exact ih (h.plus hx) hxs

end Encounter.Dice
