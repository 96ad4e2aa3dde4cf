import Encounter.Dice.Roll

namespace Encounter.Dice

namespace Faces

theorem skip_skip (f : Faces) (m n : Nat) : (f.skip m).skip n = f.skip (m + n) := by
  rw [skip, skip, skip, Nat.add_assoc]

end Faces

namespace Expr

mutual

def diceCount : Expr → Nat
  | number _ => 0
  | dice count _ => count
  | unary _ e => e.diceCount
  | binary _ l r => l.diceCount + r.diceCount
  | group _ ms => membersCount ms
  | labelled _ e => e.diceCount

def membersCount : List Expr → Nat
  | [] => 0
  | e :: rest => e.diceCount + membersCount rest

end

mutual

def HasSides : Expr → Prop
  | number _ => True
  | dice count size => 0 < count → 0 < size
  | unary _ e => e.HasSides
  | binary _ l r => l.HasSides ∧ r.HasSides
  | group _ ms => MembersHaveSides ms
  | labelled _ e => e.HasSides

def MembersHaveSides : List Expr → Prop
  | [] => True
  | e :: rest => e.HasSides ∧ MembersHaveSides rest

end

mutual

/-- What an expression shows if its dice are not limited. -/
def shown (f : Faces) : Expr → Node
  | number n => .number n
  | dice count size => .dice size ((f.next count size).map fun n => (true, n))
  | unary s e => .unary s (e.shown f)
  | binary s l r => .binary s (l.shown f) (r.shown (f.skip l.diceCount))
  | group ks ms =>
    let n := Node.group ks (shownMembers f ms)
    if ks.isEmpty then n else n.keep ks
  | labelled t e => .labelled t (e.shown f)

def shownMembers (f : Faces) : List Expr → List (Bool × Node)
  | [] => []
  | e :: rest => (true, e.shown f) :: shownMembers (f.skip e.diceCount) rest

end

def sumFrom {ι : Type} (sign : ι → Sign) (item : ι → Expr) (e : Expr) (xs : List ι) : Expr :=
  xs.foldl (fun acc x => .binary (sign x) acc (item x)) e

end Expr

namespace RollM

variable {α β : Type} {s s' : Supply}

theorem run_throw (t : Trouble) (s : Supply) :
    (throw t : RollM α).run.run s = (.error t, s) := rfl

theorem run_get (s : Supply) : (get : RollM Supply).run.run s = (.ok s, s) := rfl

theorem run_set (s' s : Supply) : (set s' : RollM PUnit).run.run s = (.ok ⟨⟩, s') := rfl

theorem run_bind_ok {x : RollM α} {a : α} (h : x.run.run s = (.ok a, s')) (f : α → RollM β) :
    (x >>= f).run.run s = (f a).run.run s' := by
  simp only [ExceptT.run_bind, StateT.run_bind, h]
  rfl

theorem run_bind_error {x : RollM α} {t : Trouble} (h : x.run.run s = (.error t, s'))
    (f : α → RollM β) : (x >>= f).run.run s = (.error t, s') := by
  simp only [ExceptT.run_bind, StateT.run_bind, h]
  rfl

theorem exists_of_run_bind {x : RollM α} {f : α → RollM β} {b : β}
    (h : (x >>= f).run.run s = (.ok b, s')) :
    ∃ a s₁, x.run.run s = (.ok a, s₁) ∧ (f a).run.run s₁ = (.ok b, s') := by
  cases hx : x.run.run s with
  | mk rolled s₁ =>
    cases rolled with
    | error t =>
      rw [run_bind_error hx] at h
      cases h
    | ok a =>
      rw [run_bind_ok hx] at h
      exact ⟨a, s₁, rfl, h⟩

end RollM

def Supply.after (s : Supply) (count : Nat) : Supply := ⟨s.faces.skip count, s.rolled + count⟩

@[simp] theorem Supply.rolled_after (s : Supply) (count : Nat) :
    (s.after count).rolled = s.rolled + count := rfl

theorem Supply.after_after (s : Supply) (m n : Nat) : (s.after m).after n = s.after (m + n) := by
  rw [after, after, after, Faces.skip_skip, Nat.add_assoc]

theorem rollDice_run {count size : Nat} (hsize : 0 < count → 0 < size) (s : Supply) :
    (rollDice count size).run.run s =
      (if min count (diceLimit - s.rolled) < count then .error .tooManyDice
        else .ok ((Expr.dice count size).shown s.faces),
        s.after (min count (diceLimit - s.rolled))) := by
  have hguard : (decide (0 < count) && size == 0) = false := by
    by_cases hc : 0 < count
    · have hs : size ≠ 0 := Nat.pos_iff_ne_zero.mp (hsize hc)
      simp [hs]
    · simp [hc]
  unfold rollDice
  rw [hguard, if_neg Bool.false_ne_true]
  rw [RollM.run_bind_ok (RollM.run_get s), RollM.run_bind_ok (RollM.run_set _ s)]
  by_cases hlt : min count (diceLimit - s.rolled) < count
  · rw [if_pos hlt, if_pos hlt, RollM.run_bind_error (RollM.run_throw _ _)]
    rfl
  · have hmin : min count (diceLimit - s.rolled) = count := by omega
    rw [if_neg hlt, if_neg hlt, hmin]
    rfl

mutual

theorem hasSides_of_roll : ∀ (e : Expr) {s s' : Supply} {n : Node},
    e.roll.run.run s = (.ok n, s') → e.HasSides
  | .number n, _, _, _, _ => trivial
  | .dice count size, s, _, _, h => by
    intro hcount
    refine Nat.pos_of_ne_zero fun hsize => ?_
    have hguard : (decide (0 < count) && size == 0) = true := by simp [hcount, hsize]
    rw [Expr.roll, rollDice, hguard, if_pos rfl, RollM.run_bind_error (RollM.run_throw _ s)] at h
    cases h
  | .unary sign e, _, _, _, h => by
    rw [Expr.roll] at h
    obtain ⟨n, s₁, he, -⟩ := RollM.exists_of_run_bind h
    exact hasSides_of_roll e he
  | .binary sign l r, _, _, _, h => by
    rw [Expr.roll] at h
    obtain ⟨m, s₁, hl, h⟩ := RollM.exists_of_run_bind h
    obtain ⟨n, s₂, hr, -⟩ := RollM.exists_of_run_bind h
    exact ⟨hasSides_of_roll l hl, hasSides_of_roll r hr⟩
  | .group ks ms, _, _, _, h => by
    rw [Expr.roll] at h
    obtain ⟨ns, s₁, hms, -⟩ := RollM.exists_of_run_bind h
    exact membersHaveSides_of_roll ms hms
  | .labelled t e, _, _, _, h => by
    rw [Expr.roll] at h
    obtain ⟨n, s₁, he, -⟩ := RollM.exists_of_run_bind h
    exact hasSides_of_roll e he

theorem membersHaveSides_of_roll : ∀ (ms : List Expr) {s s' : Supply} {ns : List (Bool × Node)},
    (rollMembers ms).run.run s = (.ok ns, s') → Expr.MembersHaveSides ms
  | [], _, _, _, _ => trivial
  | e :: rest, _, _, _, h => by
    rw [rollMembers] at h
    obtain ⟨n, s₁, he, h⟩ := RollM.exists_of_run_bind h
    obtain ⟨ns, s₂, hrest, -⟩ := RollM.exists_of_run_bind h
    exact ⟨hasSides_of_roll e he, membersHaveSides_of_roll rest hrest⟩

end

mutual

/-- An expression whose dice stay within the limit shows what the stream holds. -/
theorem roll_within {s : Supply} : ∀ e : Expr, e.HasSides → s.rolled + e.diceCount ≤ diceLimit →
    e.roll.run.run s = (.ok (e.shown s.faces), s.after e.diceCount)
  | .number n, _, _ => rfl
  | .dice count size, hsides, h => by
    have hmin : min count (diceLimit - s.rolled) = count := by
      have : s.rolled + count ≤ diceLimit := h
      omega
    rw [Expr.roll, rollDice_run hsides, hmin, if_neg (Nat.lt_irrefl count)]
    rfl
  | .unary sign e, hsides, h => by
    rw [Expr.roll, RollM.run_bind_ok (roll_within e hsides h)]
    rfl
  | .binary sign l r, hsides, h => by
    have hcount : s.rolled + (l.diceCount + r.diceCount) ≤ diceLimit := h
    have hl := roll_within (s := s) l hsides.1 (by omega)
    have hr := roll_within (s := s.after l.diceCount) r hsides.2
      (by rw [Supply.rolled_after]; omega)
    rw [Expr.roll, RollM.run_bind_ok hl, RollM.run_bind_ok hr, Supply.after_after]
    rfl
  | .group ks ms, hsides, h => by
    rw [Expr.roll, RollM.run_bind_ok (rollMembers_within ms hsides h)]
    rfl
  | .labelled t e, hsides, h => by
    rw [Expr.roll, RollM.run_bind_ok (roll_within e hsides h)]
    rfl

theorem rollMembers_within {s : Supply} : ∀ ms : List Expr, Expr.MembersHaveSides ms →
    s.rolled + Expr.membersCount ms ≤ diceLimit →
    (rollMembers ms).run.run s =
      (.ok (Expr.shownMembers s.faces ms), s.after (Expr.membersCount ms))
  | [], _, _ => rfl
  | e :: rest, hsides, h => by
    have hcount : s.rolled + (e.diceCount + Expr.membersCount rest) ≤ diceLimit := h
    have he := roll_within (s := s) e hsides.1 (by omega)
    have hrest := rollMembers_within (s := s.after e.diceCount) rest hsides.2
      (by rw [Supply.rolled_after]; omega)
    rw [rollMembers, RollM.run_bind_ok he, RollM.run_bind_ok hrest, Supply.after_after]
    rfl

end

mutual

/-- An expression with more dice than the limit allows takes the dice up to the limit. -/
theorem roll_beyond {s : Supply} : ∀ e : Expr, e.HasSides → s.rolled ≤ diceLimit →
    diceLimit < s.rolled + e.diceCount →
    e.roll.run.run s = (.error .tooManyDice, s.after (diceLimit - s.rolled))
  | .number n, _, hs, h => by
    have : diceLimit < s.rolled := h
    omega
  | .dice count size, hsides, hs, h => by
    have hcount : diceLimit < s.rolled + count := h
    have hmin : min count (diceLimit - s.rolled) = diceLimit - s.rolled := by omega
    rw [Expr.roll, rollDice_run hsides, hmin, if_pos (by omega)]
  | .unary sign e, hsides, hs, h => by
    rw [Expr.roll, RollM.run_bind_error (roll_beyond e hsides hs h)]
  | .binary sign l r, hsides, hs, h => by
    have hcount : diceLimit < s.rolled + (l.diceCount + r.diceCount) := h
    rw [Expr.roll]
    by_cases hl : s.rolled + l.diceCount ≤ diceLimit
    · have hr := roll_beyond (s := s.after l.diceCount) r hsides.2 hl
        (by rw [Supply.rolled_after]; omega)
      rw [RollM.run_bind_ok (roll_within l hsides.1 hl), RollM.run_bind_error hr,
        Supply.after_after, Supply.rolled_after]
      congr 2
      omega
    · rw [RollM.run_bind_error (roll_beyond l hsides.1 hs (by omega))]
  | .group ks ms, hsides, hs, h => by
    rw [Expr.roll, RollM.run_bind_error (rollMembers_beyond ms hsides hs h)]
  | .labelled t e, hsides, hs, h => by
    rw [Expr.roll, RollM.run_bind_error (roll_beyond e hsides hs h)]

theorem rollMembers_beyond {s : Supply} : ∀ ms : List Expr, Expr.MembersHaveSides ms →
    s.rolled ≤ diceLimit → diceLimit < s.rolled + Expr.membersCount ms →
    (rollMembers ms).run.run s = (.error .tooManyDice, s.after (diceLimit - s.rolled))
  | [], _, hs, h => by
    have : diceLimit < s.rolled := h
    omega
  | e :: rest, hsides, hs, h => by
    have hcount : diceLimit < s.rolled + (e.diceCount + Expr.membersCount rest) := h
    rw [rollMembers]
    by_cases he : s.rolled + e.diceCount ≤ diceLimit
    · have hrest := rollMembers_beyond (s := s.after e.diceCount) rest hsides.2 he
        (by rw [Supply.rolled_after]; omega)
      rw [RollM.run_bind_ok (roll_within e hsides.1 he), RollM.run_bind_error hrest,
        Supply.after_after, Supply.rolled_after]
      congr 2
      omega
    · rw [RollM.run_bind_error (roll_beyond e hsides.1 hs (by omega))]

end

end Encounter.Dice
