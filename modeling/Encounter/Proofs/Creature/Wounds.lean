import Encounter.Proofs.Creature.Roster
import Mathlib.Algebra.Order.BigOperators.Group.List
import Mathlib.Algebra.Ring.Int.Defs

namespace Encounter

namespace Actor

/-- Hit points after some amounts. The first of them takes what is below zero up to it. -/
def pointsLeft (hp : Int) : List Int → Int
  | [] => hp
  | amounts => max 0 (hp - amounts.sum)

def wounded (a : Actor) (amounts : List Int) : Actor := amounts.foldl takeDamage a

variable {a : Actor} {hp amount : Int} {amounts : List Int}

theorem wounded_untracked (ha : a.hitPoints = none) (amounts : List Int) :
    a.wounded amounts = a := by
  induction amounts with
  | nil => rfl
  | cons n amounts ih =>
    rw [wounded, List.foldl_cons, takeDamage_untracked ha]
    exact ih

theorem pointsLeft_cons (hp : Int) (hamounts : ∀ n ∈ amounts, 0 ≤ n) :
    pointsLeft (max 0 (hp - amount)) amounts = pointsLeft hp (amount :: amounts) := by
  have hsum : 0 ≤ amounts.sum := List.sum_nonneg hamounts
  cases amounts with
  | nil => simp [pointsLeft]
  | cons n amounts =>
    rw [List.sum_cons] at hsum
    simp only [pointsLeft, List.sum_cons]
    omega

theorem wounded_tracked (ha : a.hitPoints = some hp) (hamounts : ∀ n ∈ amounts, 0 ≤ n) :
    a.wounded amounts = { a with hitPoints := some (pointsLeft hp amounts) } := by
  induction amounts generalizing a hp with
  | nil =>
    cases a
    cases ha
    rfl
  | cons n amounts ih =>
    obtain ⟨-, hrest⟩ := List.forall_mem_cons.mp hamounts
    rw [wounded, List.foldl_cons, takeDamage_tracked ha]
    have hwounded := @ih { a with hitPoints := some (max 0 (hp - n)) } _ rfl hrest
    rw [pointsLeft_cons hp hrest] at hwounded
    exact hwounded

theorem pointsLeft_eq (hhp : 0 ≤ hp) (amounts : List Int) :
    pointsLeft hp amounts = max 0 (hp - amounts.sum) := by
  cases amounts with
  | nil =>
    rw [pointsLeft, List.sum_nil]
    omega
  | cons n amounts => rfl

theorem pointsLeft_of_neg (hhp : hp < 0) (hamounts : ∀ n ∈ amounts, 0 ≤ n) (hne : amounts ≠ []) :
    pointsLeft hp amounts = 0 := by
  have hsum : 0 ≤ amounts.sum := List.sum_nonneg hamounts
  obtain ⟨n, amounts, rfl⟩ := List.exists_cons_of_ne_nil hne
  rw [pointsLeft]
  · omega
  · simp

theorem hitPointsAfter_int (hp amount : Int) :
    hitPointsAfter hp (.int amount) = .ok (max 0 (hp - amount)) := by
  have hless : (Value.int 0).less? (.int (hp - amount)) = some (decide (0 < hp - amount)) :=
    congrArg some (Point.less_ofInt 0 (hp - amount))
  have hafter : hitPointsAfter hp (.int amount) =
      if some (decide (0 < hp - amount)) == some true then .ok (hp - amount) else .ok 0 := by
    rw [← hless]
    rfl
  rw [hafter]
  by_cases hpos : 0 < hp - amount
  · rw [decide_eq_true hpos, if_pos (by decide), Int.max_eq_right (Int.le_of_lt hpos)]
  · rw [decide_eq_false hpos, if_neg (by decide), Int.max_eq_left (Int.not_lt.mp hpos)]

theorem takeGiven_int (a : Actor) (amount : Int) :
    a.takeGiven (.int amount) = .ok (a.takeDamage amount) := by
  cases ha : a.hitPoints with
  | none => rw [takeGiven, ha, takeDamage_untracked ha]
  | some hp =>
    simp only [takeGiven, ha, hitPointsAfter_int, takeDamage_tracked ha]
    rfl

end Actor

namespace Roster

abbrev Blow := String × Int

def hurt (r : Roster) (blows : List Blow) : Roster :=
  blows.foldl (fun r b => (damage b.1 b.2 r).source) r

def amountsFor (id : String) (blows : List Blow) : List Int :=
  (blows.filter fun b => b.1 == id).map (·.2)

variable {r : Roster} {id : String} {a : Actor} {blows : List Blow}

theorem damage_unknown (h : r.find? id = none) (amount : Int) :
    damage id amount r = ⟨.error (unknownActor (.text id)), r, []⟩ := by
  rw [damage, h]

theorem damage_untracked (h : r.find? id = some a) (ha : a.hitPoints = none) (amount : Int) :
    damage id amount r = ⟨.ok none, r, []⟩ := by
  rw [damage, h]
  simp only [Actor.takeDamage_untracked ha, ha]

theorem damage_tracked {hp : Int} (h : r.find? id = some a) (ha : a.hitPoints = some hp)
    (amount : Int) : (damage id amount r).result = .ok (some (max 0 (hp - amount))) := by
  rw [damage, h]
  simp only [Actor.takeDamage_tracked ha]

theorem find?_source_damage (r : Roster) (id : String) (amount : Int) (k : String) :
    (damage id amount r).source.find? k =
      if k = id then (r.find? id).map (·.takeDamage amount) else r.find? k := by
  cases h : r.find? id with
  | none =>
    rw [damage_unknown h]
    split
    · rename_i hk
      rw [hk, h]
      rfl
    · rfl
  | some a => exact (find?_damage h amount).2 k

theorem damageGiven_int (r : Roster) (id : String) (amount : Int) :
    (damageGiven id (.int amount) r).1 = (damage id amount r).result ∧
    ∀ k, (damageGiven id (.int amount) r).2.find? k = (damage id amount r).source.find? k := by
  cases h : r.find? id with
  | none =>
    rw [damageGiven, h, damage_unknown h]
    exact ⟨rfl, fun _ => rfl⟩
  | some a =>
    rw [damageGiven, h]
    simp only [Actor.takeGiven_int]
    refine ⟨?_, fun k => ?_⟩
    · cases ha : a.hitPoints with
      | none => rw [damage_untracked h ha, Actor.takeDamage_untracked ha, ha]
      | some hp => rw [damage_tracked h ha, Actor.takeDamage_tracked ha]
    · rw [find?_source_damage, h]
      exact Entries.get?_put r k id _

theorem amountsFor_cons_self (b : Blow) (blows : List Blow) :
    amountsFor b.1 (b :: blows) = b.2 :: amountsFor b.1 blows := by
  rw [amountsFor, List.filter_cons_of_pos (by simp)]
  rfl

theorem amountsFor_cons_of_ne {b : Blow} (hb : b.1 ≠ id) (blows : List Blow) :
    amountsFor id (b :: blows) = amountsFor id blows := by
  rw [amountsFor, List.filter_cons_of_neg (by simpa using hb)]
  rfl

theorem amountsFor_append (id : String) (before after : List Blow) :
    amountsFor id (before ++ after) = amountsFor id before ++ amountsFor id after := by
  rw [amountsFor, List.filter_append, List.map_append]
  rfl

/-- An actor is left with what its own amounts make of it. -/
theorem find?_hurt (r : Roster) (id : String) (blows : List Blow) :
    (r.hurt blows).find? id = (r.find? id).map (·.wounded (amountsFor id blows)) := by
  induction blows generalizing r with
  | nil => exact Option.map_id'.symm
  | cons b blows ih =>
    have hhurt : r.hurt (b :: blows) = (damage b.1 b.2 r).source.hurt blows := rfl
    rw [hhurt, ih, find?_source_damage]
    by_cases hb : b.1 = id
    · subst hb
      rw [if_pos rfl, amountsFor_cons_self, Option.map_map]
      rfl
    · rw [if_neg (Ne.symm hb), amountsFor_cons_of_ne hb]

theorem amountsFor_nonneg (hblows : ∀ b ∈ blows, 0 ≤ b.2) (id : String) :
    ∀ n ∈ amountsFor id blows, 0 ≤ n := by
  intro n hn
  obtain ⟨b, hb, rfl⟩ := List.mem_map.mp hn
  exact hblows b (List.mem_filter.mp hb).1

theorem find?_hurt_tracked {hp : Int} (hblows : ∀ b ∈ blows, 0 ≤ b.2) (h : r.find? id = some a)
    (ha : a.hitPoints = some hp) : (r.hurt blows).find? id =
      some { a with hitPoints := some (Actor.pointsLeft hp (amountsFor id blows)) } := by
  rw [find?_hurt, h, Option.map_some, Actor.wounded_tracked ha (amountsFor_nonneg hblows id)]

/-- What a call with an amount that is not negative does. It raises hit points only if they are below
zero. -/
structure Landed (r : Roster) (id : String) (amount : Int) : Prop where
  unknown : r.find? id = none → damage id amount r = ⟨.error (unknownActor (.text id)), r, []⟩
  untracked : ∀ a, r.find? id = some a → a.hitPoints = none →
    damage id amount r = ⟨.ok none, r, []⟩
  tracked : ∀ a hp, r.find? id = some a → a.hitPoints = some hp →
    (damage id amount r).result = .ok (some (max 0 (hp - amount))) ∧
    (damage id amount r).source.find? id =
      some { a with hitPoints := some (max 0 (hp - amount)) } ∧
    (max 0 (hp - amount) ≤ hp ↔ 0 ≤ hp)
  others : ∀ k, k ≠ id → (damage id amount r).source.find? k = r.find? k
  given : (damageGiven id (.int amount) r).1 = (damage id amount r).result ∧
    ∀ k, (damageGiven id (.int amount) r).2.find? k = (damage id amount r).source.find? k

theorem landed (r : Roster) (id : String) {amount : Int} (h : 0 ≤ amount) :
    Landed r id amount where
  unknown hr := damage_unknown hr amount
  untracked a hr ha := damage_untracked hr ha amount
  tracked a hp hr ha := by
    refine ⟨damage_tracked hr ha amount, ?_, ?_⟩
    · rw [find?_source_damage, if_pos rfl, hr, Option.map_some, Actor.takeDamage_tracked ha]
    · omega
  others k hk := by rw [find?_source_damage, if_neg hk]
  given := damageGiven_int r id amount

/-- What calls with amounts that are not negative do to the actors of a roster, which depends on
whether they have hit points that are not below zero. -/
structure Wounds (r : Roster) (blows : List Blow) : Prop where
  each : ∀ before b after, blows = before ++ b :: after → Landed (r.hurt before) b.1 b.2
  unknown : ∀ id, r.find? id = none → (r.hurt blows).find? id = none
  untracked : ∀ id a, r.find? id = some a → a.hitPoints = none →
    (r.hurt blows).find? id = some a
  left : ∀ id a hp, r.find? id = some a → a.hitPoints = some hp → 0 ≤ hp →
    (r.hurt blows).find? id =
      some { a with hitPoints := some (max 0 (hp - (amountsFor id blows).sum)) }
  falling : ∀ before b after id a hp, blows = before ++ b :: after → r.find? id = some a →
    a.hitPoints = some hp → 0 ≤ hp → ∃ hp₁ hp₂,
      (r.hurt before).find? id = some { a with hitPoints := some hp₁ } ∧
      (r.hurt (before ++ [b])).find? id = some { a with hitPoints := some hp₂ } ∧
      0 ≤ hp₂ ∧ hp₂ ≤ hp₁
  alike : ∀ blows' : List Blow, (∀ b ∈ blows', 0 ≤ b.2) → ∀ id,
    (amountsFor id blows').sum = (amountsFor id blows).sum →
    (∀ a hp, r.find? id = some a → a.hitPoints = some hp → 0 ≤ hp) →
      (r.hurt blows').find? id = (r.hurt blows).find? id
  below : ∀ id a hp, r.find? id = some a → a.hitPoints = some hp → hp < 0 →
    (r.hurt blows).find? id =
      some { a with hitPoints := some (if amountsFor id blows = [] then hp else 0) }

theorem find?_hurt_of_nonneg {hp : Int} (hblows : ∀ b ∈ blows, 0 ≤ b.2) (h : r.find? id = some a)
    (ha : a.hitPoints = some hp) (hhp : 0 ≤ hp) : (r.hurt blows).find? id =
      some { a with hitPoints := some (max 0 (hp - (amountsFor id blows).sum)) } := by
  rw [find?_hurt_tracked hblows h ha, Actor.pointsLeft_eq hhp]

/-- Damage never heals an actor that has hit points, and only the sum of its amounts counts. -/
theorem hurt_wounds (r : Roster) (blows : List Blow) (hblows : ∀ b ∈ blows, 0 ≤ b.2) :
    Wounds r blows where
  each before b after hsplit := landed _ _ (hblows b (by simp [hsplit]))
  unknown id h := by rw [find?_hurt, h, Option.map_none]
  untracked id a h ha := by rw [find?_hurt, h, Option.map_some, Actor.wounded_untracked ha]
  left id a hp h ha hhp := find?_hurt_of_nonneg hblows h ha hhp
  falling before b after id a hp hsplit h ha hhp := by
    have hbefore : ∀ b ∈ before, 0 ≤ b.2 := fun b hb => hblows b (by simp [hsplit, hb])
    have hb : 0 ≤ b.2 := hblows b (by simp [hsplit])
    have hnow : ∀ c ∈ before ++ [b], 0 ≤ c.2 :=
      List.forall_mem_append.mpr ⟨hbefore, List.forall_mem_singleton.mpr hb⟩
    have hsum : (amountsFor id before).sum ≤ (amountsFor id (before ++ [b])).sum := by
      rw [amountsFor_append, List.sum_append]
      have := List.sum_nonneg (amountsFor_nonneg (List.forall_mem_singleton.mpr hb) id)
      omega
    refine ⟨_, _, find?_hurt_of_nonneg hbefore h ha hhp, find?_hurt_of_nonneg hnow h ha hhp, ?_, ?_⟩
    · omega
    · omega
  alike blows' hblows' id hsum hpoints := by
    cases h : r.find? id with
    | none => rw [find?_hurt, find?_hurt, h, Option.map_none, Option.map_none]
    | some a =>
      cases ha : a.hitPoints with
      | none =>
        rw [find?_hurt, find?_hurt, h, Option.map_some, Option.map_some,
          Actor.wounded_untracked ha, Actor.wounded_untracked ha]
      | some hp =>
        have hhp := hpoints a hp h ha
        rw [find?_hurt_of_nonneg hblows' h ha hhp, find?_hurt_of_nonneg hblows h ha hhp, hsum]
  below id a hp h ha hhp := by
    rw [find?_hurt_tracked hblows h ha]
    split
    · rename_i hnone
      rw [hnone]
      rfl
    · rename_i hsome
      rw [Actor.pointsLeft_of_neg hhp (amountsFor_nonneg hblows id) hsome]

def cellar : Roster := ofActors [{ id := "goblin", hitPoints := some 7 }, { id := "wall" }]

def brawl : List Blow := [("goblin", 5), ("wall", 2), ("ghost", 1), ("goblin", 10)]

theorem hurt_wounds_brawl : (∀ b ∈ brawl, 0 ≤ b.2) ∧
    (cellar.hurt brawl).find? "goblin" = some { id := "goblin", hitPoints := some 0 } ∧
    (cellar.hurt brawl).find? "wall" = some { id := "wall" } ∧
    damage "ghost" 1 (cellar.hurt [("goblin", 5), ("wall", 2)]) =
      ⟨.error (unknownActor (.text "ghost")), cellar.hurt [("goblin", 5), ("wall", 2)], []⟩ := by
  have hblows : ∀ b ∈ brawl, 0 ≤ b.2 := by decide
  have h := hurt_wounds cellar brawl hblows
  refine ⟨hblows, ?_, h.untracked "wall" _ rfl rfl, ?_⟩
  · exact h.left "goblin" _ 7 rfl rfl (by decide)
  · exact (h.each [("goblin", 5), ("wall", 2)] _ [("goblin", 10)] rfl).unknown rfl

def crypt : Roster := ofActors [{ id := "ghoul", hitPoints := some (-5) }]

/-- Damage heals the ghoul, even an amount of nothing does. -/
theorem ghoul_healed : (crypt.find? "ghoul").map (·.hitPoints) = some (some (-5)) ∧
    (damage "ghoul" 3 crypt).result = .ok (some 0) ∧
    (damage "ghoul" 0 crypt).result = .ok (some 0) ∧
    ((crypt.hurt [("ghoul", 0)]).find? "ghoul").map (·.hitPoints) = some (some 0) ∧
    (amountsFor "ghoul" [("ghoul", 0)]).sum = (amountsFor "ghoul" []).sum ∧
    ((crypt.hurt []).find? "ghoul").map (·.hitPoints) = some (some (-5)) := by
  exact ⟨rfl, rfl, rfl, rfl, rfl, rfl⟩

end Roster
end Encounter
