import Encounter.Creature.Lookup

namespace Encounter

namespace Actor

theorem takeDamage_untracked {a : Actor} (ha : a.hitPoints = none) (amount : Int) :
    a.takeDamage amount = a := by
  rw [takeDamage, ha]
  cases a
  cases ha
  rfl

theorem takeDamage_tracked {a : Actor} {hp : Int} (ha : a.hitPoints = some hp) (amount : Int) :
    a.takeDamage amount = { a with hitPoints := some (max 0 (hp - amount)) } := by
  rw [takeDamage, ha]
  rfl

def takeRepeated (a : Actor) (amount : Int) : Nat → Actor
  | 0 => a
  | n + 1 => (a.takeRepeated amount n).takeDamage amount

theorem hitPoints_takeRepeated {a : Actor} {hp amount : Int} (ha : a.hitPoints = some hp)
    (hhp : 0 ≤ hp) (hamount : 0 ≤ amount) (n : Nat) :
    (a.takeRepeated amount n).hitPoints = some (max 0 (hp - n * amount)) := by
  induction n with
  | zero =>
    rw [takeRepeated, ha]
    congr 1
    omega
  | succ n ih =>
    have hs : ((n + 1 : Nat) : Int) * amount = n * amount + amount := by
      rw [Int.natCast_add, Int.add_mul]
      omega
    have hn : 0 ≤ (n : Int) * amount := Int.mul_nonneg (Int.natCast_nonneg n) hamount
    rw [takeRepeated, takeDamage, ih, hs]
    change some (max 0 (max 0 (hp - n * amount) - amount)) = _
    congr 1
    omega

end Actor

namespace Roster

/-- Every actor is kept under its own id. -/
def Keyed (r : Roster) : Prop := ∀ e ∈ r, e.2.id = e.1

theorem keyed_ofActors (actors : List Actor) : (ofActors actors).Keyed := by
  have hadd : ∀ r : Roster, r.Keyed → ∀ a, (r.add a).Keyed := by
    intro r hr a e he
    obtain rfl | he := Entries.mem_put he
    · rfl
    · exact hr e he
  have hfold : ∀ r : Roster, r.Keyed → (actors.foldl add r).Keyed := by
    induction actors with
    | nil => exact fun r hr => hr
    | cons a as ih => exact fun r hr => ih (r.add a) (hadd r hr a)
  exact hfold [] fun e he => nomatch he

theorem Keyed.id_of_find? {r : Roster} (hr : r.Keyed) {id : String} {a : Actor}
    (h : r.find? id = some a) : a.id = id := hr _ (Entries.mem_of_get? h)

theorem Keyed.id_of_target? {r : Roster} (hr : r.Keyed) {id : String} {t : Target}
    (h : r.target? id = some t) : t.id = id := by
  obtain ⟨a, ha, rfl⟩ := Option.map_eq_some_iff.mp h
  exact hr.id_of_find? ha

theorem find?_damage {r : Roster} {id : String} {a : Actor} (h : r.find? id = some a)
    (amount : Int) :
    (∃ hp, (damage id amount r).result = .ok hp) ∧ ∀ k, (damage id amount r).source.find? k =
      if k = id then some (a.takeDamage amount) else r.find? k := by
  unfold damage
  rw [h]
  cases ha : a.hitPoints with
  | none =>
    simp only [Actor.takeDamage_untracked ha, ha]
    refine ⟨⟨none, rfl⟩, fun k => ?_⟩
    split
    · rename_i hk
      rw [hk, h]
    · rfl
  | some hp =>
    simp only [Actor.takeDamage_tracked ha]
    exact ⟨⟨_, rfl⟩, fun k => Entries.get?_put r k id _⟩

/-- The live targets are those that the roster finds, in the order of the ids. -/
theorem live_lookUp (r : Roster) (ids : List String) (step : Option String) :
    ((lookUp (fun id => source.target id r) ids step).map (·.target)).filter (·.isLive) =
      ids.filterMap r.target? := by
  induction ids with
  | nil => rfl
  | cons id ids ih =>
    have hs : source.target id r = .ok (r.target? id) := rfl
    rw [lookUp, List.map_cons, List.map_cons, ← lookUp, List.filter_cons, ih, List.filterMap_cons,
      hs]
    cases ht : r.target? id with
    | none => rfl
    | some t =>
      obtain ⟨a, -, rfl⟩ := Option.map_eq_some_iff.mp ht
      rfl

theorem Keyed.count_found {r : Roster} (hr : r.Keyed) {k : String}
    (hk : (r.find? k).isSome = true) (ids : List String) :
    ((ids.filterMap r.target?).map (·.id)).count k = ids.count k := by
  induction ids with
  | nil => rfl
  | cons id ids ih =>
    rw [List.filterMap_cons]
    cases ht : r.target? id with
    | none =>
      have hne : id ≠ k := by
        rintro rfl
        rw [target?, Option.map_eq_none_iff] at ht
        rw [ht] at hk
        cases hk
      rw [List.count_cons_of_ne hne]
      exact ih
    | some t =>
      rw [List.map_cons, hr.id_of_target? ht]
      rw [List.count_cons, List.count_cons, ih]

end Roster
end Encounter
