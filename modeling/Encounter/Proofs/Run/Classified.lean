import Encounter.Proofs.Run.Traced

namespace Encounter.Run

open ActionState

variable {δ σ : Type} {t : Table δ σ} {rest : List String} {w v : World δ σ}

/-- A run during the attack, which no damage and no save precedes. -/
structure Attacking (t : Table δ σ) (rest : List String) (s s' : ActionState) : Prop where
  wellFormed : s'.WellFormed
  carried : Carried Attack.stepId s s'
  shared : Attack.rollsSeparately t s.dialog = false → (s'.rollsOf Attack.stepId).length ≤ 1
  unharmed : ∀ id o, s'.outcome? id = some o → o.damageByType = [] ∧ o.save = none
  shown : ∀ id o r, s'.outcome? id = some o → o.attack = some r →
    ∃ roll, s'.lastRoll? Attack.stepId id = some roll ∧ Shows r roll
  attacked : Damage.stepId ∈ rest → ∀ id o, s'.outcome? id = some o → o.attack.isSome = true

namespace Attacking

variable {s s' s'' : ActionState}

theorem withPool (h : Attacking t rest s s') (p : Pool.DicePool) :
    Attacking t rest s (s'.withPool Attack.stepId p) where
  wellFormed := h.wellFormed.withPool _ _
  carried := h.carried.of_eq rfl rfl
  shared := h.shared
  unharmed := h.unharmed
  shown := h.shown
  attacked := h.attacked

/-- The attack on a target is recorded, which shows the last roll that was made for it. Since the
record before it only rolls for this target were made. -/
theorem resolved (h : Attacking t rest s s') (hw : s''.WellFormed)
    (hc : Carried Attack.stepId s s'') (ho : s''.outcomes = s'.outcomes)
    (hone : Attack.rollsSeparately t s.dialog = false → (s''.rollsOf Attack.stepId).length ≤ 1)
    (x : Target) (hother : ∀ id ≠ x.id,
      s''.lastRoll? Attack.stepId id = s'.lastRoll? Attack.stepId id) {roll : RollRecord}
    (hlast : s''.lastRoll? Attack.stepId x.id = some roll) {r : Check.Resolution}
    (hr : Shows r roll) : Attacking t rest s (s''.recorded x (Attack.recorded r)) := by
  have hout := outcome?_congr ho
  refine ⟨hw.recorded x _, hc.of_eq rfl rfl, hone, fun id o hid => ?_, fun id o r' hid hr' => ?_,
    fun hm id o hid => ?_⟩ <;> rw [outcome?_recorded, hout] at hid <;> split at hid
  · cases hid
    change (s''.outcomeOf x).damageByType = [] ∧ (s''.outcomeOf x).save = none
    rw [outcomeOf, hout]
    cases hx : s'.outcome? x.id with
    | none => exact ⟨rfl, rfl⟩
    | some o => exact h.unharmed x.id o hx
  · exact h.unharmed id o hid
  · rename_i he
    cases hid
    cases hr'
    exact ⟨roll, he ▸ hlast, hr⟩
  · rename_i hne
    obtain ⟨roll', hroll', hshow⟩ := h.shown id o r' hid hr'
    exact ⟨roll', (hother id hne).trans hroll', hshow⟩
  · cases hid
    rfl
  · exact h.attacked hm id o hid

theorem start (h : Tracing t (Attack.stepId :: rest) w) (hw : w.state.WellFormed) :
    Attacking t rest w.state w.state ∧ w.state.rollsOf Attack.stepId = [] ∧
      ∀ id o, w.state.outcome? id = some o → o.attack = none := by
  have hattack : w.state.rollsOf Attack.stepId = [] :=
    h.rollsOf_eq_nil List.mem_cons_self (Nat.le_refl _)
  have hdamage : w.state.rollsOf Damage.stepId = [] :=
    h.rollsOf_eq_nil List.mem_cons_self (by decide)
  have hsave : w.state.rollsOf Save.stepId = [] :=
    h.rollsOf_eq_nil List.mem_cons_self (by decide)
  have hnone : ∀ id o, w.state.outcome? id = some o → o.attack = none := by
    intro id o ho
    rw [Option.eq_none_iff_forall_ne_some]
    intro r hr
    obtain ⟨roll, hroll, -⟩ := h.traced.attack id o r ho hr
    rw [lastRoll?, hattack] at hroll
    cases hroll
  refine ⟨⟨hw, .refl _ _, ?_, fun id o ho => ⟨?_, ?_⟩, h.traced.attack,
    fun hm => h.attacked (List.mem_cons_of_mem _ hm)⟩, hattack, hnone⟩
  · rw [hattack]
    exact fun _ => Nat.zero_le 1
  · obtain ⟨plain, critical, hr⟩ := h.traced.damage
    obtain ⟨hp, hc⟩ := hr.eq_none hdamage
    rw [hr.shares id o ho, hp, hc, Damage.share_none]
  · rw [Option.eq_none_iff_forall_ne_some]
    intro r hr
    obtain ⟨roll, hroll, -⟩ := h.traced.save id o r ho hr
    rw [lastRoll?, hsave] at hroll
    cases hroll

theorem rolledOnce (h : Attacking t rest s s') (hrolls : s'.rollsOf Attack.stepId = [])
    (hnone : ∀ id o, s'.outcome? id = some o → o.attack = none) (formula : String)
    (o : Dice.Outcome) : Attacking t rest s (s'.rolled Attack.stepId formula none o) where
  wellFormed := h.wellFormed.rolled _ _ _ _
  carried := h.carried.rolled _ _ _
  shared _ := by
    rw [rollsOf_rolled, hrolls, if_pos rfl]
    exact Nat.le_refl 1
  unharmed := h.unharmed
  shown id o' _ hid hr := nomatch (hnone id o' hid).symm.trans hr
  attacked := h.attacked

theorem together (d : Dialog) (ms : List Check.RangeModification) {formula : String}
    {o : Dice.Outcome} {u : World δ σ} (h : Attacking t rest s u.state)
    (hlast : ∀ id, u.state.lastRoll? Attack.stepId id = some (.of Attack.stepId formula none o))
    (targets : List Target) :
    Attacking t rest s (perform (targets.forM (Attack.resolve t d ms o)) u).2.state := by
  refine (Preserves.forM (I := fun v : World δ σ => Attacking t rest s v.state ∧
    ∀ id, v.state.lastRoll? Attack.stepId id = some (.of Attack.stepId formula none o))
    (fun x _ v hv => ?_) u ⟨h, hlast⟩).1
  obtain ⟨hv, hroll⟩ := hv
  obtain ⟨es, hr⟩ := Attack.perform_resolve t d ms o x v hv.wellFormed
  rw [hr]
  exact ⟨hv.resolved hv.wellFormed hv.carried rfl hv.shared x (fun _ _ => rfl) (hroll x.id)
    (shows_classifyOutcome _ _ _ _ _ _ _ _ _), hroll⟩

theorem separately (d : Dialog) (ms : List Check.RangeModification) (formula : String)
    {u : World δ σ} (h : Attacking t rest s u.state)
    (hs : Attack.rollsSeparately t s.dialog = true) (targets : List Target) :
    Attacking t rest s (perform (targets.forM fun x => do
      let o ← t.roll Attack.stepId formula (some x.id)
      Attack.resolve t d ms o x) u).2.state := by
  refine Preserves.forM (I := fun v : World δ σ => Attacking t rest s v.state)
    (fun x _ v hv => ?_) u h
  refine Preserves.roll_bind_at (I := fun v : World δ σ => Attacking t rest s v.state)
    hv.wellFormed (fun _ => hv) fun o dice => ?_
  have hw := hv.wellFormed.rolled Attack.stepId formula (some x.id) o
  obtain ⟨es, hr⟩ := Attack.perform_resolve t d ms o x { v with
    state := v.state.rolled Attack.stepId formula (some x.id) o, dice := dice } hw
  rw [hr]
  have hlast : (v.state.rolled Attack.stepId formula (some x.id) o).lastRoll? Attack.stepId x.id =
      some (.of Attack.stepId formula (some x.id) o) := by
    rw [lastRoll?_rolled, if_pos (by simp)]
  refine hv.resolved hw (hv.carried.rolled _ _ _) rfl (fun hn => nomatch hn.symm.trans hs) x
    (fun id hne => ?_) hlast (shows_classifyOutcome _ _ _ _ _ _ _ _ _)
  rw [lastRoll?_rolled, if_neg (by simpa using Ne.symm hne)]

theorem tracing (h : Attacking t rest w.state v.state)
    (hw : Tracing t (Attack.stepId :: rest) w) (ho : InOrder (Attack.stepId :: rest)) :
    Tracing t rest v := by
  have hdamage : v.state.rollsOf Damage.stepId = [] :=
    (h.carried.others _ (by decide)).trans (hw.rollsOf_eq_nil List.mem_cons_self (by decide))
  refine ⟨h.carried.before ho hw.before, ⟨h.shown, ?_, ?_, none, none, ?_⟩, h.attacked, ?_⟩
  · exact fun hs => h.shared (h.carried.dialog ▸ hs)
  · intro id o r hid hr
    rw [(h.unharmed id o hid).2] at hr
    cases hr
  · refine ⟨⟨hdamage, nofun, nofun⟩, fun id o hid => ?_⟩
    rw [(h.unharmed id o hid).1, Damage.share_none]
  · exact fun _ hne => (hne hdamage).elim

end Attacking

/-- Every target gets a roll of its own, or all of them get the one roll that there is. -/
theorem Tracing.attack (h : Tracing t (Attack.stepId :: rest) w) (hw : w.state.WellFormed)
    (ho : InOrder (Attack.stepId :: rest)) : Tracing t rest (perform (Attack.run t) w).2 := by
  obtain ⟨hstart, hattack, hnone⟩ := Attacking.start h hw
  let I : World δ σ → Prop := fun v => Attacking t rest w.state v.state
  refine Attacking.tracing (v := (perform (Attack.run t) w).2) ?_ h ho
  refine Preserves.requireActor_bind_at (I := I) _ hstart fun a _ => ?_
  rw [perform_bind_ok _ (perform_readState w)]
  refine Preserves.lift_bind_at hstart fun pool _ => ?_
  rw [perform_bind_ok _ (perform_storePool hw _ _)]
  have hstored := hstart.withPool pool
  refine Preserves.lift_bind_at (I := I) hstored fun ms _ => ?_
  have honce := hstored.rolledOnce hattack hnone pool.formula
  split
  · exact Preserves.roll_bind_at hstored.wellFormed (fun _ => hstored) fun o _ => honce o
  split
  · exact hstored.separately _ ms pool.formula ‹_› _
  · refine Preserves.roll_bind_at (I := I) hstored.wellFormed (fun _ => hstored) fun o _ => ?_
    exact (honce o).together _ ms (fun id => (lastRoll?_rolled ..).trans (if_pos rfl)) _

/-- A run during the saves: what was recorded of a target before them stays, and a new record tells
of a save only. There is none of these if damage was rolled. -/
structure Saving (s s' : ActionState) : Prop where
  wellFormed : s'.WellFormed
  carried : Carried Save.stepId s s'
  plainPool : Entries.get? s'.pools "damage" = Entries.get? s.pools "damage"
  criticalPool : Entries.get? s'.pools "damage-critical" = Entries.get? s.pools "damage-critical"
  kept : ∀ id, (s.outcome? id).isSome = true → (s'.outcome? id).isSome = true
  records : ∀ id o', s'.outcome? id = some o' → ∃ o, SameHarm o o' ∧
    (s.outcome? id = some o ∨ s.rollsOf Damage.stepId = [] ∧ o.Harmless ∧ o.attack = none)
  shown : ∀ id o r, s'.outcome? id = some o → o.save = some r →
    ∃ roll, s'.lastRoll? Save.stepId id = some roll ∧ Shows r roll

namespace Saving

variable {s s' : ActionState} {x : Target}

theorem refl (hw : w.state.WellFormed) (h : Traced t w.state) : Saving w.state w.state where
  wellFormed := hw
  carried := .refl _ _
  plainPool := rfl
  criticalPool := rfl
  kept _ h := h
  records _ o h := ⟨o, .refl o, .inl h⟩
  shown := h.save

theorem withPool (h : Saving s s') (x : Target) (p : Pool.DicePool) :
    Saving s (s'.withPool (Save.poolKey x) p) := by
  have hkey : ∀ key, key = "damage" ∨ key = "damage-critical" →
      Entries.get? (s'.withPool (Save.poolKey x) p).pools key = Entries.get? s'.pools key := by
    intro key hk
    refine (Entries.get?_put ..).trans (if_neg ?_)
    rintro rfl
    have hchars := hk.imp (congrArg String.toList) (congrArg String.toList)
    rw [Save.toList_poolKey] at hchars
    simp at hchars
  exact ⟨h.wellFormed.withPool _ _, h.carried.of_eq rfl rfl,
    (hkey _ (.inl rfl)).trans h.plainPool, (hkey _ (.inr rfl)).trans h.criticalPool, h.kept,
    h.records, h.shown⟩

/-- What is recorded of a target was recorded before the saves, or there is no damage. -/
theorem opened (h : Saving s s')
    (hx : s.rollsOf Damage.stepId ≠ [] → (s.outcome? x.id).isSome = true) :
    ∃ o, SameHarm o (s'.outcomeOf x) ∧ (s.outcome? x.id = some o ∨
      s.rollsOf Damage.stepId = [] ∧ o.Harmless ∧ o.attack = none) := by
  rw [outcomeOf]
  cases hout : s'.outcome? x.id with
  | none =>
    refine ⟨.ofTarget x, .refl _, .inr ⟨?_, TargetOutcome.harmless_ofTarget x, rfl⟩⟩
    refine Decidable.byContradiction fun hne => ?_
    have hsome := h.kept x.id (hx hne)
    rw [hout] at hsome
    cases hsome
  | some o => exact h.records x.id o hout

theorem resolved (h : Saving s s')
    (hx : s.rollsOf Damage.stepId ≠ [] → (s.outcome? x.id).isSome = true) {formula : String}
    {o : Dice.Outcome} {r : Check.Resolution}
    (hr : Shows r (.of Save.stepId formula (some x.id) o)) :
    Saving s ((s'.rolled Save.stepId formula (some x.id) o).recorded x (Save.recorded r)) := by
  refine ⟨h.wellFormed.of_steps rfl rfl, (h.carried.rolled formula (some x.id) o).of_eq rfl rfl,
    h.plainPool, h.criticalPool, fun id hid => ?_, fun id o' ho' => ?_, fun id o' r' ho' hr' => ?_⟩
  · rw [outcome?_recorded]
    split
    · rfl
    · exact h.kept id hid
  · rw [outcome?_recorded] at ho'
    split at ho'
    · rename_i hid
      cases ho'
      obtain ⟨o₀, hsame, ho₀⟩ := h.opened hx
      exact ⟨o₀, ⟨hsame.attack, hsame.hit, hsame.critical, hsame.damage⟩, hid ▸ ho₀⟩
    · exact h.records id o' ho'
  · have hlast : ((s'.rolled Save.stepId formula (some x.id) o).recorded x
        (Save.recorded r)).lastRoll? Save.stepId id = if x.id = id then
          some (.of Save.stepId formula (some x.id) o) else s'.lastRoll? Save.stepId id := by
      refine (lastRoll?_rolled s' Save.stepId formula (some x.id) o id).trans ?_
      simp
    rw [outcome?_recorded] at ho'
    rw [hlast]
    split at ho'
    · rename_i hid
      cases ho'
      cases hr'
      exact ⟨_, if_pos hid.symm, hr⟩
    · rename_i hne
      rw [if_neg (Ne.symm hne)]
      exact h.shown id o' r' ho' hr'

theorem resolve (hx : s.rollsOf Damage.stepId ≠ [] → (s.outcome? x.id).isSome = true) (d : Dialog)
    (dc : Int) : Preserves (fun v : World δ σ => Saving s v.state) (Save.resolve t d dc x) := by
  refine Preserves.lift_bind fun pool _ v h => ?_
  rw [perform_bind_ok _ (perform_storePool h.wellFormed _ _)]
  have hstored := h.withPool x pool
  refine Preserves.roll_bind_at (I := fun v : World δ σ => Saving s v.state) hstored.wellFormed
    (fun _ => hstored) fun o dice => ?_
  have hr := hstored.resolved hx
    (shows_classifyOutcome t.engine Save.stepId pool.formula (some x.id) o dc .save none [])
  have hw := hstored.wellFormed.rolled Save.stepId pool.formula (some x.id) o
  obtain ⟨es, hn⟩ := perform_reportNatural o { v with
    state := (v.state.withPool (Save.poolKey x) pool).rolled Save.stepId pool.formula (some x.id) o
    dice := dice }
  rw [perform_bind_ok _ hn, perform_bind_ok _ (perform_record hw x _)]
  exact hr

theorem traced (h : Saving w.state s') (ht : Traced t w.state) : Traced t s' := by
  refine ⟨fun id o' r ho' hr => ?_, fun hs => ?_, h.shown, ?_⟩
  · rw [h.carried.lastRoll? (by decide)]
    obtain ⟨o, hsame, ho | ⟨-, -, hnone⟩⟩ := h.records id o' ho'
    · exact ht.attack id o r ho (hsame.attack ▸ hr)
    · exact nomatch (hsame.attack.trans hnone).symm.trans hr
  · rw [h.carried.others _ (by decide)]
    exact ht.shared (h.carried.dialog ▸ hs)
  · obtain ⟨plain, critical, hrolls⟩ := ht.damage
    refine ⟨plain, critical, ⟨?_, h.plainPool ▸ hrolls.plainPool,
      h.criticalPool ▸ hrolls.criticalPool⟩, fun id o' ho' => ?_⟩
    · rw [h.carried.others _ (by decide)]
      exact hrolls.rolls
    · obtain ⟨o, hsame, ho | ⟨hnil, hharm, -⟩⟩ := h.records id o' ho'
      · rw [hsame.damage, hsame.share]
        exact hrolls.shares id o ho
      · obtain ⟨rfl, rfl⟩ := hrolls.eq_none hnil
        rw [hsame.damage, Damage.share_none]
        exact hharm.damage

end Saving

theorem Tracing.save (h : Tracing t (Save.stepId :: rest) w) (hw : w.state.WellFormed)
    (ho : InOrder (Save.stepId :: rest)) : Tracing t rest (perform (Save.run t) w).2 := by
  have hv : Saving w.state (perform (Save.run t) w).2.state := by
    have hstart := Saving.refl hw h.traced
    rw [Save.run, perform_bind_ok _ (perform_readState w)]
    split
    · exact hstart
    · exact Preserves.forM (I := fun v : World δ σ => Saving w.state v.state)
        (fun x hx => Saving.resolve (fun hne => h.opened List.mem_cons_self hne x hx) _ _) w hstart
  exact ⟨hv.carried.before ho h.before, hv.traced h.traced,
    fun hm => (ho.notMem_rest (by decide) hm).elim, fun hm => (ho.notMem_rest (by decide) hm).elim⟩

end Encounter.Run
