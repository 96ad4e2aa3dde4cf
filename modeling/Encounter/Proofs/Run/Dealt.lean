import Encounter.Proofs.Run.Traced

namespace Encounter.Run

open ActionState

variable {δ σ β : Type} {t : Table δ σ} {rest : List String} {w v : World δ σ}

/-- What follows an action that is taken if there is need of it may use what holds either way. -/
theorem Preserves.optional_at {I J : World δ σ → Prop} {p : Prop} [Decidable p]
    {m : RunM δ σ Unit} {g : Unit → RunM δ σ β} (hw : ¬ p → I w) (hm : p → I (perform m w).2)
    (hJ : ∀ u, I u → J u) (hg : ∀ u, I u → J (perform (g ()) u).2) :
    J (perform (if p then m >>= g else g ()) w).2 := by
  split
  · rename_i hp
    have hu := hm hp
    rw [perform_bind]
    rcases hm : perform m w with ⟨e | ⟨⟩, u⟩ <;> rw [hm] at hu
    · exact hJ u hu
    · exact hg u hu
  · rename_i hp
    exact hg w (hw hp)

namespace Damage

variable {s s' s'' : ActionState} {plain critical plain' critical' : Option RollRecord}

theorem ready_cases {id : String} {o : TargetOutcome} (h : (ready s).outcome? id = some o) :
    s.outcome? id = some o ∨
      s.outcome? id = none ∧ ∃ x ∈ affectedTargets s, x.id = id ∧ o = .ofTarget x := by
  rw [ready, outcome?_recordedAll_id] at h
  cases ho : s.outcome? id with
  | some o' =>
    rw [ho, Option.some_or] at h
    exact .inl h
  | none =>
    rw [ho, Option.none_or] at h
    obtain ⟨x, hx, rfl⟩ := Option.map_eq_some_iff.mp h
    exact .inr ⟨rfl, x, List.mem_of_find?_eq_some hx, by simpa using List.find?_some hx, rfl⟩

theorem outcome?_ready_of_some {id : String} {o : TargetOutcome} (h : s.outcome? id = some o) :
    (ready s).outcome? id = some o := by
  rw [ready, outcome?_recordedAll_id, h, Option.some_or]

theorem isSome_ready {x : Target} (h : x ∈ affectedTargets s) :
    ((ready s).outcome? x.id).isSome = true := by
  obtain ⟨z, o, ho⟩ := exists_outcome_recordedAll (f := fun _ => id) s ⟨x, h, rfl⟩
  rw [ready, ho, Option.isSome_some]

theorem mem_affected_iff {left : List String} (h : Sound s.targets left s.outcomes)
    (hattacked : ∀ id o, s.outcome? id = some o → o.attack.isSome = true) {id : String}
    {o : TargetOutcome} (ho : (ready s).outcome? id = some o) :
    id ∈ (affectedTargets s).map (·.id) ↔ o.hit ≠ some false := by
  obtain hold | ⟨hnone, x, hx, rfl, rfl⟩ := ready_cases ho
  · have hsound := h.each _ (Entries.mem_of_get? hold)
    have hattack := hattacked id o hold
    obtain ⟨x, hx, hlive, rfl⟩ := hsound.live
    have hmem := mem_affectedTargets_iff (List.mem_filter.mpr ⟨hx, hlive⟩) hold hattack
    obtain ⟨r, hr⟩ := Option.isSome_iff_exists.mp hattack
    have hhit : o.hit = some r.success := by rw [hsound.hit, hr, Option.map_some]
    constructor
    · intro hm
      obtain ⟨y, hy, hid⟩ := List.mem_map.mp hm
      have hy := unmissed_affectedTargets h y hy
      rwa [opened, hid, show Entries.get? s.outcomes x.id = some o from hold] at hy
    · intro hne
      refine List.mem_map_of_mem (hmem.mpr ?_)
      rw [hhit] at hne ⊢
      simpa using hne
  · exact iff_of_true (List.mem_map_of_mem hx) (Option.some_ne_none false).symm

theorem mem_filter_critical_iff {targets : List Target} {id : String} {o : TargetOutcome}
    (ho : (ready s).outcome? id = some o) (p : Bool → Bool) :
    id ∈ (targets.filter fun y => p (isCritical (ready s) y)).map (·.id) ↔
      id ∈ targets.map (·.id) ∧ p o.critical = true := by
  have hc : ∀ y : Target, y.id = id → isCritical (ready s) y = o.critical := by
    rintro y rfl
    rw [isCritical, ho]
    rfl
  simp only [List.mem_map, List.mem_filter]
  constructor
  · rintro ⟨y, ⟨hy, hp⟩, hid⟩
    exact ⟨⟨y, hy, hid⟩, hc y hid ▸ hp⟩
  · rintro ⟨⟨y, hy, hid⟩, hp⟩
    exact ⟨y, ⟨hy, (hc y hid).symm ▸ hp⟩, hid⟩

/-- What a run has recorded while damage is dealt: what it had before, with the shares of the rolls
so far. -/
structure Dealing (t : Table δ σ) (s : ActionState) (plain critical : Option RollRecord)
    (s' : ActionState) : Prop extends Rolled s' plain critical where
  wellFormed : s'.WellFormed
  carried : Carried stepId s s'
  targets : s'.targets = s.targets
  records : ∀ id, s'.outcome? id =
    ((ready s).outcome? id).map fun o => dealt (share t plain critical o) o

theorem Dealing.deal (h : Dealing t s plain critical s') (hw : s''.WellFormed)
    (hc : Carried stepId s s'') (ht : s''.targets = s'.targets) (ho : s''.outcomes = s'.outcomes)
    (hr : Rolled s'' plain' critical') {targets : List Target} {damage : List (String × Int)}
    (hopen : ∀ y ∈ targets, y ∈ affectedTargets s)
    (hshare : ∀ id o, (ready s).outcome? id = some o → share t plain' critical' o =
      if id ∈ targets.map (·.id) then damage else share t plain critical o) :
    Dealing t s plain' critical' (s''.recordedAll (fun _ => dealt damage) targets) := by
  have hout := outcome?_congr ho
  have hrecords : ∀ id, (s''.recordedAll (fun _ => dealt damage) targets).outcome? id =
      ((ready s).outcome? id).map fun o => dealt (share t plain' critical' o) o := by
    intro id
    have hsome : ∀ y ∈ targets, (s''.outcome? y.id).isSome = true := fun y hy => by
      rw [hout, h.records, Option.isSome_map]
      exact isSome_ready (hopen y hy)
    rw [outcome?_recordedAll_const s'' (g := dealt damage) (fun _ => rfl) hsome, hout, h.records,
      Option.map_map]
    cases hready : (ready s).outcome? id with
    | none => rfl
    | some o =>
      rw [Option.map_some, Option.map_some, hshare id o hready, Function.comp_apply]
      split <;> rfl
  have hwell := hw.recordedAll (fun _ => dealt damage) targets
  obtain ⟨outs, hframe⟩ := recordedAll_frame s'' (fun _ => dealt damage) targets
  rw [hframe] at hrecords hwell ⊢
  exact ⟨⟨hr.rolls, hr.plainPool, hr.criticalPool⟩, hwell, hc.of_eq rfl rfl, ht.trans h.targets,
    hrecords⟩

theorem Rolled.rollPlain (h : Rolled s none none) (p : Pool.DicePool) (o : Dice.Outcome) :
    Rolled ((s.withPool stepId p).rolled stepId p.formula none o)
      (some (.of stepId p.formula none o)) none where
  rolls := by
    have hnil : (s.withPool stepId p).rollsOf stepId = [] := h.rolls
    rw [rollsOf_rolled, hnil, if_pos rfl]
    rfl
  plainPool r hr := by
    cases hr
    exact ⟨p, (Entries.get?_put ..).trans (if_pos rfl), rfl⟩
  criticalPool := nofun

theorem Rolled.withCritical (h : Rolled s plain none) (p : Pool.DicePool) :
    Rolled (s.withPool "damage-critical" p) plain none where
  rolls := h.rolls
  plainPool r hr := by
    obtain ⟨q, hq, hf⟩ := h.plainPool r hr
    exact ⟨q, (Entries.get?_put ..).trans ((if_neg (by decide)).trans hq), hf⟩
  criticalPool := nofun

theorem Rolled.rollCritical (h : Rolled s plain none) (p : Pool.DicePool) (o : Dice.Outcome) :
    Rolled ((s.withPool "damage-critical" p).rolled stepId p.formula none o) plain
      (some (.of stepId p.formula none o)) where
  rolls := by
    have hplain : (s.withPool "damage-critical" p).rollsOf stepId = plain.toList ++ [] := h.rolls
    rw [rollsOf_rolled, hplain, if_pos rfl, List.append_nil]
    rfl
  plainPool := (h.withCritical p).plainPool
  criticalPool r hr := by
    cases hr
    exact ⟨p, (Entries.get?_put ..).trans (if_pos rfl), rfl⟩

theorem share_some_plain (t : Table δ σ) (roll : RollRecord) (critical : Option RollRecord)
    (o : TargetOutcome) : share t (some roll) critical o =
      if o.hit ≠ some false ∧ o.critical = false then roll.damage t.builder.baseType
      else share t none critical o := by
  unfold share
  by_cases hh : o.hit = some false <;> cases hc : o.critical <;> simp [hh]

theorem share_some_critical (t : Table δ σ) (plain : Option RollRecord) (roll : RollRecord)
    (o : TargetOutcome) : share t plain (some roll) o =
      if o.hit ≠ some false ∧ o.critical = true then
        if t.settings.rules.criticalRule = .doubleDamage then
          doubled (roll.damage t.builder.baseType)
        else roll.damage t.builder.baseType
      else share t plain none o := by
  unfold share
  by_cases hh : o.hit = some false <;> cases hc : o.critical <;> simp [hh]

theorem rollPool_bind_at {I : World δ σ → Prop} {a : Actor} {key : String} {critical : Bool}
    {f : Pool.DicePool × Dice.Outcome → RunM δ σ β} (hw : v.state.WellFormed) (hv : I v)
    (hp : ∀ p d, I { v with state := v.state.withPool key p, dice := d })
    (ho : ∀ p o d, I (perform (f (p, o)) { v with
      state := (v.state.withPool key p).rolled stepId p.formula none o, dice := d }).2) :
    I (perform (rollPool t a key critical >>= f) v).2 := by
  rw [rollPool, bind_assoc, perform_bind_ok _ (perform_readState v), bind_assoc]
  refine Preserves.lift_bind_at hv fun p _ => ?_
  rw [bind_assoc, perform_bind_ok _ (perform_storePool hw key p), bind_assoc]
  exact Preserves.roll_bind_at (hw.withPool key p) (hp p) fun o d => ho p o d

namespace Dealing

theorem withPool (h : Dealing t s plain critical s') {key : String} {p : Pool.DicePool}
    (hr : Rolled (s'.withPool key p) plain critical) :
    Dealing t s plain critical (s'.withPool key p) :=
  ⟨hr, h.wellFormed.withPool key p, h.carried.withPool key p, h.targets, h.records⟩

theorem rollNormal (h : Dealing t s none none v.state) (a : Actor) {targets : List Target}
    (hopen : ∀ y ∈ targets, y ∈ affectedTargets s)
    (hmem : ∀ id o, (ready s).outcome? id = some o →
      (id ∈ targets.map (·.id) ↔ o.hit ≠ some false ∧ o.critical = false)) :
    ∃ plain, Dealing t s plain none (perform (rollNormal t a targets) v).2.state := by
  refine rollPool_bind_at (I := fun u => ∃ plain, Dealing t s plain none u.state) h.wellFormed
    ⟨none, h⟩ (fun p d => ⟨none, h.withPool ⟨h.rolls, nofun, nofun⟩⟩)
    fun p o d => ⟨some (.of stepId p.formula none o), ?_⟩
  have hw := (h.wellFormed.withPool stepId p).rolled stepId p.formula none o
  obtain ⟨es, hd⟩ := perform_deal (totals t.builder.baseType o) targets (w := { v with
    state := (v.state.withPool stepId p).rolled stepId p.formula none o, dice := d }) hw
  dsimp only
  rw [hd]
  refine h.deal hw ((h.carried.withPool stepId p).rolled p.formula none o) rfl rfl
    (h.toRolled.rollPlain p o) hopen fun id o' ho' => ?_
  rw [share_some_plain, damage_of]
  simp only [hmem id o' ho']

theorem rollCritical (h : Dealing t s plain none v.state) (a : Actor) {targets : List Target}
    (hopen : ∀ y ∈ targets, y ∈ affectedTargets s)
    (hmem : ∀ id o, (ready s).outcome? id = some o →
      (id ∈ targets.map (·.id) ↔ o.hit ≠ some false ∧ o.critical = true)) :
    ∃ critical, Dealing t s plain critical (perform (rollCritical t a targets) v).2.state := by
  refine rollPool_bind_at (I := fun u => ∃ critical, Dealing t s plain critical u.state)
    h.wellFormed ⟨none, h⟩ (fun p d => ⟨none, h.withPool (h.toRolled.withCritical p)⟩)
    fun p o d => ⟨some (.of stepId p.formula none o), ?_⟩
  have hw := (h.wellFormed.withPool "damage-critical" p).rolled stepId p.formula none o
  obtain ⟨es, hd⟩ := perform_deal (if t.settings.rules.criticalRule == .doubleDice then
      totals t.builder.baseType o else doubled (totals t.builder.baseType o)) targets (w := { v with
    state := (v.state.withPool "damage-critical" p).rolled stepId p.formula none o, dice := d }) hw
  dsimp only
  rw [hd]
  refine h.deal hw ((h.carried.withPool "damage-critical" p).rolled p.formula none o) rfl rfl
    (h.toRolled.rollCritical p o) hopen fun id o' ho' => ?_
  rw [share_some_critical, damage_of]
  simp only [hmem id o' ho']
  cases t.settings.rules.criticalRule <;> rfl

theorem withoutTargets (h : Dealing t s none none v.state) (a : Actor)
    (hnone : ∀ id, (ready s).outcome? id = none) :
    ∃ plain, Dealing t s plain none (perform (withoutTargets t a) v).2.state := by
  refine rollPool_bind_at (I := fun u => ∃ plain, Dealing t s plain none u.state) h.wellFormed
    ⟨none, h⟩ (fun p d => ⟨none, h.withPool ⟨h.rolls, nofun, nofun⟩⟩)
    fun p o d => ⟨some (.of stepId p.formula none o), ?_⟩
  refine ⟨h.toRolled.rollPlain p o, (h.wellFormed.withPool stepId p).rolled stepId p.formula none o,
    (h.carried.withPool stepId p).rolled p.formula none o, h.targets, fun id => ?_⟩
  rw [hnone]
  exact (h.records id).trans (by rw [hnone]; rfl)

theorem start (h : Tracing t (stepId :: rest) w) (hw : w.state.WellFormed) :
    Dealing t w.state none none (ready w.state) := by
  have hnil : w.state.rollsOf stepId = [] := h.rollsOf_eq_nil List.mem_cons_self (Nat.le_refl _)
  have hundamaged : ∀ id o, (ready w.state).outcome? id = some o → o.damageByType = [] := by
    intro id o ho
    obtain hold | ⟨-, x, -, -, rfl⟩ := ready_cases ho
    · obtain ⟨plain, critical, hr⟩ := h.traced.damage
      obtain ⟨hp, hc⟩ := hr.eq_none hnil
      rw [hr.shares id o hold, hp, hc, share_none]
    · rfl
  have hrecords : ∀ id, (ready w.state).outcome? id =
      ((ready w.state).outcome? id).map fun o => dealt (share t none none o) o := by
    intro id
    cases ho : (ready w.state).outcome? id with
    | none => rfl
    | some o =>
      rw [Option.map_some, share_none, ← hundamaged id o ho]
      rfl
  have hwell : (ready w.state).WellFormed := hw.recordedAll _ _
  obtain ⟨outs, hframe⟩ := recordedAll_frame w.state (fun _ => id) (affectedTargets w.state)
  have hframe : ready w.state = { w.state with outcomes := outs } := hframe
  refine ⟨⟨?_, nofun, nofun⟩, hwell, ?_, ?_, hrecords⟩ <;> rw [hframe]
  · exact hnil
  · exact (Carried.refl _ _).of_eq rfl rfl

theorem records_cases (h : Dealing t s plain critical s') {id : String} {o' : TargetOutcome}
    (ho' : s'.outcome? id = some o') : ∃ o, o' = dealt (share t plain critical o) o ∧
      (s.outcome? id = some o ∨ ∃ x, o = .ofTarget x) := by
  rw [h.records] at ho'
  obtain ⟨o, ho, rfl⟩ := Option.map_eq_some_iff.mp ho'
  obtain hold | ⟨-, x, -, -, hx⟩ := ready_cases ho
  · exact ⟨o, rfl, .inl hold⟩
  · exact ⟨o, rfl, .inr ⟨x, hx⟩⟩

theorem traced (h : Dealing t s plain critical s') (hs : Traced t s) : Traced t s' where
  attack id o' r ho' hr := by
    obtain ⟨o, rfl, ho | ⟨x, rfl⟩⟩ := h.records_cases ho'
    · rw [h.carried.lastRoll? (by decide)]
      exact hs.attack id o r ho hr
    · cases hr
  shared hsep := by
    rw [h.carried.others _ (by decide)]
    exact hs.shared (h.carried.dialog ▸ hsep)
  save id o' r ho' hr := by
    obtain ⟨o, rfl, ho | ⟨x, rfl⟩⟩ := h.records_cases ho'
    · rw [h.carried.lastRoll? (by decide)]
      exact hs.save id o r ho hr
    · cases hr
  damage := ⟨plain, critical, h.toRolled, fun id o' ho' => by
    obtain ⟨o, rfl, -⟩ := h.records_cases ho'
    rfl⟩

theorem isSome_of_affected (h : Dealing t s plain critical s')
    (hattacked : ∀ id o, s.outcome? id = some o → o.attack.isSome = true) {x : Target}
    (hx : x ∈ affectedTargets s') : (s'.outcome? x.id).isSome = true := by
  by_cases hs' : attackResolved s' = true
  · rw [affectedTargets, if_pos hs'] at hx
    have hhit := (List.mem_filter.mp hx).2
    rw [wasHit] at hhit
    cases ho : s'.outcome? x.id with
    | none => rw [ho] at hhit; cases hhit
    | some o => rfl
  · have hs : ¬ attackResolved s = true := by
      intro hs
      obtain ⟨e, he, -⟩ := List.any_eq_true.mp hs
      obtain ⟨o, ho⟩ := Option.isSome_iff_exists.mp
        (Entries.mem_keys_iff.mp (List.mem_map_of_mem (f := Prod.fst) he))
      have ho' : s'.outcome? e.1 = some (dealt (share t plain critical o) o) := by
        rw [h.records, outcome?_ready_of_some ho, Option.map_some]
      exact hs' (List.any_eq_true.mpr ⟨_, Entries.mem_of_get? ho', hattacked e.1 o ho⟩)
    rw [affectedTargets, if_neg hs', liveTargets, h.targets] at hx
    rw [h.records, Option.isSome_map]
    exact isSome_ready (by rwa [affectedTargets, if_neg hs])

theorem tracing (h : Dealing t w.state plain critical v.state)
    (hw : Tracing t (stepId :: rest) w) (ho : InOrder (stepId :: rest)) : Tracing t rest v where
  before := h.carried.before ho hw.before
  traced := h.traced hw.traced
  attacked hm := (ho.notMem_rest (Nat.le_refl _) hm).elim
  opened _ _ _ hx := h.isSome_of_affected (hw.attacked List.mem_cons_self) hx

end Dealing

end Damage

/-- The damage step leaves every target with its share, whichever of its rolls were made. -/
theorem Tracing.damage {left : List String} (h : Tracing t (Damage.stepId :: rest) w)
    (hw : w.state.WellFormed) (hs : Sound w.state.targets left w.state.outcomes)
    (ho : InOrder (Damage.stepId :: rest)) : Tracing t rest (perform (Damage.run t) w).2 := by
  refine Preserves.requireActor_bind_at (I := fun v => Tracing t rest v) _
    (h.mono fun _ => List.mem_cons_of_mem _) fun a _ => ?_
  let I : World δ σ → Prop := fun v => ∃ plain, Damage.Dealing t w.state plain none v.state
  let J : World δ σ → Prop := fun v => ∃ plain critical,
    Damage.Dealing t w.state plain critical v.state
  suffices hJ : J (perform _ w).2 by
    obtain ⟨plain, critical, hv⟩ := hJ
    exact hv.tracing h ho
  have hIJ : ∀ u, I u → J u := fun u ⟨plain, hu⟩ => ⟨plain, none, hu⟩
  have hstart := Damage.Dealing.start h hw
  have hattacked := h.attacked List.mem_cons_self
  rw [perform_bind_ok _ (perform_readState w)]
  split
  · rename_i hempty
    have hlive : w.state.liveTargets = [] := List.isEmpty_iff.mp hempty
    have haffected : affectedTargets w.state = [] :=
      List.eq_nil_iff_forall_not_mem.mpr fun y hy =>
        List.not_mem_nil (hlive ▸ mem_liveTargets_of_affected hy)
    have hready : Damage.ready w.state = w.state := by
      rw [Damage.ready, haffected]
      rfl
    have hnone : ∀ id, w.state.outcome? id = none := by
      intro id
      rw [Option.eq_none_iff_forall_ne_some]
      intro o ho
      obtain ⟨x, hx, hl, -⟩ := (hs.each _ (Entries.mem_of_get? ho)).live
      have hx : x ∈ w.state.liveTargets := List.mem_filter.mpr ⟨hx, hl⟩
      rw [hlive] at hx
      cases hx
    rw [hready] at hstart
    exact hIJ _ (hstart.withoutTargets a fun id => by rw [hready]; exact hnone id)
  obtain ⟨es, hopen⟩ := perform_forM_recorded (f := fun _ => id)
    (fun y u hu => ⟨u.events, perform_record hu y id⟩) (affectedTargets w.state) hw
  dsimp only
  rw [Damage.openOutcomes, perform_bind_ok _ hopen, perform_bind_ok _ (perform_readState _)]
  have hmem : ∀ (p : Bool → Bool) id o, (Damage.ready w.state).outcome? id = some o →
      (id ∈ ((affectedTargets w.state).filter fun y =>
        p (Damage.isCritical (Damage.ready w.state) y)).map (·.id) ↔
          o.hit ≠ some false ∧ p o.critical = true) := by
    intro p id o ho
    rw [Damage.mem_filter_critical_iff ho, Damage.mem_affected_iff hs hattacked ho]
  have hsub : ∀ p : Target → Bool, ∀ y ∈ (affectedTargets w.state).filter p,
      y ∈ affectedTargets w.state := fun p y hy => (List.mem_filter.mp hy).1
  refine Preserves.optional_at (I := I) (J := J) (fun _ => ⟨none, hstart⟩) (fun _ => ?_) hIJ
    fun u hu => ?_
  · refine hstart.rollNormal (v := ⟨Damage.ready w.state, w.dice, w.source, es, w.visited⟩) a
      (hsub _) fun id o ho => ?_
    exact (hmem (!·) id o ho).trans (by rw [Bool.not_eq_true'])
  · obtain ⟨plain, hu⟩ := hu
    refine Preserves.optional_at (I := J) (J := J) (fun _ => ⟨plain, none, hu⟩) (fun _ => ?_)
      (fun _ h => h) fun _ hu => hu
    obtain ⟨critical, hv⟩ := hu.rollCritical a (hsub _) fun id o ho => hmem (fun b => b) id o ho
    exact ⟨plain, critical, hv⟩

end Encounter.Run
