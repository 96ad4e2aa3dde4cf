import Encounter.Proofs.Creature.Roster
import Encounter.Proofs.Run.Session

namespace Encounter.Run

open ActionState

variable {δ : Type}

def applied? (outs : Outcomes) (k : String) : Option Int :=
  (Entries.get? outs k).bind (·.damageApplied)

def appliedTo (outs : Outcomes) (k : String) : Int := (applied? outs k).getD 0

theorem applied?_put (outs : Outcomes) (target : Target) {f : TargetOutcome → TargetOutcome}
    (hf : ∀ o, (f o).damageApplied = o.damageApplied) (k : String) :
    applied? (Entries.put outs target.id (f (opened outs target))) k = applied? outs k := by
  unfold applied? opened
  rw [Entries.get?_put]
  split
  · rename_i hk
    rw [Option.bind_some, hf, hk]
    cases Entries.get? outs target.id <;> rfl
  · rfl

/-- Only targets, and records without their amounts, may have changed. -/
structure Still (T : List Target → Prop) (w v : World δ Roster) : Prop where
  course : SameCourse w.state v.state
  targets : T v.state.targets
  dialog : v.state.dialog = w.state.dialog
  source : v.source = w.source
  applied : ∀ k, applied? v.state.outcomes k = applied? w.state.outcomes k

theorem Still.refl {T : List Target → Prop} {w : World δ Roster} (h : T w.state.targets) :
    Still T w w := ⟨.refl _, h, rfl, rfl, fun _ => rfl⟩

theorem closed_still (T : List Target → Prop) {w : World δ Roster} (hw : w.state.WellFormed) :
    Closed (Still T w) where
  wellFormed _ h := hw.of_sameCourse h.course
  events _ _ h := ⟨h.course, h.targets, h.dialog, h.source, h.applied⟩
  pools _ _ h := ⟨⟨h.course.steps, h.course.chain, h.course.completed⟩, h.targets, h.dialog,
    h.source, h.applied⟩
  rolls _ _ _ h := ⟨⟨h.course.steps, h.course.chain, h.course.completed⟩, h.targets, h.dialog,
    h.source, h.applied⟩

theorem Still.recorded {T : List Target → Prop} {w v : World δ Roster} (h : Still T w v)
    (target : Target) {f : TargetOutcome → TargetOutcome}
    (hf : ∀ o, (f o).damageApplied = o.damageApplied) :
    Still T w { v with state := v.state.recorded target f } where
  course := ⟨h.course.steps, h.course.chain, h.course.completed⟩
  targets := h.targets
  dialog := h.dialog
  source := h.source
  applied k := (applied?_put v.state.outcomes target hf k).trans (h.applied k)

section

variable {w : World δ Roster} {T : List Target → Prop}

theorem still_attack (t : Table δ Roster) (hw : w.state.WellFormed) (hT : T w.state.targets) :
    Still T w (perform (Attack.run t) w).2 :=
  Attack.run_preserves (closed_still T hw) t (.refl hT) fun _ target _ _ hv _ =>
    hv.recorded target fun _ => rfl

theorem still_damage (t : Table δ Roster) (hw : w.state.WellFormed) (hT : T w.state.targets) :
    Still T w (perform (Damage.run t) w).2 :=
  Damage.run_preserves (closed_still T hw) t (.refl hT)
    (fun _ target hv _ => hv.recorded target (f := id) fun _ => rfl)
    fun _ target _ hv _ _ _ => hv.recorded target fun _ => rfl

theorem still_save (t : Table δ Roster) (hw : w.state.WellFormed) (hT : T w.state.targets) :
    Still T w (perform (Save.run t) w).2 :=
  Save.run_preserves (closed_still T hw) t (.refl hT) fun _ target _ _ hv _ =>
    hv.recorded target fun _ => rfl

theorem still_skillCheck (t : Table δ Roster) (hw : w.state.WellFormed) (hT : T w.state.targets) :
    Still T w (perform (SkillCheck.run t) w).2 :=
  SkillCheck.run_preserves (closed_still T hw) t
    (fun _ _ hv => ⟨⟨hv.course.steps, hv.course.chain, hv.course.completed⟩, hv.targets,
      hv.dialog, hv.source, hv.applied⟩) w (.refl hT)

theorem still_complete (hw : w.state.WellFormed) (hT : T w.state.targets) :
    Still T w (perform Complete.run w).2 :=
  Complete.run_preserves (closed_still T hw).toQuiet
    (fun _ _ _ hv => ⟨⟨hv.course.steps, hv.course.chain, hv.course.completed⟩, hv.targets,
      hv.dialog, hv.source, hv.applied⟩) w (.refl hT)

theorem still_start (t : Table δ Roster) (hw : w.state.WellFormed) (hT : T w.state.targets)
    (hfound : T (Start.found t w.state.dialog w.source)) :
    Still T w (perform (Start.run t) w).2 := by
  refine Start.run_preserves (closed_still T hw).toQuiet t (.refl hT) ?_ ?_
  · exact fun v _ _ _ hv => ⟨⟨hv.course.steps, hv.course.chain, hv.course.completed⟩, hv.targets,
      hv.dialog, hv.source, hv.applied⟩
  · intro v hv
    refine ⟨⟨hv.course.steps, hv.course.chain, hv.course.completed⟩, ?_, hv.dialog, hv.source,
      hv.applied⟩
    rw [hv.source]
    exact hfound

end

/-- What each strike on an id takes: nothing without rolled damage. -/
def due (r : Roster) (effect : SaveEffect) (outs : Outcomes) (k : String) : Int :=
  match r.target? k, Entries.get? outs k with
  | some target, some o =>
    if o.damageByType = [] then 0 else ApplyDamage.amount effect target o
  | _, _ => 0

theorem due_eq {r : Roster} {effect : SaveEffect} {outs : Outcomes} {k : String} {target : Target}
    {o : TargetOutcome} (ht : r.target? k = some target) (ho : Entries.get? outs k = some o)
    (hd : o.damageByType ≠ []) : due r effect outs k = ApplyDamage.amount effect target o := by
  rw [due, ht, ho]
  exact if_neg hd

theorem due_eq_zero {r : Roster} {effect : SaveEffect} {outs : Outcomes} {k : String}
    (h : ∀ o, Entries.get? outs k = some o → o.damageByType = []) : due r effect outs k = 0 := by
  unfold due
  split
  · rename_i o _ ho
    exact if_pos (h o ho)
  · rfl

theorem due_nonneg {r : Roster} {effect : SaveEffect} {outs : Outcomes} {k : String}
    (h : ∀ e ∈ outs, NonNegative e.2.damageByType) : 0 ≤ due r effect outs k := by
  unfold due
  split
  · rename_i o _ ho
    split
    · exact Int.le_refl 0
    · exact (ApplyDamage.amount_bounds effect _ (h _ (Entries.mem_of_get? ho))).1
  · exact Int.le_refl 0

def struckActor (amount : Int) (n : Nat) (a : Actor) : Actor :=
  if 0 < amount then a.takeRepeated amount n else a

/-- A record after the strikes on its id, if there were any. -/
def struckRecord (amount : Int) (isStruck : Prop) [Decidable isStruck] (o : TargetOutcome) :
    TargetOutcome :=
  if isStruck ∧ o.damageByType ≠ [] then ApplyDamage.applied amount o else o

/-- The books once the targets of some ids are struck, one after the other. -/
structure Struck (r : Roster) (effect : SaveEffect) (outs : Outcomes) (done : List Target)
    (w : World δ Roster) : Prop where
  wellFormed : w.state.WellFormed
  source : ∀ k, w.source.find? k =
    (r.find? k).map (struckActor (due r effect outs k) ((done.map (·.id)).count k))
  records : ∀ k, Entries.get? w.state.outcomes k =
    (Entries.get? outs k).map (struckRecord (due r effect outs k) (k ∈ done.map (·.id)))

theorem struckActor_of_nonpos {amount : Int} (h : amount ≤ 0) (n : Nat) (a : Actor) :
    struckActor amount n a = a := if_neg (Int.not_lt.mpr h)

theorem struckActor_succ (amount : Int) (n : Nat) (a : Actor) :
    struckActor amount (n + 1) a = if 0 < amount then (struckActor amount n a).takeDamage amount
      else struckActor amount n a := by
  unfold struckActor
  split <;> rfl

def struckRoster (amount : Int) (id : String) (r : Roster) : Roster :=
  if 0 < amount then (Roster.damage id amount r).source else r

theorem find?_struckRoster {r : Roster} {id : String} {a : Actor} (h : r.find? id = some a)
    (amount : Int) (k : String) :
    (struckRoster amount id r).find? k =
      if k = id then some (if 0 < amount then a.takeDamage amount else a) else r.find? k := by
  unfold struckRoster
  by_cases hpos : 0 < amount
  · rw [if_pos hpos, if_pos hpos]
    exact (Roster.find?_damage h amount).2 k
  · rw [if_neg hpos, if_neg hpos]
    split
    · rename_i hk
      rw [hk, h]
    · rfl

theorem damageByType_struckRecord (amount : Int) (p : Prop) [Decidable p] (o : TargetOutcome) :
    (struckRecord amount p o).damageByType = o.damageByType := by
  unfold struckRecord
  split <;> rfl

theorem amount_struckRecord (effect : SaveEffect) (target : Target) (amount : Int) (p : Prop)
    [Decidable p] (o : TargetOutcome) :
    ApplyDamage.amount effect target (struckRecord amount p o) =
      ApplyDamage.amount effect target o := by
  unfold struckRecord
  split <;> rfl

theorem applied_struckRecord (amount : Int) (p : Prop) [Decidable p] (o : TargetOutcome) :
    ApplyDamage.applied amount (struckRecord amount p o) = ApplyDamage.applied amount o := by
  unfold struckRecord
  split <;> rfl

theorem struckRecord_of_damaged (amount : Int) {o : TargetOutcome} (hd : o.damageByType ≠ []) :
    struckRecord amount True o = ApplyDamage.applied amount o := if_pos ⟨trivial, hd⟩

section

variable {r : Roster} {effect : SaveEffect} {outs : Outcomes} {done : List Target}
  {w : World δ Roster}

/-- A strike on one id changes the books of this id only. -/
theorem Struck.of_books (h : Struck r effect outs done w) {target : Target} {v : World δ Roster}
    (hv : v.state.WellFormed)
    (hsource : ∀ k, v.source.find? k = if k = target.id then (r.find? k).map
      (struckActor (due r effect outs k) ((done.map (·.id)).count k + 1)) else w.source.find? k)
    (hrecords : ∀ k, Entries.get? v.state.outcomes k =
      if k = target.id then (Entries.get? outs k).map (struckRecord (due r effect outs k) True)
      else Entries.get? w.state.outcomes k) :
    Struck r effect outs (done ++ [target]) v where
  wellFormed := hv
  source k := by
    rw [hsource, List.map_append, List.count_append]
    split
    · rename_i hk
      rw [hk, List.map_cons, List.map_nil, List.count_singleton_self]
    · rename_i hk
      rw [List.map_cons, List.map_nil, List.count_singleton, if_neg (by simpa using Ne.symm hk)]
      exact h.source k
  records k := by
    rw [hrecords]
    split
    · rename_i hk
      have hm : k ∈ (done ++ [target]).map (·.id) := by simp [hk]
      refine congrArg (Option.map · _) (funext fun o => ?_)
      simp only [struckRecord, hm]
    · rename_i hk
      have hm : k ∈ (done ++ [target]).map (·.id) ↔ k ∈ done.map (·.id) := by simp [hk]
      rw [h.records]
      refine congrArg (Option.map · _) (funext fun o => ?_)
      simp only [struckRecord, hm]

theorem Struck.undamaged (h : Struck r effect outs done w) {target : Target}
    (hu : ∀ o, Entries.get? outs target.id = some o → o.damageByType = []) :
    Struck r effect outs (done ++ [target]) w := by
  have hdue : due r effect outs target.id = 0 := due_eq_zero hu
  refine h.of_books h.wellFormed (fun k => ?_) fun k => ?_
  · split
    · rename_i hk
      rw [h.source, hk, hdue]
      refine congrArg (Option.map · _) (funext fun a => ?_)
      rw [struckActor_of_nonpos (Int.le_refl 0), struckActor_of_nonpos (Int.le_refl 0)]
    · rfl
  · split
    · rename_i hk
      rw [h.records, hk]
      cases ho : Entries.get? outs target.id with
      | none => rfl
      | some o => simp [struckRecord, hu o ho]
    · rfl

theorem Struck.damaged (h : Struck r effect outs done w) {target : Target} {o : TargetOutcome}
    {a : Actor} (ha : r.find? target.id = some a) (ho : Entries.get? outs target.id = some o)
    (hd : o.damageByType ≠ []) (es : List Log.Event) :
    Struck r effect outs (done ++ [target])
      { w with
        state := w.state.recorded target (ApplyDamage.applied (due r effect outs target.id))
        source := struckRoster (due r effect outs target.id) target.id w.source
        events := es } := by
  refine h.of_books (h.wellFormed.recorded target _) (fun k => ?_) fun k => ?_
  · have hw := h.source target.id
    rw [ha, Option.map_some] at hw
    rw [find?_struckRoster hw]
    split
    · rename_i hk
      rw [hk, ha, Option.map_some, struckActor_succ]
    · rfl
  · change (w.state.recorded target _).outcome? k = _
    have hw := h.records target.id
    rw [ho, Option.map_some] at hw
    rw [outcome?_recorded]
    split
    · rename_i hk
      have hopened : w.state.outcomeOf target = struckRecord (due r effect outs target.id)
          (target.id ∈ done.map (·.id)) o := by
        change (Entries.get? w.state.outcomes target.id).getD _ = _
        rw [hw, Option.getD_some]
      rw [hk, ho, Option.map_some, hopened, applied_struckRecord, struckRecord_of_damaged _ hd]
    · rfl

theorem perform_hurt_roster {t : Table δ Roster} (hs : t.source = Roster.source) {id : String}
    {a : Actor} (ha : w.source.find? id = some a) (n : Int) (e : Log.Event) :
    ∃ es, perform (do
        if 0 < n then ApplyDamage.hurt t id n
        report [e] : RunM δ Roster Unit) w =
      (.ok (), { w with source := struckRoster n id w.source, events := es }) := by
  unfold struckRoster
  split
  · obtain ⟨hp, hr⟩ := (Roster.find?_damage ha n).1
    have hh := ApplyDamage.perform_hurt t id n w
    rw [hs] at hh
    change perform _ w = ((Roster.damage id n w.source).result.map _, _) at hh
    rw [hr] at hh
    exact ⟨_, perform_bind_ok _ hh⟩
  · exact ⟨_, rfl⟩

theorem Struck.apply {t : Table δ Roster} (hs : t.source = Roster.source) {d : Dialog}
    (h : Struck r d.saveEffect outs done w) {target : Target}
    (ht : r.target? target.id = some target) :
    ∃ v, perform (ApplyDamage.apply t d target) w = (.ok (), v) ∧
      Struck r d.saveEffect outs (done ++ [target]) v := by
  obtain ⟨a, ha, -⟩ := Option.map_eq_some_iff.mp ht
  have hw := h.records target.id
  cases ho : Entries.get? outs target.id with
  | none =>
    rw [ho] at hw
    refine ⟨w, ApplyDamage.perform_apply_undamaged t d target ?_, h.undamaged ?_⟩
    · exact fun o hwo => nomatch hw.symm.trans hwo
    · exact fun o ho' => nomatch ho.symm.trans ho'
  | some o =>
    rw [ho, Option.map_some] at hw
    by_cases hd : o.damageByType = []
    · refine ⟨w, ApplyDamage.perform_apply_undamaged t d target ?_, h.undamaged ?_⟩
      · intro o' hwo
        cases hw.symm.trans hwo
        rw [damageByType_struckRecord, hd]
      · intro o' ho'
        cases ho.symm.trans ho'
        exact hd
    · have hne : (struckRecord (due r d.saveEffect outs target.id) (target.id ∈ done.map (·.id))
          o).damageByType ≠ [] := by
        rw [damageByType_struckRecord]
        exact hd
      have hsource := h.source target.id
      rw [ha, Option.map_some] at hsource
      have hp := ApplyDamage.perform_apply h.wellFormed t d target hw hne
      rw [amount_struckRecord, ← due_eq ht ho hd] at hp
      obtain ⟨es, hq⟩ := perform_hurt_roster (w := { w with
        state := w.state.recorded target
          (ApplyDamage.applied (due r d.saveEffect outs target.id)) }) hs hsource
        (due r d.saveEffect outs target.id) _
      exact ⟨_, hp.trans hq, h.damaged ha ho hd es⟩

end

theorem perform_applyDamage {t : Table δ Roster} (hs : t.source = Roster.source)
    {w : World δ Roster} (hw : w.state.WellFormed)
    (hfound : ∀ target ∈ w.state.liveTargets, w.source.target? target.id = some target) :
    ∃ v, perform (ApplyDamage.run t) w = (.ok (), v) ∧
      Struck w.source w.state.dialog.saveEffect w.state.outcomes w.state.liveTargets v := by
  have hnone : Struck w.source w.state.dialog.saveEffect w.state.outcomes [] w := by
    refine ⟨hw, fun k => ?_, fun k => ?_⟩
    · cases w.source.find? k with
      | none => rfl
      | some a =>
        rw [Option.map_some, struckActor]
        split <;> rfl
    · cases Entries.get? w.state.outcomes k with
      | none => rfl
      | some o => simp [struckRecord]
  obtain ⟨v, hp, hv⟩ := perform_forM_of_steps
    (P := Struck w.source w.state.dialog.saveEffect w.state.outcomes)
    (fun target hm done u hu => hu.apply hs (hfound target hm)) hnone
  refine ⟨v, ?_, hv⟩
  rw [ApplyDamage.run, perform_bind_ok _ (perform_readState w), hp]

/-- Every creature has lost its recorded amount, as often as it was named among the targets. -/
def Balanced (r : Roster) (ids : List String) (r' : Roster) (outs : Outcomes) : Prop :=
  ∀ k a hp, r.find? k = some a → a.hitPoints = some hp → 0 ≤ hp → ∃ a', r'.find? k = some a' ∧
    a'.hitPoints = some (max 0 (hp - ids.count k * appliedTo outs k))

theorem hitPoints_struckActor {a : Actor} {hp amount : Int} (ha : a.hitPoints = some hp)
    (hhp : 0 ≤ hp) (hamount : 0 ≤ amount) (n : Nat) :
    (struckActor amount n a).hitPoints = some (max 0 (hp - n * amount)) := by
  unfold struckActor
  split
  · exact Actor.hitPoints_takeRepeated ha hhp hamount n
  · obtain rfl : amount = 0 := by omega
    rw [ha, Int.mul_zero]
    congr 1
    omega

theorem Struck.appliedTo {r : Roster} {effect : SaveEffect} {outs : Outcomes}
    {done : List Target} {w : World δ Roster} (h : Struck r effect outs done w)
    (hn : ∀ k, applied? outs k = none) (k : String) :
    appliedTo w.state.outcomes k =
      if k ∈ done.map (·.id) then due r effect outs k else 0 := by
  have hk := hn k
  unfold applied? at hk
  unfold Run.appliedTo applied?
  rw [h.records]
  cases ho : Entries.get? outs k with
  | none =>
    have hdue : due r effect outs k = 0 := due_eq_zero fun o ho' => nomatch ho.symm.trans ho'
    rw [hdue, ite_self]
    rfl
  | some o =>
    rw [ho, Option.bind_some] at hk
    rw [Option.map_some, Option.bind_some, struckRecord]
    by_cases hd : o.damageByType = []
    · have hdue : due r effect outs k = 0 :=
        due_eq_zero fun o' ho' => Option.some.inj (ho.symm.trans ho') ▸ hd
      rw [if_neg fun hc => hc.2 hd, hk, hdue, ite_self]
      rfl
    · by_cases hm : k ∈ done.map (·.id)
      · rw [if_pos ⟨hm, hd⟩, if_pos hm]
        rfl
      · rw [if_neg fun hc => hm hc.1, if_neg hm, hk]
        rfl

/-- The live targets are none, or those that the roster finds. -/
def Known (r : Roster) (ids : List String) (ts : List Target) : Prop :=
  ts.filter (·.isLive) = [] ∨ ts.filter (·.isLive) = ids.filterMap r.target?

theorem Known.target? {r : Roster} (hr : r.Keyed) {ids : List String} {ts : List Target}
    (h : Known r ids ts) {target : Target} (hm : target ∈ ts.filter (·.isLive)) :
    r.target? target.id = some target := by
  obtain h | h := h <;> rw [h] at hm
  · cases hm
  · obtain ⟨id, -, hid⟩ := List.mem_filterMap.mp hm
    rwa [hr.id_of_target? hid]

theorem Known.mem_ids {r : Roster} (hr : r.Keyed) {ids : List String} {ts : List Target}
    (h : Known r ids ts) {target : Target} (hm : target ∈ ts.filter (·.isLive)) :
    target.id ∈ ids := by
  obtain h | h := h <;> rw [h] at hm
  · cases hm
  · obtain ⟨id, hid, ht⟩ := List.mem_filterMap.mp hm
    rwa [hr.id_of_target? ht]

theorem Struck.balanced {r : Roster} (hr : r.Keyed) {effect : SaveEffect} {outs : Outcomes}
    {ids : List String} {ts : List Target} {w : World δ Roster}
    (h : Struck r effect outs (ts.filter (·.isLive)) w) (hts : Known r ids ts)
    (hn : ∀ k, applied? outs k = none) (ho : ∀ e ∈ outs, NonNegative e.2.damageByType) :
    Balanced r ids w.source w.state.outcomes := by
  intro k a hp ha hhp hnonneg
  have hsource := h.source k
  rw [ha, Option.map_some] at hsource
  refine ⟨_, hsource, ?_⟩
  rw [hitPoints_struckActor hhp hnonneg (due_nonneg ho), h.appliedTo hn]
  split
  · rename_i hm
    have hc : ((ts.filter (·.isLive)).map (·.id)).count k = ids.count k := by
      obtain hnil | hts := hts
      · rw [hnil] at hm
        cases hm
      · rw [hts]
        exact hr.count_found (by rw [ha]; rfl) ids
    rw [hc]
  · rename_i hm
    rw [List.count_eq_zero_of_not_mem hm, Int.mul_zero, Int.natCast_zero, Int.zero_mul]

structure Untouched (r r' : Roster) (outs : Outcomes) : Prop where
  source : r' = r
  unapplied : ∀ k, applied? outs k = none

theorem Untouched.balanced {r r' : Roster} {outs : Outcomes} (h : Untouched r r' outs)
    (ids : List String) : Balanced r ids r' outs := by
  intro k a hp ha hhp hnonneg
  have hk : appliedTo outs k = 0 := by
    rw [appliedTo, h.unapplied]
    rfl
  refine ⟨a, h.source ▸ ha, ?_⟩
  rw [hk, hhp, Int.mul_zero]
  congr 1
  omega

def Before (left : List String) : Prop :=
  ∃ step ∈ left, stepOrder.idxOf step ≤ stepOrder.idxOf ApplyDamage.stepId

/-- What holds of the books of a run while some steps are left. -/
structure Ledger (r : Roster) (ids left : List String) (w : World δ Roster) : Prop where
  wellFormed : w.state.WellFormed
  orderly : Orderly w.state
  named : w.state.dialog.targetIds = ids
  known : Known r ids w.state.targets
  untouched : Before left → Untouched r w.source w.state.outcomes
  balanced : Balanced r ids w.source w.state.outcomes

theorem Before.of_tail {left : List String} (h : Before left.tail) : Before left := by
  obtain ⟨step, hm, hs⟩ := h
  exact ⟨step, List.mem_of_mem_tail hm, hs⟩

theorem kept_ledger (r : Roster) (ids : List String) :
    Kept (fun w : World δ Roster => Ledger r ids w.state.remaining w)
      fun w => Ledger r ids w.state.remaining.tail w where
  weaken _ h := { h with untouched := fun hb => h.untouched hb.of_tail }
  books _ _ _ _ _ _ h :=
    ⟨h.wellFormed.of_steps rfl rfl, ⟨h.orderly.inOrder, h.orderly.sound⟩, h.named, h.known,
      h.untouched, h.balanced⟩
  advanced w hw h := by
    have hl : w.advanced.state.remaining = w.state.remaining.tail := remaining_advanced w.state
    have ho := (kept_inAgreement (δ := δ) (σ := Roster)).advanced w hw ⟨h.wellFormed, h.orderly⟩
    refine ⟨hw, ho.2, h.named, h.known, ?_, h.balanced⟩
    rw [hl]
    exact h.untouched

section

variable {r : Roster} {ids rest : List String} {w v : World δ Roster}

theorem Ledger.still (h : Ledger r ids w.state.remaining w) (ho : Orderly v.state)
    (hs : Still (Known r ids) w v) : Ledger r ids v.state.remaining.tail v where
  wellFormed := h.wellFormed.of_sameCourse hs.course
  orderly := ho
  named := hs.dialog ▸ h.named
  known := hs.targets
  untouched hb := by
    rw [hs.course.remaining] at hb
    have hu := h.untouched hb.of_tail
    exact ⟨hs.source.trans hu.source, fun k => (hs.applied k).trans (hu.unapplied k)⟩
  balanced k a hp ha hhp hnonneg := by
    have hk : appliedTo v.state.outcomes k = appliedTo w.state.outcomes k := by
      rw [appliedTo, hs.applied k]
      rfl
    rw [hs.source, hk]
    exact h.balanced k a hp ha hhp hnonneg

theorem applyDamage_frame (t : Table δ Roster) (hw : w.state.WellFormed) :
    SameCourse w.state (perform (ApplyDamage.run t) w).2.state ∧
      (perform (ApplyDamage.run t) w).2.state.targets = w.state.targets ∧
      (perform (ApplyDamage.run t) w).2.state.dialog = w.state.dialog := by
  have hI : Quiet fun v : World δ Roster => SameCourse w.state v.state ∧
      v.state.targets = w.state.targets ∧ v.state.dialog = w.state.dialog :=
    ⟨fun _ hv => hw.of_sameCourse hv.1, fun _ _ hv => hv⟩
  exact ApplyDamage.run_preserves hI t ⟨.refl _, rfl, rfl⟩
    (fun _ _ _ hv _ _ _ => ⟨⟨hv.1.steps, hv.1.chain, hv.1.completed⟩, hv.2⟩)
    fun _ _ _ _ hv _ _ _ _ => hv

theorem handler_applyDamage {t : Table δ Roster} {e : String × Handler δ Roster}
    (he : e ∈ shippedHandlers t) (ha : e.1 = ApplyDamage.stepId) :
    e.2 = handingBack (ApplyDamage.run t) := by
  simp only [shippedHandlers, List.map_cons, List.map_nil, List.mem_cons, List.not_mem_nil,
    or_false] at he
  rcases he with rfl | rfl | rfl | rfl | rfl | rfl | rfl
  case inr.inr.inr.inr.inl => rfl
  all_goals
    simp [Start.stepId, Attack.stepId, Damage.stepId, Save.stepId, ApplyDamage.stepId,
      SkillCheck.stepId, Complete.stepId] at ha

/-- Steps that apply no damage leave the creatures alone. The first one asks which of them there
are. -/
theorem still_shipped {t : Table δ Roster} (hs : t.source = Roster.source)
    (hw : w.state.WellFormed) (hnamed : w.state.dialog.targetIds = ids)
    (hknown : Known r ids w.state.targets) {e : String × Handler δ Roster}
    (he : e ∈ shippedHandlers t) (hne : e.1 ≠ ApplyDamage.stepId)
    (hstart : e.1 = Start.stepId → w.source = r) :
    Still (Known r ids) w (perform e.2 w).2 := by
  simp only [shippedHandlers, List.map_cons, List.map_nil, List.mem_cons, List.not_mem_nil,
    or_false] at he
  rcases he with rfl | rfl | rfl | rfl | rfl | rfl | rfl <;> rw [perform_handingBack]
  · refine still_start t hw hknown (.inr ?_)
    rw [Start.found, hs, hstart rfl, hnamed]
    exact Roster.live_lookUp r ids _
  · exact still_attack t hw hknown
  · exact still_damage t hw hknown
  · exact still_save t hw hknown
  · exact absurd rfl hne
  · exact still_skillCheck t hw hknown
  · exact still_complete hw hknown

theorem Ledger.applyDamage {t : Table δ Roster} (hs : t.source = Roster.source) (hr : r.Keyed)
    (h : Ledger r ids w.state.remaining w)
    (hl : w.state.remaining = ApplyDamage.stepId :: rest) :
    Ledger r ids (perform (ApplyDamage.run t) w).2.state.remaining.tail
      (perform (ApplyDamage.run t) w).2 := by
  have hu := h.untouched ⟨ApplyDamage.stepId, hl ▸ List.mem_cons_self, Nat.le_refl _⟩
  have ho := h.orderly.applyDamage t h.wellFormed hl
  obtain ⟨hcourse, htargets, hdialog⟩ := applyDamage_frame t h.wellFormed
  obtain ⟨v, hp, hv⟩ := perform_applyDamage hs h.wellFormed fun target hm => by
    rw [hu.source]
    exact h.known.target? hr hm
  rw [hp] at ho hcourse htargets hdialog ⊢
  rw [hu.source] at hv
  refine ⟨hv.wellFormed, ho, hdialog ▸ h.named, htargets ▸ h.known, ?_, ?_⟩
  · rintro ⟨step, hm, hle⟩
    have hin : InOrder w.state.remaining := h.orderly.inOrder.drop
    rw [hcourse.remaining, hl] at hm
    rw [hl] at hin
    exact absurd ((List.pairwise_cons.mp hin).1 step hm) (Nat.not_lt.mpr hle)
  · exact hv.balanced hr h.known hu.unapplied fun e he => (h.orderly.sound.each e he).amounts

theorem Ledger.shipped {t : Table δ Roster} (hs : t.source = Roster.source) (hr : r.Keyed) :
    ∀ e ∈ shippedHandlers t, ∀ (w : World δ Roster) (rest : List String), w.state.WellFormed →
      w.state.remaining = e.1 :: rest → Ledger r ids w.state.remaining w →
        Ledger r ids (perform e.2 w).2.state.remaining.tail (perform e.2 w).2 := by
  intro e he w rest hw hl h
  by_cases ha : e.1 = ApplyDamage.stepId
  · rw [handler_applyDamage he ha, perform_handingBack]
    exact h.applyDamage hs hr (ha ▸ hl)
  · refine h.still (Orderly.shipped t e he w rest hw hl h.orderly)
      (still_shipped hs hw h.named h.known he ha fun hstart => ?_)
    have hm : Start.stepId ∈ w.state.remaining := by rw [hl, hstart]; exact List.mem_cons_self
    exact (h.untouched ⟨Start.stepId, hm, by decide⟩).source

end

theorem Ledger.appliedTo_bounds {r : Roster} (hr : r.Keyed) {ids left : List String}
    {w : World δ Roster} (h : Ledger r ids left w) (k : String) :
    0 ≤ appliedTo w.state.outcomes k ∧ (k ∉ ids → appliedTo w.state.outcomes k = 0) := by
  cases hn : applied? w.state.outcomes k with
  | none =>
    rw [appliedTo, hn]
    exact ⟨Int.le_refl 0, fun _ => rfl⟩
  | some n =>
    obtain ⟨o, ho, hon⟩ := Option.bind_eq_some_iff.mp hn
    have hsound := h.orderly.sound.each _ (Entries.mem_of_get? ho)
    rw [appliedTo, hn]
    refine ⟨(hsound.applied n hon).1, fun hk => ?_⟩
    obtain ⟨target, hm, hlive, rfl⟩ := hsound.live
    exact (hk (h.known.mem_ids hr (List.mem_filter.mpr ⟨hm, hlive⟩))).elim

theorem left_agrees_iff {hp amount : Int} {n : Nat} (hhp : 0 ≤ hp) (hamount : 0 ≤ amount)
    (hn : n = 0 → amount = 0) :
    max 0 (hp - n * amount) = max 0 (hp - amount) ↔ n ≤ 1 ∨ amount = 0 ∨ hp ≤ amount := by
  obtain rfl | rfl | hn2 : n = 0 ∨ n = 1 ∨ 2 ≤ n := by omega
  · rw [hn rfl]
    simp
  · simp
  · have h2 : 2 * amount ≤ (n : Int) * amount :=
      Int.mul_le_mul_of_nonneg_right (by omega) hamount
    constructor
    · omega
    · rintro (h | rfl | h)
      · omega
      · rw [Int.mul_zero]
      · omega

/-- The hit points after a run are those before it, less the recorded amount once for each time that
the creature was named among the targets. They agree with the recorded amount, taken once, exactly
if the creature was named once at most, or nothing was taken from it, or nothing was left of it. -/
theorem execute_ledger (registry : Registry) (evaluator : Evaluator δ) (settings : Settings)
    (observers : List Observer) {wf : Workflow} (hwf : wf ∈ Workflow.shipped)
    {w : World δ Roster} {d : Dialog} (hw : ActionState.create wf d = .ok w.state)
    (hr : w.source.Keyed) {k : String} {a : Actor} {hp : Int} (ha : w.source.find? k = some a)
    (hhp : a.hitPoints = some hp) (hnonneg : 0 ≤ hp) :
    let v := (perform (execute (shippedHandlers
      (.make registry evaluator Roster.source settings)) observers) w).2
    let amount := appliedTo v.state.outcomes k
    ∃ a', v.source.find? k = some a' ∧
      a'.hitPoints = some (max 0 (hp - d.targetIds.count k * amount)) ∧
      (a'.hitPoints = some (max 0 (hp - amount)) ↔
        d.targetIds.count k ≤ 1 ∨ amount = 0 ∨ hp ≤ amount) := by
  intro v amount
  obtain ⟨hwell, name, hstate⟩ := create_eq_ok hw
  have hk := shippedHandlers_keepCourse (.make registry evaluator Roster.source settings)
  obtain ⟨x, u, hc⟩ := exists_course hk observers w.state.remaining w.started hwell rfl
  have hu : v = u := by
    change (perform (execute _ observers) w).2 = u
    rw [perform_execute, hc.perform_eq hk hwell rfl]
  have hunapplied : ∀ k, applied? w.state.outcomes k = none := fun k => by rw [hstate]; rfl
  have huntouched : Untouched w.source w.source w.state.outcomes := ⟨rfl, hunapplied⟩
  have hstart : Ledger w.source d.targetIds w.started.state.remaining w.started := by
    refine ⟨hwell, ?_, ?_, ?_, fun _ => huntouched, huntouched.balanced _⟩
    · change Orderly w.state
      rw [hstate]
      exact ⟨inOrder_shipped wf hwf, .nil _ _⟩
    · change w.state.dialog.targetIds = d.targetIds
      rw [hstate]
    · change Known w.source d.targetIds w.state.targets
      rw [hstate]
      exact .inl rfl
  have hledger := hc.keeps hk (kept_ledger w.source d.targetIds) (Ledger.shipped rfl hr) hwell rfl
    hstart
  obtain ⟨hamount, hnone⟩ := hledger.appliedTo_bounds hr k
  obtain ⟨a', ha', hhp'⟩ := hledger.balanced k a hp ha hhp hnonneg
  subst hu
  refine ⟨a', ha', hhp', ?_⟩
  rw [hhp', Option.some_inj]
  exact left_agrees_iff hnonneg hamount fun hc => hnone (List.count_eq_zero.mp hc)

/-- A creature that is named twice, and dice that fall on five, three and four. -/
def volley : World Dice.Faces Roster where
  state := {
    workflow := "damage-save-applyDamage"
    steps := ["start", "damage", "save", "applyDamage", "complete"]
    dialog := {
      actorId := "hero"
      targetIds := ["goblin", "goblin"]
      damageModifiers := [{ name := "Blast", fragment := "1d8" }]
      saveDc := some 10 } }
  dice := .cycle #[5, 3, 4]
  source := Roster.ofActors [{ id := "hero" }, { id := "goblin", hitPoints := some 12 }]

abbrev plainTable : Table Dice.Faces Roster := .make {} Dice.roller Roster.source {}

theorem execute_ledger_volley :
    let v := (perform (execute (shippedHandlers
      (.make {} Dice.roller Roster.source {})) []) volley).2
    let amount := appliedTo v.state.outcomes "goblin"
    ∃ a', v.source.find? "goblin" = some a' ∧
      a'.hitPoints = some (max 0 (12 - volley.state.dialog.targetIds.count "goblin" * amount)) ∧
      (a'.hitPoints = some (max 0 (12 - amount)) ↔
        volley.state.dialog.targetIds.count "goblin" ≤ 1 ∨ amount = 0 ∨ 12 ≤ amount) := by
  have hcreate : ActionState.create
      ⟨"damage-save-applyDamage", ["start", "damage", "save", "applyDamage", "complete"]⟩
      volley.state.dialog = .ok volley.state := by rfl
  have hfind : volley.source.find? "goblin" = some { id := "goblin", hitPoints := some 12 } := by
    rfl
  exact execute_ledger {} Dice.roller {} [] (by decide) hcreate (Roster.keyed_ofActors _) hfind
    rfl (by decide)

/-- The run is completed and records five points, but the creature has lost ten. -/
theorem volley_disagrees :
    (perform (execute (shippedHandlers plainTable) []) volley).1.isOk = true ∧
      (perform (execute (shippedHandlers plainTable) []) volley).2.state.completed =
        volley.state.steps ∧
      (volley.source.find? "goblin").bind (·.hitPoints) = some 12 ∧
      appliedTo (perform (execute (shippedHandlers plainTable) []) volley).2.state.outcomes
        "goblin" = 5 ∧
      ((perform (execute (shippedHandlers plainTable) []) volley).2.source.find? "goblin").bind
        (·.hitPoints) ≠ some (max 0 (12 - 5)) := by
  decide +kernel

end Encounter.Run
