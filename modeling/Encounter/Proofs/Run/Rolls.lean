import Encounter.Proofs.Run.Accounts
import Encounter.Proofs.Run.Classified
import Encounter.Proofs.Run.Dealt

namespace Encounter.Run

open ActionState

variable {δ σ : Type} {t : Table δ σ} {w : World δ σ}

theorem tracing_fresh (left : List String) (hr : w.state.rolls = []) (ho : w.state.outcomes = []) :
    Tracing t left w := by
  have hrolls : ∀ step, w.state.rollsOf step = [] := fun step => by
    rw [rollsOf, hr]
    rfl
  have hout : ∀ id o, w.state.outcome? id ≠ some o := fun id o h => by
    rw [ActionState.outcome?, ho] at h
    cases h
  have hnone : Damage.Rolled w.state none none :=
    ⟨hrolls _, fun _ h => absurd h (Option.not_mem_none _), fun _ h =>
      absurd h (Option.not_mem_none _)⟩
  refine ⟨fun r hm => ?_, ⟨?_, ?_, ?_, none, none, hnone, ?_⟩, ?_, ?_⟩
  · rw [hr] at hm
    cases hm
  · exact fun id o _ h _ => (hout id o h).elim
  · exact fun _ => by rw [hrolls]; exact Nat.zero_le 1
  · exact fun id o _ h _ => (hout id o h).elim
  · exact fun id o h => (hout id o h).elim
  · exact fun _ id o h => (hout id o h).elim
  · exact fun _ hne => (hne (hrolls _)).elim

/-- Each step in its turn leaves the results traced to rolls. -/
theorem Tracing.shipped (t : Table δ σ) : ∀ e ∈ shippedHandlers t, ∀ (w : World δ σ)
    (rest : List String), w.state.WellFormed → w.state.remaining = e.1 :: rest →
      Orderly w.state → Tracing t w.state.remaining w → Tracing t rest (perform e.2 w).2 := by
  intro e he w rest hw hl h ht
  have ho : InOrder w.state.remaining := h.inOrder.drop
  rw [hl] at ho ht
  simp only [shippedHandlers, List.map_cons, List.map_nil, List.mem_cons, List.not_mem_nil,
    or_false] at he
  rcases he with rfl | rfl | rfl | rfl | rfl | rfl | rfl
  · exact (perform_handingBack (Start.run t) w) ▸ ht.start hw ho
  · exact (perform_handingBack (Attack.run t) w) ▸ ht.attack hw ho
  · exact (perform_handingBack (Damage.run t) w) ▸ ht.damage hw h.sound ho
  · exact (perform_handingBack (Save.run t) w) ▸ ht.save hw ho
  · exact (perform_handingBack (ApplyDamage.run t) w) ▸ ht.applyDamage hw ho
  · exact (perform_handingBack (SkillCheck.run t) w) ▸ ht.skillCheck hw ho
  · exact (perform_handingBack Complete.run w) ▸ ht.complete hw ho

theorem kept_tracing (t : Table δ σ) :
    Kept (fun w => InAgreement w ∧ Tracing t w.state.remaining w)
      fun w => InAgreement w ∧ Tracing t w.state.remaining.tail w where
  weaken _ h := ⟨h.1, h.2.mono fun _ => List.mem_of_mem_tail⟩
  books w errors completed c es visited h :=
    ⟨kept_inAgreement.books w errors completed c es visited h.1,
      h.2.of_eq rfl rfl rfl rfl rfl⟩
  advanced w hw h := by
    have hl : w.advanced.state.remaining = w.state.remaining.tail := remaining_advanced w.state
    refine ⟨kept_inAgreement.advanced w hw h.1, ?_⟩
    rw [hl]
    exact h.2.of_eq rfl rfl rfl rfl rfl

/-- The rolls that a run has recorded are the answers that its evaluator gave, in order, however the
run ends. What is said of a target is traced to these rolls: its attack and its save to the last one
that was made for it, its damage to the plain roll or to the critical one. -/
theorem execute_rolls (t : Table δ σ) (observers : List Observer) {wf : Workflow}
    (hwf : wf ∈ Workflow.shipped) {w : World δ σ} {d : Dialog}
    (hw : ActionState.create wf d = .ok w.state) :
    (∃ calls, perform (execute (shippedHandlers t.noting) observers) (w.noting []) =
        ((perform (execute (shippedHandlers t) observers) w).1,
          (perform (execute (shippedHandlers t) observers) w).2.noting calls) ∧
      (perform (execute (shippedHandlers t) observers) w).2.state.rolls.map RollRecord.reading =
        readings calls) ∧
      Traced t (perform (execute (shippedHandlers t) observers) w).2.state := by
  obtain ⟨hwell, name, hstate⟩ := create_eq_ok hw
  have hrolls : w.state.rolls = [] := by rw [hstate]
  have houts : w.state.outcomes = [] := by rw [hstate]
  refine ⟨execute_noting t observers hrolls, ?_⟩
  have hk := shippedHandlers_keepCourse t
  obtain ⟨r, v, hc⟩ := exists_course hk observers w.state.remaining w.started hwell rfl
  have horderly : Orderly w.state := by
    rw [hstate]
    exact ⟨inOrder_shipped wf hwf, .nil _ _⟩
  have hstart : InAgreement w.started ∧ Tracing t w.started.state.remaining w.started :=
    ⟨⟨hwell, horderly⟩, tracing_fresh _ hrolls houts⟩
  have hv := hc.keeps hk (kept_tracing t) (fun e he u rest hu hl h => ?_) hwell rfl hstart
  · rw [perform_execute, hc.perform_eq hk hwell rfl]
    exact hv.2.traced
  · have hcourse := hk e he u hu
    refine ⟨⟨hu.of_sameCourse hcourse, .shipped t e he u rest hu hl h.1.2⟩, ?_⟩
    rw [hcourse.remaining, hl]
    exact Tracing.shipped t e he u rest hu hl h.1.2 h.2

/-- Two creatures who are attacked with a roll each, and dice that hit the first one critically. -/
def melee : World Dice.Faces Roster where
  state := {
    workflow := "attack-damage-save-applyDamage"
    steps := ["start", "attack", "damage", "save", "applyDamage", "complete"]
    dialog := {
      actorId := "hero"
      targetIds := ["goblin", "orc"]
      damageModifiers := [{ name := "Blade", fragment := "1d6" }]
      rollSeparate := some true
      saveDc := some 10 } }
  dice := .cycle #[20, 16, 3, 5, 8, 11]
  source := Roster.ofActors [{ id := "hero" }, { id := "goblin" }, { id := "orc" }]

abbrev brutalTable : Table Dice.Faces Roster :=
  .make {} Dice.roller Roster.source { rules := { criticalRule := .doubleDamage } }

/-- The first creature is dealt twice the critical roll, the second one the plain roll. -/
theorem execute_rolls_melee :
    ActionState.create ⟨"attack-damage-save-applyDamage",
        ["start", "attack", "damage", "save", "applyDamage", "complete"]⟩ melee.state.dialog =
      .ok melee.state ∧
    (perform (execute (shippedHandlers brutalTable) []) melee).2.state.rolls.map
        (fun r => (r.step, r.targetId, r.total)) =
      [("attack", some "goblin", 20), ("attack", some "orc", 16), ("damage", none, 3),
        ("damage", none, 5), ("save", some "goblin", 8), ("save", some "orc", 11)] ∧
    (perform (execute (shippedHandlers brutalTable) []) melee).2.state.outcomes.map
        (fun e => (e.1, e.2.critical, e.2.damageByType)) =
      [("goblin", true, [("kinetic", 10)]), ("orc", false, [("kinetic", 3)])] ∧
    (∃ calls, perform (execute (shippedHandlers brutalTable.noting) []) (melee.noting []) =
        ((perform (execute (shippedHandlers brutalTable) []) melee).1,
          (perform (execute (shippedHandlers brutalTable) []) melee).2.noting calls) ∧
      (perform (execute (shippedHandlers brutalTable) []) melee).2.state.rolls.map
        RollRecord.reading = readings calls) ∧
    Traced brutalTable (perform (execute (shippedHandlers brutalTable) []) melee).2.state := by
  have hcreate : ActionState.create ⟨"attack-damage-save-applyDamage",
      ["start", "attack", "damage", "save", "applyDamage", "complete"]⟩ melee.state.dialog =
        .ok melee.state := by rfl
  exact ⟨hcreate, by decide +kernel, by decide +kernel,
    execute_rolls brutalTable [] (by decide) hcreate⟩

end Encounter.Run
