import Encounter.Proofs.Run.Outcomes
import Mathlib.Algebra.Ring.Int.Defs
import Mathlib.Data.List.Forall2

namespace Encounter

namespace Target

/-- Defences from the strongest to the weakest. -/
def Defence.rank : Defence → Nat
  | immune => 0
  | resistant => 1
  | none => 2
  | vulnerable => 3

/-- A target that lacks defences of another, or is vulnerable to more. -/
structure Exposed (t t' : Target) : Prop where
  immunities : t'.immunities ⊆ t.immunities
  resistances : t'.resistances ⊆ t.resistances
  vulnerabilities : t.vulnerabilities ⊆ t'.vulnerabilities

/-- Targets whose defences are the same, up to order and repetitions. -/
structure SameDefences (t t' : Target) : Prop where
  immunities : ∀ ty, ty ∈ t.immunities ↔ ty ∈ t'.immunities
  resistances : ∀ ty, ty ∈ t.resistances ↔ ty ∈ t'.resistances
  vulnerabilities : ∀ ty, ty ∈ t.vulnerabilities ↔ ty ∈ t'.vulnerabilities

def ImmuneTo (t : Target) (damageType : String) : Prop := Text.lower damageType ∈ t.immunities

variable {t t' : Target}

theorem defence_eq_ite (t : Target) (damageType : String) : t.defence damageType =
    if Text.lower damageType ∈ t.immunities then .immune
    else if Text.lower damageType ∈ t.resistances then .resistant
    else if Text.lower damageType ∈ t.vulnerabilities then .vulnerable
    else .none := by
  simp only [defence, List.contains_iff_mem]

theorem SameDefences.defence_eq (h : t.SameDefences t') (damageType : String) :
    t.defence damageType = t'.defence damageType := by
  simp only [defence_eq_ite, h.immunities, h.resistances, h.vulnerabilities]

theorem Exposed.rank_le (h : t.Exposed t') (damageType : String) :
    (t.defence damageType).rank ≤ (t'.defence damageType).rank := by
  have hi := @h.immunities (Text.lower damageType)
  have hr := @h.resistances (Text.lower damageType)
  have hv := @h.vulnerabilities (Text.lower damageType)
  rw [defence_eq_ite, defence_eq_ite]
  by_cases himmune : Text.lower damageType ∈ t.immunities
  · rw [if_pos himmune]
    exact Nat.zero_le _
  · rw [if_neg himmune, if_neg fun h' => himmune (hi h')]
    by_cases hresist : Text.lower damageType ∈ t.resistances
    · rw [if_pos hresist]
      split
      · exact Nat.le_refl _
      · split <;> decide
    · rw [if_neg hresist, if_neg fun h' => hresist (hr h')]
      by_cases hvulnerable : Text.lower damageType ∈ t.vulnerabilities
      · simp [hvulnerable, hv hvulnerable]
      · rw [if_neg hvulnerable]
        split <;> decide

theorem modifyDamage_mono {damageType : String} {n n' : Int} (hn : 0 ≤ n) (hle : n ≤ n')
    (h : (t.defence damageType).rank ≤ (t'.defence damageType).rank) :
    t.modifyDamage n damageType ≤ t'.modifyDamage n' damageType := by
  unfold modifyDamage
  cases hd : t.defence damageType <;> cases hd' : t'.defence damageType <;>
    simp only [hd, hd', Defence.rank] at h ⊢ <;> omega

/-- Immunity goes before resistance, and resistance before vulnerability, wherever they stand. -/
theorem modifyDamage_eq_ite (t : Target) (n : Int) (damageType : String) :
    t.modifyDamage n damageType =
      if Text.lower damageType ∈ t.immunities then 0
      else if Text.lower damageType ∈ t.resistances then n / 2
      else if Text.lower damageType ∈ t.vulnerabilities then n * 2
      else n := by
  rw [modifyDamage, defence_eq_ite]
  by_cases himmune : Text.lower damageType ∈ t.immunities
  · simp only [himmune, if_true]
  · by_cases hresist : Text.lower damageType ∈ t.resistances
    · simp only [himmune, hresist, if_true, if_false]
    · by_cases hvulnerable : Text.lower damageType ∈ t.vulnerabilities
      · simp only [himmune, hresist, hvulnerable, if_true, if_false]
      · simp only [himmune, hresist, hvulnerable, if_false]

theorem modifyDamage_immune {damageType : String} (h : t.ImmuneTo damageType) (n : Int) :
    t.modifyDamage n damageType = 0 := by
  rw [modifyDamage_eq_ite]
  exact if_pos h

end Target

namespace Run

def Raised (xs xs' : List (String × Int)) : Prop :=
  List.Forall₂ (fun e e' => e.1 = e'.1 ∧ e.2 ≤ e'.2) xs xs'

namespace ApplyDamage

variable {t t' : Target} {xs xs' : List (String × Int)}

theorem afterDefences_eq_sum (t : Target) (xs : List (String × Int)) :
    afterDefences t xs = (xs.map fun e => t.modifyDamage e.2 e.1).sum := by
  induction xs with
  | nil => rfl
  | cons e xs ih =>
    rw [List.map_cons, List.sum_cons, ← ih]
    rfl

theorem afterDefences_mono (ht : t.Exposed t') (hxs : Raised xs xs') (hn : NonNegative xs) :
    afterDefences t xs ≤ afterDefences t' xs' := by
  induction hxs with
  | nil => exact Int.le_refl 0
  | @cons e e' xs xs' he hxs ih =>
    obtain ⟨htype, hle⟩ := he
    have hrank := ht.rank_le e.1
    have hone := Target.modifyDamage_mono (hn e List.mem_cons_self) hle hrank
    have hrest := ih fun x hx => hn x (List.mem_cons_of_mem e hx)
    change t.modifyDamage e.2 e.1 + afterDefences t xs ≤
      t'.modifyDamage e'.2 e'.1 + afterDefences t' xs'
    rw [← htype]
    omega

theorem afterDefences_immune (h : ∀ e ∈ xs, t.ImmuneTo e.1) : afterDefences t xs = 0 := by
  induction xs with
  | nil => rfl
  | cons e xs ih =>
    obtain ⟨he, hxs⟩ := List.forall_mem_cons.mp h
    change t.modifyDamage e.2 e.1 + afterDefences t xs = 0
    rw [Target.modifyDamage_immune he, ih hxs, Int.add_zero]

theorem afterDefences_congr (h : t.SameDefences t') (xs : List (String × Int)) :
    afterDefences t xs = afterDefences t' xs := by
  induction xs with
  | nil => rfl
  | cons e xs ih =>
    change t.modifyDamage e.2 e.1 + afterDefences t xs =
      t'.modifyDamage e.2 e.1 + afterDefences t' xs
    rw [Target.modifyDamage, Target.modifyDamage, h.defence_eq, ih]

theorem getD_saved_iff (o : TargetOutcome) : o.saved.getD false = true ↔ o.saved = some true := by
  cases o.saved with
  | none => simp
  | some b => simp

theorem afterSave_mono (effect : SaveEffect) {saved saved' : Bool} {n n' : Int} (hn : 0 ≤ n)
    (hle : n ≤ n') (h : saved' = true → saved = true) :
    afterSave effect saved n ≤ afterSave effect saved' n' := by
  unfold afterSave
  cases saved <;> cases saved' <;> cases effect <;> simp at h ⊢ <;> omega

theorem afterSave_zero (effect : SaveEffect) (saved : Bool) : afterSave effect saved 0 = 0 := by
  cases effect <;> cases saved <;> rfl

end ApplyDamage

namespace ApplyDamage

variable {δ σ : Type}

/-- The amount is recorded, and taken from the creature once if there is any. -/
theorem world_apply {w : World δ σ} (hw : w.state.WellFormed) (t : Table δ σ) (d : Dialog)
    (target : Target) {o : TargetOutcome} (ho : w.state.outcome? target.id = some o)
    (hne : o.damageByType ≠ []) :
    (perform (apply t d target) w).2.state =
        w.state.recorded target (applied (amount d.saveEffect target o)) ∧
      (perform (apply t d target) w).2.source =
        if 0 < amount d.saveEffect target o then
          (t.source.damage target.id (amount d.saveEffect target o) w.source).source
        else w.source := by
  rw [perform_apply hw t d target ho hne]
  by_cases hpos : 0 < amount d.saveEffect target o
  · rw [if_pos hpos, if_pos hpos, perform_bind, perform_hurt]
    cases (t.source.damage target.id (amount d.saveEffect target o) w.source).result with
    | error e => exact ⟨rfl, rfl⟩
    | ok _ => exact ⟨rfl, rfl⟩
  · rw [if_neg hpos, if_neg hpos]
    exact ⟨rfl, rfl⟩

end ApplyDamage

/-- What is true of the amount that a target takes: the sum over the types of what its defences leave
of each, which a successful save lowers. -/
structure Amounts (effect : SaveEffect) (t : Target) (o : TargetOutcome) : Prop where
  bounds : 0 ≤ ApplyDamage.amount effect t o ∧ ApplyDamage.amount effect t o ≤ 2 * o.damageTotal
  immune : (∀ e ∈ o.damageByType, t.ImmuneTo e.1) → ApplyDamage.amount effect t o = 0
  summed : ApplyDamage.amount effect t { o with saved := some false } =
    (o.damageByType.map fun e => t.modifyDamage e.2 e.1).sum
  unsaved : o.saved ≠ some true →
    ApplyDamage.amount effect t o = ApplyDamage.amount effect t { o with saved := some false }
  averted : o.saved = some true → effect = .none → ApplyDamage.amount effect t o = 0
  halved : o.saved = some true → effect = .half →
    ApplyDamage.amount effect t o = ApplyDamage.amount effect t { o with saved := some false } / 2
  monotone : ∀ (t' : Target) (o' : TargetOutcome), t.Exposed t' →
    Raised o.damageByType o'.damageByType → (o'.saved = some true → o.saved = some true) →
    ApplyDamage.amount effect t o ≤ ApplyDamage.amount effect t' o'
  defences : ∀ t', t.SameDefences t' →
    ApplyDamage.amount effect t o = ApplyDamage.amount effect t' o
  precedence : ∀ n damageType, t.modifyDamage n damageType =
    if Text.lower damageType ∈ t.immunities then 0
    else if Text.lower damageType ∈ t.resistances then n / 2
    else if Text.lower damageType ∈ t.vulnerabilities then n * 2
    else n
  recorded : ∀ {δ σ : Type} (table : Table δ σ) (d : Dialog) (w : World δ σ),
    d.saveEffect = effect → w.state.WellFormed → w.state.outcome? t.id = some o →
    o.damageByType ≠ [] →
    ((perform (ApplyDamage.apply table d t) w).2.state.outcome? t.id).map (·.damageApplied) =
      some (some (ApplyDamage.amount effect t o))
  taken : ∀ {δ σ : Type} (table : Table δ σ) (d : Dialog) (w : World δ σ),
    d.saveEffect = effect → w.state.WellFormed → w.state.outcome? t.id = some o →
    o.damageByType ≠ [] →
    (perform (ApplyDamage.apply table d t) w).2.source =
      if 0 < ApplyDamage.amount effect t o then
        (table.source.damage t.id (ApplyDamage.amount effect t o) w.source).source
      else w.source

/-- Damage after defences and a save is bounded by twice what was rolled, and monotone in it. -/
theorem amount_amounts (effect : SaveEffect) (t : Target) {o : TargetOutcome}
    (h : NonNegative o.damageByType) : Amounts effect t o where
  bounds := ApplyDamage.amount_bounds effect t h
  immune himmune := by
    rw [ApplyDamage.amount, ApplyDamage.afterDefences_immune himmune, ApplyDamage.afterSave_zero]
  summed := ApplyDamage.afterDefences_eq_sum t o.damageByType
  unsaved hsaved := by
    have hfailed : o.saved.getD false = false :=
      Bool.eq_false_iff.mpr fun hs => hsaved ((ApplyDamage.getD_saved_iff o).mp hs)
    rw [ApplyDamage.amount, hfailed]
    rfl
  averted hsaved heffect := by
    rw [ApplyDamage.amount, hsaved, heffect]
    rfl
  halved hsaved heffect := by
    rw [ApplyDamage.amount, hsaved, heffect]
    rfl
  monotone t' o' ht hraised hsaved := by
    apply ApplyDamage.afterSave_mono
    · exact (ApplyDamage.afterDefences_bounds t h).1
    · exact ApplyDamage.afterDefences_mono ht hraised h
    · intro hs
      exact (ApplyDamage.getD_saved_iff o).mpr (hsaved ((ApplyDamage.getD_saved_iff o').mp hs))
  defences t' ht := by
    rw [ApplyDamage.amount, ApplyDamage.amount, ApplyDamage.afterDefences_congr ht]
  precedence := t.modifyDamage_eq_ite
  recorded table d w heffect hw ho hne := by
    subst heffect
    rw [(ApplyDamage.world_apply hw table d t ho hne).1, ActionState.outcome?_recorded, if_pos rfl]
    rfl
  taken table d w heffect hw ho hne := by
    subst heffect
    exact (ApplyDamage.world_apply hw table d t ho hne).2

/-- Fire is listed among all defences, acid as resisted and as a weakness, cold as a weakness only. -/
def salamander : Target :=
  { id := "salamander", immunities := ["fire"], resistances := ["acid", "fire", "acid"],
    vulnerabilities := ["fire", "cold", "acid"] }

def scalded : TargetOutcome :=
  { targetId := "salamander", damageByType := [("Fire", 9), ("acid", 7), ("cold", 3)],
    saved := some true }

theorem amounts_salamander : NonNegative scalded.damageByType ∧
    Amounts .half salamander scalded ∧ ApplyDamage.amount .half salamander scalded = 4 := by
  have hn : NonNegative scalded.damageByType := by simp [scalded, NonNegative]
  exact ⟨hn, amount_amounts .half salamander hn, by decide⟩

end Run
end Encounter
