import Encounter.Check.Resolution
import Encounter.Proofs.Pool.KeptDie

namespace Encounter.Pool

open Dice (Expr Faces Keep Lot evaluate)

/-- A check that still has a twenty-sided die. One that is thrown once loses it if other terms take
it away and leave something else. -/
def HasDie (k : Option Keep) (terms : List Term) : Prop :=
  k ≠ none ∨ netCount terms 20 ≠ 0 ∨
    (∀ size, netCount terms size = 0) ∧ numberSum terms = 0

namespace Part

variable {ps : List Part}

theorem net_ne_zero_of_mem_lots (damageType : String) (hps : ∀ p ∈ ps, p.Canonical) :
    ∀ l ∈ ps.flatMap (lots damageType), l.net ≠ 0 := by
  intro l hl
  obtain ⟨p, hp, hl⟩ := List.mem_flatMap.mp hl
  obtain ⟨n, _ | size⟩ := p
  · cases hl
  · rw [List.mem_singleton.mp hl]
    exact (hps _ hp).ne_zero

theorem hasSides_checkExpr {k : Option Keep} (hps : ∀ p ∈ checkParts ps k, p.Canonical) :
    (checkExpr ps k).HasSides := by
  cases k with
  | none => exact (rolls_sum "" hps).sides
  | some k => exact (goesOn_checkExpr k hps).sides (Dice.hasSides_twice fun _ => by decide)

theorem exists_lot_checkParts (ps : List Part) :
    (∃ l ∈ (checkParts ps none).flatMap (lots ""), l.size = 20) ↔
      netDice (d20 :: ps) 20 ≠ 0 ∨
        (∀ size, netDice (d20 :: ps) size = 0) ∧ total (d20 :: ps) = 0 := by
  rw [← merged_eq_nil_iff, checkParts]
  by_cases hnil : merged (d20 :: ps) = []
  · rw [if_pos hnil]
    exact iff_of_true ⟨⟨"", 20, 1⟩, List.mem_cons_self, rfl⟩ (.inr hnil)
  · rw [if_neg hnil, lots_merged, or_iff_left hnil, ← exists_mem_left]
    constructor
    · rintro ⟨l, hl, hsize⟩
      obtain ⟨e, he, rfl⟩ := List.mem_map.mp hl
      exact ⟨e, he, hsize⟩
    · rintro ⟨e, he, hsize⟩
      exact ⟨_, List.mem_map_of_mem he, hsize⟩

theorem keptNatural_checkExpr_bounds {k : Option Keep}
    (hps : ∀ p ∈ checkParts ps k, p.Canonical) {f : Faces} {n : Nat}
    (h : ((checkExpr ps k).shown f).keptNatural = some n) : 1 ≤ n ∧ n ≤ 20 := by
  cases k with
  | none => exact Lot.natural_deal_bounds ((showsNatural_sum "" hps f).symm.trans h)
  | some k =>
    rw [(goesOn_checkExpr k hps).natural, Dice.keptNatural_twice, Dice.keptNatural_die] at h
    cases h
    exact Faces.face_bounds _ (by decide)

/-- Which checks show a natural face. -/
theorem isSome_keptNatural_checkExpr {k : Option Keep}
    (hps : ∀ p ∈ checkParts ps k, p.Canonical) (f : Faces) :
    ((checkExpr ps k).shown f).keptNatural.isSome = true ↔
      k ≠ none ∨ netDice (d20 :: ps) 20 ≠ 0 ∨
        (∀ size, netDice (d20 :: ps) size = 0) ∧ total (d20 :: ps) = 0 := by
  cases k with
  | none =>
    rw [checkExpr, showsNatural_sum "" hps f,
      Lot.isSome_natural_deal (net_ne_zero_of_mem_lots "" hps), exists_lot_checkParts]
    simp
  | some k =>
    rw [(goesOn_checkExpr k hps).natural, Dice.keptNatural_twice, Dice.keptNatural_die]
    exact iff_of_true rfl (.inl (Option.some_ne_none k))

end Part

theorem hasDie_iff {a : Action} {k : Option Keep} {others : List Term}
    (hwrites : ∀ t ∈ others, ∃ q, t.Writes q) : HasDie k (checkDie a k :: others) ↔
      k ≠ none ∨ Part.netDice (d20 :: others.map Term.part) 20 ≠ 0 ∨
        (∀ size, Part.netDice (d20 :: others.map Term.part) size = 0) ∧
          Part.total (d20 :: others.map Term.part) = 0 := by
  cases k with
  | none =>
    have hall : ∀ t ∈ baseDie a :: others, ∃ q, t.Writes q :=
      List.forall_mem_cons.mpr ⟨⟨d20, writes_baseDie a⟩, hwrites⟩
    have hparts : (baseDie a :: others).map Term.part = d20 :: others.map Term.part := by
      rw [List.map_cons, Term.part_of_writes (writes_baseDie a)]
    rw [← hparts, total_parts hall]
    simp only [netDice_parts hall]
    rfl
  | some k => exact iff_of_true (.inl (Option.some_ne_none k)) (.inl (Option.some_ne_none k))

/-- A check that evaluates shows a natural face between one and twenty if and only if it still has a
twenty-sided die, and else none, which is taken for a zero. -/
theorem natural_check {b : Builder} {r : Request} {p : DicePool} {faces : Faces}
    {o : Dice.Outcome} (hr : r.action.usesD20 = true) (hbuild : b.build r = .ok p)
    (h : (evaluate p.formula faces).1 = .ok o) :
    (∀ n, o.natural = some n → 1 ≤ n ∧ n ≤ 20) ∧
      (o.natural.isSome = true ↔ HasDie (keep? r.advantage r.disadvantage) p.terms) ∧
      (Check.naturalFace o = 0 ↔ ¬ HasDie (keep? r.advantage r.disadvantage) p.terms) := by
  obtain ⟨others, hterms, hwrites, hformula⟩ := Builder.build_check hr hbuild
  rw [hterms] at hformula ⊢
  obtain ⟨hcanonical, hread⟩ := Part.readFormula_check hwrites hformula
  obtain rfl := Dice.eq_ofNode_of_evaluate hread (Part.hasSides_checkExpr hcanonical) h
  -- the rolled expression alone decides, since an outcome is made of it whatever its total is
  have hsome := Part.isSome_keptNatural_checkExpr hcanonical faces
  have hbounds := fun n => Part.keptNatural_checkExpr_bounds (n := n) hcanonical (f := faces)
  rw [hasDie_iff hwrites, ← hsome, Check.naturalFace, Dice.natural_ofNode]
  cases hnatural : ((Part.checkExpr (others.map Term.part)
    (keep? r.advantage r.disadvantage)).shown faces).keptNatural with
  | none => simp
  | some n =>
    obtain ⟨hlow, hhigh⟩ := hbounds n hnatural
    refine ⟨fun m hm => ?_, iff_of_true rfl rfl, iff_of_false ?_ (not_not_intro rfl)⟩
    · cases hm
      exact ⟨Int.ofNat_le.mpr hlow, Int.ofNat_le.mpr hhigh⟩
    · exact fun hzero => absurd hlow (by simpa using Int.ofNat.inj hzero)

theorem natural_check_ambush : (Builder.make none "kinetic").build ambush = .ok ambushPool ∧
    ∃ o, (evaluate ambushPool.formula (Faces.cycle #[9, 17])).1 = .ok o ∧ o.natural = some 17 ∧
      HasDie (some .highest) ambushPool.terms := by
  have hbuild : (Builder.make none "kinetic").build ambush = .ok ambushPool :=
    Result.eq_ok_of_toOption (by decide +kernel)
  obtain ⟨o, ho, hnatural⟩ := Result.exists_of_map_toOption
    (x := (evaluate ambushPool.formula (Faces.cycle #[9, 17])).1) (f := (·.natural))
    (b := some 17) (by decide +kernel)
  have hdie := (natural_check rfl hbuild ho).2.1.mp (by rw [hnatural]; rfl)
  exact ⟨hbuild, o, ho, hnatural, hdie⟩

def blunder : Request := { action := .attack, modifiers := [{ fragment := "-1d20+5" }] }

def blunderPool : DicePool where
  action := .attack
  terms := [⟨"1d20", .dice, "", "Attack Die", none⟩, ⟨"-1d20", .dice, "", "Unknown", none⟩,
    ⟨"5", .number, "", "Unknown", none⟩]
  formula := "5"

theorem check_without_die : (Builder.make none "kinetic").build blunder = .ok blunderPool ∧
    ∃ o, (evaluate blunderPool.formula (Faces.cycle #[7])).1 = .ok o ∧ o.natural = none ∧
      Check.naturalFace o = 0 := by
  have hbuild : (Builder.make none "kinetic").build blunder = .ok blunderPool :=
    Result.eq_ok_of_toOption (by decide +kernel)
  obtain ⟨o, ho, hnatural⟩ := Result.exists_of_map_toOption
    (x := (evaluate blunderPool.formula (Faces.cycle #[7])).1) (f := (·.natural))
    (b := none) (by decide +kernel)
  refine ⟨hbuild, o, ho, hnatural, ?_⟩
  rw [Check.naturalFace, hnatural]
  rfl

end Encounter.Pool
