import Encounter.Proofs.Pool.Check

namespace Encounter.Pool

open Dice (Expr Faces Keep Lot Outcome GoesOn evaluate invalidRoll)

def netCount (terms : List Term) (size : Nat) : Int := (terms.map fun t => t.diceOf size).sum

def numberSum (terms : List Term) : Int := (terms.map Term.constant).sum

/-- The dice that terms are left with whatever their damage types, the largest first. -/
structure Remain (terms : List Term) (ls : List Lot) : Prop where
  mem : ∀ l, l ∈ ls ↔ l.damageType = "" ∧ l.net = netCount terms l.size ∧ l.net ≠ 0
  ordered : ls.Pairwise fun a b => b.size < a.size

/-- The faces of a check: of the dice before the base die, of the throw of the base die that counts,
and of the dice after it. -/
structure Throw where
  before : List (Lot × List Nat)
  natural : Nat
  after : List (Lot × List Nat)

namespace Throw

def faces (t : Throw) : List Nat := t.before.flatMap (·.2) ++ t.natural :: t.after.flatMap (·.2)

def total (t : Throw) : Int := t.natural + ((t.before ++ t.after).map Lot.signedSum).sum

def times : Option Keep → Nat
  | none => 1
  | some _ => 2

/-- Thrown once, the base die comes after the dice that are larger. Thrown twice, it comes first. -/
def deal (k : Option Keep) (ls : List Lot) (f : Faces) : Throw :=
  match k with
  | none =>
    let larger := ls.filter fun l => 20 < l.size
    let rest := f.skip (Lot.dice larger)
    ⟨Lot.deal larger f, rest.face 20, Lot.deal (ls.filter fun l => l.size < 20) (rest.skip 1)⟩
  | some k => ⟨[], k.pick (f.face 20) ((f.skip 1).face 20), Lot.deal ls (f.skip 2)⟩

/-- An expression that throws a base die, rolls lots and adds a number. -/
structure Rolls (e : Expr) (k : Option Keep) (ls : List Lot) (n : Int) : Prop where
  sides : e.HasSides
  count : e.diceCount = times k + Lot.dice ls
  total : ∀ f, (e.shown f).total = (deal k ls f).total + n
  faces : ∀ f, (e.shown f).keptFaces = (deal k ls f).faces
  natural : ∀ f, (e.shown f).keptNatural = some (deal k ls f).natural

end Throw

/-- How the formula of a check evaluates, given the dice that are left besides the base die. -/
structure DicePool.ChecksTo (p : DicePool) (k : Option Keep) (ls : List Lot) (faces : Faces) :
    Prop where
  tooMany : (evaluate p.formula faces).1 = .error
    (invalidRoll "Invalid dice expression: Too many dice rolled." p.formula) ↔
      1000 < Throw.times k + Lot.dice ls
  rolled : Throw.times k + Lot.dice ls ≤ 1000 →
    Numeral.Fits ((Throw.deal k ls faces).total + numberSum p.terms.tail).natAbs →
      ∃ o, (evaluate p.formula faces).1 = .ok o ∧
        o.natural = some ((Throw.deal k ls faces).natural : Int) ∧
        o.dice = (Throw.deal k ls faces).faces ∧
        o.total = (Throw.deal k ls faces).total + numberSum p.terms.tail
  refused : Throw.times k + Lot.dice ls ≤ 1000 →
    ¬ Numeral.Fits ((Throw.deal k ls faces).total + numberSum p.terms.tail).natAbs →
      (evaluate p.formula faces).1 = .error (.numeral .tooLargeToWrite)

namespace DiceSum

theorem Sorted.around {d : DiceSum} (h : d.Sorted) (size : Nat) (q : Int) :
    Sorted ((d.filter fun e => size < e.1) ++ (size, q) :: d.filter fun e => e.1 < size) := by
  have hlarger : ∀ e ∈ d.filter fun e => size < e.1, size < e.1 := fun e he => by
    simpa using (List.mem_filter.mp he).2
  have hsmaller : ∀ e ∈ d.filter fun e => e.1 < size, e.1 < size := fun e he => by
    simpa using (List.mem_filter.mp he).2
  refine List.pairwise_append.mpr ⟨h.filter _, List.pairwise_cons.mpr ⟨hsmaller, h.filter _⟩,
    fun a ha b hb => ?_⟩
  obtain rfl | hb := List.mem_cons.mp hb
  · exact hlarger a ha
  · exact Nat.lt_trans (hsmaller b hb) (hlarger a ha)

end DiceSum

namespace Part

variable {ps : List Part}

theorem netDice_d20 (ps : List Part) (size : Nat) :
    netDice (d20 :: ps) size = (if size = 20 then 1 else 0) + netDice ps size := by
  rw [netDice, List.map_cons, List.sum_cons, ← netDice]
  by_cases h : size = 20
  · subst h
    rfl
  · have hsize : d20.size ≠ some size := fun heq => h (Option.some.inj heq).symm
    rw [if_neg h, if_neg hsize]

theorem total_d20 (ps : List Part) : total (d20 :: ps) = total ps := Int.zero_add _

/-- The base die stands between the larger and the smaller dice. -/
theorem left_d20 (h : netDice ps 20 = 0) : (Tally.ofParts (d20 :: ps)).left =
    ((Tally.ofParts ps).left.filter fun e => 20 < e.1) ++
      (20, 1) :: (Tally.ofParts ps).left.filter fun e => e.1 < 20 := by
  -- both sides are sorted, so it is enough to compare what is in them
  refine (sorted_left (d20 :: ps)).eq_of_mem ((sorted_left ps).around 20 1) fun e => ?_
  obtain ⟨size, q⟩ := e
  rw [mem_left, netDice_d20, List.mem_append, List.mem_cons, List.mem_filter, List.mem_filter,
    mem_left, Prod.mk.injEq, decide_eq_true_iff, decide_eq_true_iff]
  obtain hlt | rfl | hgt := Nat.lt_trichotomy size 20
  · simp [hlt, Nat.ne_of_lt hlt, Nat.lt_asymm hlt]
  · dsimp only
    rw [if_pos rfl, h]
    omega
  · simp [hgt, Nat.ne_of_gt hgt, Nat.lt_asymm hgt]

def lotsLeft (ps : List Part) : List Lot :=
  (Tally.ofParts ps).left.map fun e => ⟨"", e.1, e.2⟩

theorem size_ne_of_mem_lotsLeft (h : netDice ps 20 = 0) : ∀ l ∈ lotsLeft ps, l.size ≠ 20 := by
  intro l hl hsize
  obtain ⟨e, he, rfl⟩ := List.mem_map.mp hl
  exact exists_mem_left.mp ⟨e, he, hsize⟩ h

theorem checkParts_none (h : netDice ps 20 = 0) : checkParts ps none = merged (d20 :: ps) := by
  refine if_neg ?_
  rw [merged, left_d20 h]
  simp

/-- A check that is thrown once rolls the base die between the larger and the smaller dice. -/
theorem lots_checkParts (h : netDice ps 20 = 0) : (checkParts ps none).flatMap (lots "") =
    ((lotsLeft ps).filter fun l => 20 < l.size) ++
      ⟨"", 20, 1⟩ :: (lotsLeft ps).filter fun l => l.size < 20 := by
  rw [checkParts_none h, lots_merged, left_d20 h, lotsLeft, List.map_append, List.map_cons,
    List.filter_map, List.filter_map]
  rfl

theorem total_checkParts (h : netDice ps 20 = 0) : total (checkParts ps none) = total ps := by
  rw [checkParts_none h, total_merged, total_d20]

end Part

namespace Throw

variable {ls : List Lot}

theorem dice_around (h : ∀ l ∈ ls, l.size ≠ 20) :
    Lot.dice (ls.filter fun l => 20 < l.size) + Lot.dice (ls.filter fun l => l.size < 20) =
      Lot.dice ls := by
  induction ls with
  | nil => rfl
  | cons l ls ih =>
    obtain ⟨hl, hls⟩ := List.forall_mem_cons.mp h
    have ih := ih hls
    obtain hlt | hgt := Nat.lt_or_gt_of_ne hl
    · rw [List.filter_cons_of_neg (by simpa using Nat.le_of_lt hlt),
        List.filter_cons_of_pos (by simpa using hlt), Lot.dice_cons, Lot.dice_cons]
      omega
    · rw [List.filter_cons_of_pos (by simpa using hgt),
        List.filter_cons_of_neg (by simpa using Nat.le_of_lt hgt), Lot.dice_cons,
        Lot.dice_cons]
      omega

theorem deal_once (ls : List Lot) (f : Faces) :
    Lot.deal ((ls.filter fun l => 20 < l.size) ++
      ⟨"", 20, 1⟩ :: ls.filter fun l => l.size < 20) f =
        (deal none ls f).before ++ (⟨"", 20, 1⟩, [(deal none ls f).natural]) ::
          (deal none ls f).after := Lot.deal_append _ _ f

theorem signedSum_die (n : Nat) : Lot.signedSum (⟨"", 20, 1⟩, [n]) = n := by
  simp [Lot.signedSum]

variable {ps : List Part}

theorem rolls_once (hps : ∀ p ∈ Part.checkParts ps none, p.Canonical)
    (h : Part.netDice ps 20 = 0) :
    Rolls (Part.checkExpr ps none) none (Part.lotsLeft ps) (Part.total ps) := by
  have hsize := Part.size_ne_of_mem_lotsLeft h
  have hrolls := Part.rolls_sum "" hps
  have hnatural := Part.showsNatural_sum "" hps
  rw [Part.lots_checkParts h] at hrolls hnatural
  rw [← Part.total, Part.total_checkParts h] at hrolls
  refine ⟨hrolls.sides, ?_, fun f => ?_, fun f => ?_, fun f => ?_⟩
  · have hdie : Lot.count ⟨"", 20, 1⟩ = times none := rfl
    rw [Part.checkExpr, hrolls.count, Lot.dice_append, Lot.dice_cons, ← dice_around hsize, hdie]
    omega
  · have htotal : ((Part.sum (Part.checkParts ps none)).shown f).total = _ := hrolls.total f
    rw [Part.checkExpr, htotal, deal_once, List.map_append, List.map_cons, List.sum_append,
      List.sum_cons, signedSum_die, total, List.map_append, List.sum_append]
    omega
  · rw [Part.checkExpr, hrolls.faces, deal_once, List.flatMap_append, List.flatMap_cons]
    rfl
  · have hbefore : Lot.natural (deal none (Part.lotsLeft ps) f).before = none := by
      refine Lot.natural_deal_of_ne (fun l hl => ?_) f
      exact hsize l (List.mem_of_mem_filter hl)
    rw [Part.checkExpr, hnatural, deal_once, Lot.natural_append, hbefore, Option.none_or]
    rfl

theorem rolls_twice (k : Keep) (hps : ∀ p ∈ Part.checkParts ps (some k), p.Canonical) :
    Rolls (Part.checkExpr ps (some k)) (some k) (Part.lotsLeft ps) (Part.total ps) := by
  have hgoes := Part.goesOn_checkExpr k hps
  rw [Part.lots_merged] at hgoes
  refine ⟨hgoes.sides (Dice.hasSides_twice fun _ => by decide), hgoes.count, fun f => ?_,
    fun f => ?_, fun f => ?_⟩
  · rw [hgoes.total, Dice.total_twice, Dice.total_die, Dice.face_keptFrom, ← Int.add_assoc]
    rfl
  · rw [hgoes.faces, Dice.keptFaces_twice, Dice.keptFaces_die, Dice.face_keptFrom]
    rfl
  · rw [hgoes.natural, Dice.keptNatural_twice, Dice.keptNatural_die, Dice.face_keptFrom]
    rfl

end Throw

theorem Term.diceOf_eq_zero {t : Term} {size : Nat} (h : t.faces ≠ .ok size) :
    t.diceOf size = 0 := by
  unfold diceOf
  split
  · rename_i s q hfaces hquantity
    exact if_neg fun heq : s = size => h (hfaces.trans (congrArg _ heq))
  · rfl

theorem netCount_eq_zero {terms : List Term} {size : Nat} (h : ∀ t ∈ terms, t.faces ≠ .ok size) :
    netCount terms size = 0 := by
  refine List.sum_eq_zero fun n hn => ?_
  obtain ⟨t, ht, rfl⟩ := List.mem_map.mp hn
  exact Term.diceOf_eq_zero (h t ht)

theorem remain_lotsLeft {terms : List Term} (hterms : ∀ t ∈ terms, ∃ q, t.Writes q) :
    Remain terms (Part.lotsLeft (terms.map Term.part)) := by
  refine ⟨fun l => ?_, List.pairwise_map.mpr (Part.sorted_left _)⟩
  rw [netCount, ← netDice_parts hterms, Part.lotsLeft, List.mem_map]
  constructor
  · rintro ⟨e, he, rfl⟩
    exact ⟨rfl, Part.mem_left.mp he⟩
  · rintro ⟨htype, hnet⟩
    refine ⟨(l.size, l.net), Part.mem_left.mpr hnet, ?_⟩
    rw [← htype]

theorem checksTo {p : DicePool} {a : Action} {k : Option Keep} {others : List Term}
    (hterms : p.terms = checkDie a k :: others) (hformula : checkFormula p.terms = .ok p.formula)
    (hwrites : ∀ t ∈ others, ∃ q, t.Writes q) (hothers : ∀ t ∈ others, t.faces ≠ .ok 20)
    (faces : Faces) : p.ChecksTo k (Part.lotsLeft (others.map Term.part)) faces := by
  have hnet : Part.netDice (others.map Term.part) 20 = 0 :=
    (netDice_parts hwrites 20).trans (netCount_eq_zero hothers)
  have htotal : Part.total (others.map Term.part) = numberSum p.terms.tail := by
    rw [hterms]
    exact total_parts hwrites
  rw [hterms] at hformula
  obtain ⟨hcanonical, hread⟩ := Part.readFormula_check hwrites hformula
  -- thrown once or twice, the base die is rolled with the same lots
  have hrolls : Throw.Rolls (Part.checkExpr (others.map Term.part) k) k
      (Part.lotsLeft (others.map Term.part)) (numberSum p.terms.tail) := by
    rw [← htotal]
    cases k with
    | none => exact Throw.rolls_once hcanonical hnet
    | some k => exact Throw.rolls_twice k hcanonical
  have hlimit : Dice.diceLimit = 1000 := rfl
  refine ⟨?_, fun hcount hfits => ?_, fun hcount hfits => ?_⟩
  · rw [← hrolls.count, ← hlimit]
    exact Dice.evaluate_tooMany_iff hread hrolls.sides faces
  · rw [← hrolls.count] at hcount
    have heval := Dice.evaluate_within hread hrolls.sides hcount faces
    rw [hrolls.total, Numeral.write_of_fits hfits] at heval
    refine ⟨_, heval, ?_, ?_, hrolls.total faces⟩
    · rw [Dice.natural_ofNode, hrolls.natural]
      rfl
    · rw [Dice.dice_ofNode, hrolls.faces]
  · rw [← hrolls.count] at hcount
    have heval := Dice.evaluate_within hread hrolls.sides hcount faces
    rwa [hrolls.total, Numeral.write_of_not_fits hfits] at heval

/-- The formula of a check always evaluates, unless it rolls more than a thousand dice or the total
is too large to write. What comes of it is the base die, of which the better or the worse of two
throws counts under a flag of its own, the other dice and the constants. -/
theorem evaluate_check {b : Builder} {r : Request} {p : DicePool}
    (hr : r.action.usesD20 = true) (hbuild : b.build r = .ok p)
    (hothers : ∀ t ∈ p.terms.tail, t.faces ≠ .ok 20) :
    p.terms.head? = some (checkDie r.action (keep? r.advantage r.disadvantage)) ∧
      ∃ ls, Remain p.terms.tail ls ∧
        ∀ faces, p.ChecksTo (keep? r.advantage r.disadvantage) ls faces := by
  obtain ⟨others, hterms, hwrites, hformula⟩ := Builder.build_check hr hbuild
  have htail : p.terms.tail = others := by rw [hterms, List.tail_cons]
  rw [htail] at hothers ⊢
  refine ⟨by rw [hterms, List.head?_cons], _, remain_lotsLeft hwrites, fun faces => ?_⟩
  exact checksTo hterms hformula hwrites hothers faces

def ambush : Request :=
  { action := .attack, advantage := true,
    modifiers := [{ fragment := "1d4+5" }, { fragment := "2d100-1" }] }

def ambushPool : DicePool where
  action := .attack
  terms := [⟨"max(1d20,1d20)", .dice, "", "Attack Die", none⟩,
    ⟨"1d4", .dice, "", "Unknown", none⟩, ⟨"5", .number, "", "Unknown", none⟩,
    ⟨"2d100", .dice, "", "Unknown", none⟩, ⟨"-1", .number, "", "Unknown", none⟩]
  formula := "max(1d20,1d20)+2d100+1d4+4"
  advantage := true

theorem evaluate_check_ambush : (Builder.make none "kinetic").build ambush = .ok ambushPool ∧
    (∀ t ∈ ambushPool.terms.tail, t.faces ≠ .ok 20) ∧ ∃ ls, Remain ambushPool.terms.tail ls ∧
      ∀ faces, ambushPool.ChecksTo (some .highest) ls faces := by
  have hbuild : (Builder.make none "kinetic").build ambush = .ok ambushPool :=
    Result.eq_ok_of_toOption (by decide +kernel)
  have hfaces : ∀ t ∈ ambushPool.terms.tail, t.faces.toOption ≠ some 20 := by decide +kernel
  have hothers : ∀ t ∈ ambushPool.terms.tail, t.faces ≠ .ok 20 := fun t ht =>
    Result.ne_ok_of_toOption (hfaces t ht)
  exact ⟨hbuild, hothers, (evaluate_check rfl hbuild hothers).2⟩

def bonus (n : Nat) : Request :=
  { action := .attack, modifiers := [{ fragment := Numeral.text n }] }

def bonusPool (n : Nat) : DicePool where
  action := .attack
  terms := [baseDie .attack, ⟨Numeral.text n, .number, "", "Unknown", none⟩]
  formula := "1d20+" ++ Numeral.text n

section Bonus

variable {n : Nat}

theorem canonical_number (hpos : 0 < n) (hn : Numeral.Fits n) : Part.Canonical ⟨n, none⟩ :=
  ⟨by simpa using Nat.ne_of_gt hpos, hn, (fun _ h => nomatch h), (fun _ h => nomatch h)⟩

theorem merged_bonus (hpos : 0 < n) :
    Part.merged [d20, ⟨n, none⟩] = [d20, ⟨n, none⟩] := by
  have hleft : (Tally.ofParts [d20, ⟨n, none⟩]).left = [(20, 1)] := rfl
  have htotal : Part.total [d20, ⟨n, none⟩] = n := by simp [Part.total, Part.constant, d20]
  rw [Part.merged, hleft, htotal, if_neg (by simpa using Nat.ne_of_gt hpos)]
  rfl

theorem formula_bonus (n : Nat) :
    String.ofList (joinSigned ([d20, ⟨n, none⟩].map Part.chars)) = (bonusPool n).formula := by
  have hsign : Part.sign ⟨n, none⟩ = .plus := if_neg (Int.not_lt.mpr (Int.natCast_nonneg n))
  have hrest : Part.restChars [⟨n, none⟩] = '+' :: Numeral.natChars n := by
    rw [Part.restChars, List.flatMap_singleton, hsign, Part.itemChars, Part.sizeChars,
      List.append_nil]
    rfl
  rw [Part.joinSigned_chars, hrest, chars_d20, bonusPool, Numeral.text, Numeral.intChars_ofNat]
  exact String.ext (by simp)

theorem checkFormula_bonus (hpos : 0 < n) (hn : Numeral.Fits n) :
    checkFormula (bonusPool n).terms = .ok (bonusPool n).formula := by
  have hps : ∀ p ∈ [d20, ⟨n, none⟩], p.Canonical := by
    simp [canonical_d20, canonical_number hpos hn]
  have htexts : (bonusPool n).terms.map (·.element) = [d20, ⟨n, none⟩].map Part.text := by
    rw [List.map_cons, List.map_cons, List.map_nil, Part.text_number]
    rfl
  have hcombine := Part.combine_of_fits hps (merged_bonus hpos) (fun p hp => (hps p hp).fits)
    (List.cons_ne_nil _ _)
  rw [checkFormula, htexts, hcombine]
  change Except.ok (if _ then _ else _) = _
  rw [if_neg (by simpa using Part.ofList_joinSigned_ne hps), formula_bonus]

theorem build_bonus (hpos : 0 < n) (hn : Numeral.Fits n) (baseType : String) :
    (Builder.make none baseType).build (bonus n) = .ok (bonusPool n) := by
  have hterms : (Builder.make none baseType).modifierTerms .attack
      { fragment := Numeral.text n } = .ok [⟨Numeral.text n, .number, "", "Unknown", none⟩] := by
    rw [← Part.text_number]
    exact fragmentTerms_text (canonical_number hpos hn) ⟨"Unknown", "", none⟩
  have hall : (Builder.make none baseType).allTerms .attack (bonus n).modifiers =
      .ok [⟨Numeral.text n, .number, "", "Unknown", none⟩] := by
    rw [Builder.allTerms, bonus, List.mapM_cons, hterms]
    rfl
  have haction : (bonus n).action = .attack := rfl
  rw [Builder.build, haction, hall]
  change (checkFormula (bonusPool n).terms >>= _) = _
  rw [checkFormula_bonus hpos hn]
  rfl

theorem tail_bonusPool (n : Nat) : ∀ t ∈ (bonusPool n).terms.tail, t.faces ≠ .ok 20 :=
  List.forall_mem_singleton.mpr fun h => nomatch (Except.ok.inj h : 0 = 20)

theorem refused_bonus (hpos : 0 < n) (hn : Numeral.Fits n) (hnext : ¬ Numeral.Fits (n + 1))
    (faces : Faces) :
    (evaluate (bonusPool n).formula faces).1 = .error (.numeral .tooLargeToWrite) := by
  have hwrites : Term.Writes ⟨Numeral.text n, .number, "", "Unknown", none⟩ ⟨n, none⟩ :=
    ⟨canonical_number hpos hn, (Part.text_number n).symm, rfl⟩
  have hchecks := checksTo (p := bonusPool n) (a := .attack) (k := none) rfl
    (checkFormula_bonus hpos hn) (List.forall_mem_singleton.mpr ⟨_, hwrites⟩) (tail_bonusPool n)
    faces
  have hlots : Part.lotsLeft ([⟨n, none⟩] : List Part) = [] := rfl
  rw [List.map_singleton, Term.part_of_writes hwrites, hlots] at hchecks
  have hnumber : numberSum (bonusPool n).terms.tail = n :=
    (Int.add_zero _).trans (Term.constant_of_writes hwrites)
  have hthrow : (Throw.deal none [] faces).total = faces.face 20 := Int.add_zero _
  have hface := faces.face_bounds (by decide : 0 < 20)
  refine hchecks.refused (by decide) ?_
  rw [hnumber, hthrow]
  rw [Numeral.fits_iff] at hnext ⊢
  omega

end Bonus

/-- With as many nines as a numeral can have digits for a modifier, one die is rolled, and no total
comes of it. -/
theorem check_total_refused :
    (Builder.make none "kinetic").build (bonus (10 ^ Numeral.digitLimit - 1)) =
      .ok (bonusPool (10 ^ Numeral.digitLimit - 1)) ∧
    (∀ t ∈ (bonusPool (10 ^ Numeral.digitLimit - 1)).terms.tail, t.faces ≠ .ok 20) ∧
    (evaluate (bonusPool (10 ^ Numeral.digitLimit - 1)).formula (Faces.cycle #[1])).1 =
      .error (.numeral .tooLargeToWrite) := by
  have hpow : 1 < 10 ^ Numeral.digitLimit := Nat.one_lt_pow (by decide) (by decide)
  have hpos : 0 < 10 ^ Numeral.digitLimit - 1 := by omega
  have hfits : Numeral.Fits (10 ^ Numeral.digitLimit - 1) := by
    rw [Numeral.fits_iff]
    omega
  have hnext : ¬ Numeral.Fits (10 ^ Numeral.digitLimit - 1 + 1) := by
    rw [Numeral.fits_iff]
    omega
  exact ⟨build_bonus hpos hfits "kinetic", tail_bonusPool _, refused_bonus hpos hfits hnext _⟩

end Encounter.Pool
