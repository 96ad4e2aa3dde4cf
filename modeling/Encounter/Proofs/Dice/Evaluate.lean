import Encounter.Proofs.Dice.Lot
import Encounter.Proofs.Dice.Read
import Encounter.Proofs.Result
import Encounter.Proofs.Text.Name
import Mathlib.Data.List.Chain

namespace Encounter.Dice

def NoCalls (cs : List Char) : Prop := cs.IsChain fun c d => d = '(' → c ≠ 'x' ∧ c ≠ 'n'

namespace NoCalls

variable {c d : Char} {cs ds : List Char}

theorem of_notMem (h : '(' ∉ cs) : NoCalls cs := by
  induction cs with
  | nil => exact List.isChain_nil
  | cons c cs ih =>
    rw [List.mem_cons, not_or] at h
    refine List.isChain_cons.mpr ⟨fun d hd heq => ?_, ih h.2⟩
    exact absurd (List.mem_of_mem_head? (heq ▸ hd)) h.2

theorem cons (hc : c ≠ 'x' ∧ c ≠ 'n') (h : NoCalls cs) : NoCalls (c :: cs) :=
  List.isChain_cons.mpr ⟨fun _ _ _ => hc, h⟩

theorem append (hcs : NoCalls cs) (hds : NoCalls ds) (hhead : ds.head? ≠ some '(') :
    NoCalls (cs ++ ds) :=
  List.isChain_append.mpr ⟨hcs, hds, fun _ _ _ hd heq => absurd (heq ▸ hd) hhead⟩

theorem tail (h : NoCalls (c :: cs)) : NoCalls cs := List.IsChain.of_cons h

theorem before_open (h : NoCalls (c :: '(' :: cs)) : c ≠ 'x' ∧ c ≠ 'n' :=
  (List.isChain_cons_cons.mp h).1 rfl

end NoCalls

theorem regroup_of_noCalls (inWord : Bool) (stack : List (Option Keep)) (cs : List Char)
    (hstack : ∀ k ∈ stack, k = none) (hcs : NoCalls cs) :
    Selector.regroup inWord stack cs = some cs := by
  induction inWord, stack, cs using Selector.regroup.induct with
  | case1 _ stack h =>
    obtain ⟨k, hk, hsome⟩ := List.any_eq_true.mp h
    rw [hstack k hk] at hsome
    cases hsome
  | case2 _ stack h => rw [Selector.regroup, if_neg h]
  | case3 stack rest _ => exact absurd rfl hcs.tail.tail.before_open.1
  | case4 stack rest _ => exact absurd rfl hcs.tail.tail.before_open.2
  | case5 _ stack rest ih =>
    rw [Selector.regroup, ih (by simpa using hstack) hcs.tail]
    rfl
  | case6 _ k stack rest _ => cases hstack _ List.mem_cons_self
  | case7 _ stack c rest hmax hmin hopen hclose inner ih =>
    have hinner : ∀ k ∈ inner, k = none := by
      intro k hk
      by_cases hc : (c == ')') = true
      · exact hstack k (List.mem_of_mem_tail (by simpa [inner, hc] using hk))
      · exact hstack k (by simpa [inner, hc] using hk)
    rw [Selector.regroup]
    · exact congrArg (Option.map (c :: ·)) (ih hinner hcs.tail)
    · exact hopen
    · exact hmax
    · exact hmin
    · exact hclose

/-- A formula is read as it stands, less its spaces and with groups for its selectors. -/
theorem readFormula_of_regroup {formula : String} {cs : List Char} {e : Expr}
    (hsolid : ∃ c ∈ formula.toList, Text.isBlank c = false)
    (hregroup : Selector.regroup false [] (formula.toList.filter (· != ' ')) = some cs)
    (hsum : IsSum cs e) : readFormula formula = .ok e := by
  have hblank : formula.toList.all Text.isBlank = false := by
    obtain ⟨c, hc, hb⟩ := hsolid
    exact List.all_eq_false.mpr ⟨c, hc, by simp [hb]⟩
  simp only [readFormula, hblank, Bool.false_eq_true, if_false, regroupChars, hregroup]
  change (Expr.read _).mapError _ = _
  rw [hsum.read]
  rfl

theorem readFormula_of_isSum {formula : String} {e : Expr}
    (hsolid : ∃ c ∈ formula.toList, Text.isBlank c = false)
    (hcalls : NoCalls (formula.toList.filter (· != ' ')))
    (hsum : IsSum (formula.toList.filter (· != ' ')) e) : readFormula formula = .ok e :=
  readFormula_of_regroup hsolid
    (regroup_of_noCalls false [] _ (fun _ h => nomatch h) hcalls) hsum

theorem labelName_bracketed {t : List Char} (hopen : '[' ∉ t) (hclose : ']' ∉ t) :
    labelName ('[' :: (t ++ [']'])) = Text.lowerFrom [] (Text.trimChars Text.isBlank t) := by
  have hbare : ∀ c ∈ t, (c == '[' || c == ']') = false := by
    intro c hc
    simp only [Bool.or_eq_false_iff, beq_eq_false_iff_ne]
    exact ⟨fun h => hopen (h ▸ hc), fun h => hclose (h ▸ hc)⟩
  rw [labelName, Text.trimChars_of_ends (by decide) (by decide),
    Text.trimChars_around (by decide) (by decide) hbare]

theorem labelName_ne_nil {t : List Char} (hopen : '[' ∉ t) (hclose : ']' ∉ t)
    (hsolid : ∃ c ∈ t, Text.isBlank c = false) : labelName ('[' :: (t ++ [']'])) ≠ [] := by
  rw [labelName_bracketed hopen hclose]
  obtain ⟨c, hc, -⟩ := Text.exists_mem_lowerFrom (Text.exists_mem_trimChars hsolid) []
  exact List.ne_nil_of_mem hc

section Evaluate

variable {formula : String} {e : Expr}

theorem evaluate_within (hread : readFormula formula = .ok e) (hsides : e.HasSides)
    (hcount : e.diceCount ≤ diceLimit) (faces : Faces) : (evaluate formula faces).1 =
      (Result.ofNumeral (Numeral.write (e.shown faces).total)).map fun _ =>
        Outcome.ofNode formula (e.shown faces) := by
  have hroll := roll_within (s := { faces }) e hsides (by simpa using hcount)
  unfold evaluate
  rw [hread]
  simp only [hroll]

theorem evaluate_beyond (hread : readFormula formula = .ok e) (hsides : e.HasSides)
    (hcount : diceLimit < e.diceCount) (faces : Faces) : (evaluate formula faces).1 =
      .error (invalidRoll "Invalid dice expression: Too many dice rolled." formula) := by
  have hroll := roll_beyond (s := { faces }) e hsides (Nat.zero_le _) (by simpa using hcount)
  unfold evaluate
  rw [hread]
  simp only [hroll]
  rfl

theorem evaluate_eq_ok (hread : readFormula formula = .ok e) (hsides : e.HasSides)
    (hcount : e.diceCount ≤ diceLimit) {faces : Faces}
    (hfits : Numeral.Fits (e.shown faces).total.natAbs) : evaluate formula faces =
      (.ok (Outcome.ofNode formula (e.shown faces)), faces.skip e.diceCount) := by
  have hroll := roll_within (s := { faces }) e hsides (by simpa using hcount)
  unfold evaluate
  rw [hread]
  simp only [hroll, Numeral.write_of_fits hfits]
  rfl

theorem exists_of_evaluate {faces faces' : Faces} {o : Outcome}
    (h : evaluate formula faces = (.ok o, faces')) : ∃ e, readFormula formula = .ok e ∧
      e.HasSides ∧ o = Outcome.ofNode formula (e.shown faces) ∧
      Numeral.Fits (e.shown faces).total.natAbs ∧ faces' = faces.skip e.diceCount := by
  unfold evaluate at h
  cases hread : readFormula formula with
  | error t =>
    rw [hread] at h
    cases h
  | ok e =>
    simp only [hread] at h
    cases hroll : e.roll.run.run { faces } with
    | mk rolled supply =>
      simp only [hroll] at h
      cases rolled with
      | error t => cases h
      | ok n =>
        have hsides := hasSides_of_roll e hroll
        have hcount : e.diceCount ≤ diceLimit := by
          by_contra hbeyond
          have hfail := roll_beyond (s := { faces }) e hsides (Nat.zero_le _)
            (by simpa using hbeyond)
          rw [hfail] at hroll
          cases hroll
        rw [roll_within (s := { faces }) e hsides (by simpa using hcount)] at hroll
        cases hroll
        obtain ⟨houtcome, rfl⟩ := Prod.mk.inj h
        obtain ⟨_, hwrite, rfl⟩ := Result.map_eq_ok houtcome
        exact ⟨e, rfl, hsides, rfl, (Numeral.write_eq_ok (Result.ofNumeral_eq_ok hwrite)).1, rfl⟩

theorem evaluate_tooMany_iff (hread : readFormula formula = .ok e) (hsides : e.HasSides)
    (faces : Faces) : (evaluate formula faces).1 =
      .error (invalidRoll "Invalid dice expression: Too many dice rolled." formula) ↔
        diceLimit < e.diceCount := by
  refine ⟨fun h => ?_, fun hcount => evaluate_beyond hread hsides hcount faces⟩
  by_contra hcount
  rw [evaluate_within hread hsides (Nat.le_of_not_lt hcount) faces] at h
  by_cases hfits : Numeral.Fits (e.shown faces).total.natAbs
  · rw [Numeral.write_of_fits hfits] at h
    cases h
  · rw [Numeral.write_of_not_fits hfits] at h
    cases h

theorem eq_ofNode_of_evaluate (hread : readFormula formula = .ok e) (hsides : e.HasSides)
    {faces : Faces} {o : Outcome} (h : (evaluate formula faces).1 = .ok o) :
    o = Outcome.ofNode formula (e.shown faces) := by
  by_cases hcount : e.diceCount ≤ diceLimit
  · rw [evaluate_within hread hsides hcount faces] at h
    obtain ⟨-, -, rfl⟩ := Result.map_eq_ok h
    rfl
  · rw [evaluate_beyond hread hsides (Nat.lt_of_not_le hcount) faces] at h
    cases h

theorem dice_ofNode (formula : String) (n : Node) :
    (Outcome.ofNode formula n).dice = n.keptFaces := dice_gather {} n

theorem Annotated.total_totalsByType (h : Annotated e) (formula : String) (faces : Faces) :
    Entries.total (Outcome.ofNode formula (e.shown faces)).totalsByType =
      (e.shown faces).total := by
  change Entries.total ((e.shown faces).gather {}).totals = _
  have hadd := Findings.total_addLabels (f := {}) List.nodup_nil (h.names faces)
  rw [totals_gather, hadd, h.total]
  exact Int.zero_add _

/-- A formula that rolls lots shows their faces, and its total is written or refused. -/
theorem evaluate_rolls {ls : List Lot} {n total : Int} (hread : readFormula formula = .ok e)
    (hannotated : Annotated e) (hrolls : Rolls .plus e ls n) (hcount : Lot.dice ls ≤ diceLimit)
    (faces : Faces)
    (htotal : total = ((Lot.deal ls faces).map Lot.signedSum).sum + n) :
    (Numeral.Fits total.natAbs → ∃ o, (evaluate formula faces).1 = .ok o ∧
      o.dice = (Lot.deal ls faces).flatMap (·.2) ∧ o.total = total ∧
      Entries.total o.totalsByType = total) ∧
    (¬ Numeral.Fits total.natAbs →
      (evaluate formula faces).1 = .error (.numeral .tooLargeToWrite)) := by
  have hshown : (e.shown faces).total = total := (hrolls.total faces).trans htotal.symm
  have hcount : e.diceCount ≤ diceLimit := by rwa [hrolls.count]
  have heval := evaluate_within hread hrolls.sides hcount faces
  rw [hshown] at heval
  refine ⟨fun hfits => ?_, fun hfits => ?_⟩
  · rw [Numeral.write_of_fits hfits] at heval
    refine ⟨Outcome.ofNode formula (e.shown faces), heval, ?_, hshown, ?_⟩
    · rw [dice_ofNode, hrolls.faces]
    · rw [hannotated.total_totalsByType, hshown]
  · rwa [Numeral.write_of_not_fits hfits] at heval

end Evaluate
end Encounter.Dice
