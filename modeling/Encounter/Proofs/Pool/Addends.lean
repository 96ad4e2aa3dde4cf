import Encounter.Proofs.Dice.SignedSum
import Encounter.Proofs.Pool.Spelling
import Encounter.Proofs.Pool.Terms

namespace Encounter

namespace Dice

theorem foldr_apply (signs : List Sign) (n : Int) :
    signs.foldr Sign.apply n = if signs.count .minus % 2 = 1 then -n else n := by
  induction signs with
  | nil => rfl
  | cons s signs ih =>
    rw [List.foldr_cons, ih]
    cases s with
    | plus =>
      rw [List.count_cons_of_ne (by decide)]
      rfl
    | minus =>
      rw [List.count_cons_self]
      by_cases hodd : signs.count .minus % 2 = 1
      · rw [if_pos hodd, if_neg (by omega)]
        exact Int.neg_neg n
      · rw [if_neg hodd, if_pos (by omega)]
        rfl

namespace Addend

/-- The number with the sign next to it, and no other sign. -/
def nearest (a : Addend) : Int := (a.signs.getLast?.getD .plus).apply a.number

/-- The signs that do not stand next to the number turn it around. -/
def misread (a : Addend) : Bool := a.signs.dropLast.count .minus % 2 == 1

theorem denoted_eq (a : Addend) : a.denoted = if a.misread then -a.nearest else a.nearest := by
  obtain ⟨signs, digits⟩ := a
  obtain rfl | ⟨init, s, rfl⟩ := List.eq_nil_or_concat' signs
  · rfl
  · simp only [denoted, misread, nearest, List.foldr_append, foldr_apply, List.dropLast_concat,
      List.getLast?_concat, beq_iff_eq]
    cases s <;> rfl

theorem sum_nearest (as : List Addend) : (as.map nearest).sum =
    (as.map denoted).sum - 2 * ((as.filter misread).map denoted).sum := by
  induction as with
  | nil => rfl
  | cons a as ih =>
    have hdenoted := a.denoted_eq
    cases ha : a.misread with
    | true =>
      rw [ha, if_pos rfl] at hdenoted
      rw [List.filter_cons_of_pos ha]
      simp only [List.map_cons, List.sum_cons, ih]
      omega
    | false =>
      rw [ha, if_neg Bool.false_ne_true] at hdenoted
      rw [List.filter_cons_of_neg (by simp [ha])]
      simp only [List.map_cons, List.sum_cons, ih]
      omega

theorem sum_nearest_eq_iff (as : List Addend) : (as.map nearest).sum = (as.map denoted).sum ↔
    ((as.filter misread).map denoted).sum = 0 := by
  rw [sum_nearest]
  omega

end Addend
end Dice

namespace Pool

open Dice (Sign Addend IsSignedSum)

def numberTerm? (n : Int) : Option (String × ElementKind) :=
  if n == 0 then none else some (Numeral.text n, .number)

structure Counts (token : List Char) (n : Int) : Prop where
  read : readToken token = .ok (numberTerm? n)
  fits : Numeral.Fits n.natAbs

/-- A text whose tokens are numbers that add up to a number. -/
def AddUp (cs : List Char) (n : Int) : Prop := ∃ ns, List.Forall₂ Counts (tokens cs) ns ∧ ns.sum = n

variable {cs ds : List Char} {m n : Int}

theorem AddUp.of_tokens {es : List Char} (hcs : AddUp cs m) (hds : AddUp ds n)
    (h : tokens es = tokens cs ++ tokens ds) : AddUp es (m + n) := by
  obtain ⟨ms, hms, rfl⟩ := hcs
  obtain ⟨ns, hns, rfl⟩ := hds
  refine ⟨ms ++ ns, ?_, List.sum_append⟩
  rw [h]
  exact List.rel_append hms hns

theorem AddUp.plus (hcs : AddUp cs m) (hds : AddUp ds n) : AddUp (cs ++ '+' :: ds) (m + n) :=
  hcs.of_tokens hds (tokens_append_plus cs ds)

theorem AddUp.minus (hcs : AddUp cs m) (hds : AddUp ('-' :: ds) n) :
    AddUp (cs ++ '-' :: ds) (m + n) := hcs.of_tokens hds (tokens_append_minus cs ds)

theorem addUp_nil : AddUp [] 0 := ⟨[], .nil, rfl⟩

theorem addUp_minus : AddUp ['-'] 0 :=
  ⟨[0], .cons ⟨rfl, Nat.zero_lt_of_lt Numeral.fits_one⟩ .nil, rfl⟩

theorem natAbs_signed (negative : Bool) (n : Nat) : (Numeral.signed negative n).natAbs = n := by
  cases negative
  · exact Int.natAbs_natCast n
  · exact (Int.natAbs_neg n).trans (Int.natAbs_natCast n)

theorem counts_digits {sign : List Char} {negative : Bool} (hsign : Signs sign negative)
    (hds : Digits ds) : Counts (sign ++ ds) (Numeral.signed negative (Numeral.value ds)) := by
  refine ⟨?_, (natAbs_signed _ _).symm ▸ hds.fits⟩
  rw [readToken, hds.numberForm? hsign]
  simp only [hds.readInteger]
  rfl

theorem addUp_digits (hds : Digits ds) : AddUp ds (Numeral.value ds) := by
  obtain ⟨c, cs, rfl, -⟩ := hds.eq_cons
  have hmem {d : Char} (hd : Text.isDigit d = false) : d ∉ c :: cs := fun h => by
    rw [hds.isDigit d h] at hd
    cases hd
  have htokens : tokens (c :: cs) = [c :: cs] := by
    rw [tokens, splitPlus_eq (hmem (by decide)), List.flatMap_singleton,
      splitMinus_eq c fun h => hmem (by decide) (List.mem_cons_of_mem c h)]
  refine ⟨[_], ?_, List.sum_singleton⟩
  rw [htokens]
  exact .cons (counts_digits .none hds) .nil

theorem addUp_negative (hds : Digits ds) : AddUp ('-' :: ds) (-Numeral.value ds) := by
  have hmem {d : Char} (hd : Text.isDigit d = false) : d ∉ ds := fun h => by
    rw [hds.isDigit d h] at hd
    cases hd
  have htokens : tokens ('-' :: ds) = ['-' :: ds] := by
    rw [tokens, splitPlus_eq (List.not_mem_cons_of_ne_of_not_mem (by decide) (hmem (by decide))),
      List.flatMap_singleton, splitMinus_eq '-' (hmem (by decide))]
  refine ⟨[_], ?_, List.sum_singleton⟩
  rw [htokens]
  exact .cons (counts_digits .minus hds) .nil

theorem Addend.digits_of_sound {a : Addend} (h : a.Sound) : Digits a.digits :=
  ⟨h.ne_nil, fun c hc => Text.isDigit_of_ascii (h.isDigit c hc), h.length_le⟩

theorem AddUp.sign (hcs : AddUp cs n) (s : Sign) : AddUp (cs ++ [s.char]) n := by
  rw [← Int.add_zero n]
  cases s with
  | plus => exact hcs.plus addUp_nil
  | minus => exact hcs.minus addUp_minus

theorem AddUp.digits (hcs : AddUp cs n) (s : Sign) (hds : Digits ds) :
    AddUp (cs ++ s.char :: ds) (n + s.apply (Numeral.value ds)) := by
  cases s with
  | plus => exact hcs.plus (addUp_digits hds)
  | minus => exact hcs.minus (addUp_negative hds)

theorem AddUp.addend {signs : List Sign} (hcs : AddUp cs n) (hne : signs ≠ []) (hds : Digits ds) :
    AddUp (cs ++ Addend.chars ⟨signs, ds⟩) (n + Addend.nearest ⟨signs, ds⟩) := by
  induction signs generalizing cs with
  | nil => exact absurd rfl hne
  | cons s signs ih =>
    cases signs with
    | nil => exact hcs.digits s hds
    | cons s' signs =>
      have hrest := ih (hcs.sign s) (List.cons_ne_nil s' signs)
      rwa [List.append_assoc] at hrest

theorem AddUp.addends {as : List Addend} (hcs : AddUp cs n) (hsound : ∀ a ∈ as, a.Sound)
    (hsigned : ∀ a ∈ as, a.signs ≠ []) :
    AddUp (cs ++ as.flatMap Addend.chars) (n + (as.map Addend.nearest).sum) := by
  induction as generalizing cs n with
  | nil => simpa using hcs
  | cons a as ih =>
    obtain ⟨ha, hsound⟩ := List.forall_mem_cons.mp hsound
    obtain ⟨hsigns, hsigned⟩ := List.forall_mem_cons.mp hsigned
    have hrest := ih (hcs.addend hsigns (Addend.digits_of_sound ha)) hsound hsigned
    rwa [List.append_assoc, Int.add_assoc] at hrest

/-- The tokens of a signed sum add up to its numbers, each with the sign next to it. -/
theorem addUp_of_isSignedSum {as : List Addend} (h : IsSignedSum cs as) :
    AddUp cs (as.map Addend.nearest).sum := by
  obtain ⟨a, as, rfl⟩ := List.exists_cons_of_ne_nil h.ne_nil
  obtain ⟨ha, hsound⟩ := List.forall_mem_cons.mp h.sound
  have hdigits := Addend.digits_of_sound ha
  have hfirst : AddUp a.chars a.nearest := by
    obtain ⟨signs, digits⟩ := a
    cases signs with
    | nil => exact addUp_digits hdigits
    | cons s signs =>
      have hrest := addUp_nil.addend (List.cons_ne_nil s signs) hdigits
      rwa [List.nil_append, Int.zero_add] at hrest
  rw [h.text]
  exact hfirst.addends hsound h.signed

def Origin.number (o : Origin) (n : Int) : Term := o.term (Numeral.text n) .number

theorem fragmentTerms_of_addUp (o : Origin) {fragment : String}
    (h : AddUp (Text.squeeze fragment) n) : ∃ ns : List Int,
      (∀ m ∈ ns, m ≠ 0 ∧ Numeral.Fits m.natAbs) ∧ ns.sum = n ∧
        fragmentTerms o fragment = .ok (ns.map o.number) := by
  obtain ⟨ns, hns, rfl⟩ := h
  have hfits : ∀ m ∈ ns, Numeral.Fits m.natAbs := by
    generalize tokens (Text.squeeze fragment) = ts at hns
    induction hns with
    | nil => exact nofun
    | cons hcounts _ ih => exact List.forall_mem_cons.mpr ⟨hcounts.fits, ih⟩
  have hread : fragmentTerms o fragment =
      .ok ((ns.map fun m => (numberTerm? m).map fun e => o.term e.1 e.2).filterMap id) := by
    rw [fragmentTerms, termsFrom, Result.mapM_of_forall₂ (hns.imp fun token m hcounts => ?_)]
    · rfl
    · rw [hcounts.read]
      cases numberTerm? m <;> rfl
  have hterms : (ns.map fun m => (numberTerm? m).map fun e => o.term e.1 e.2).filterMap id =
      (ns.filter (· != 0)).map o.number := by
    clear hns hfits hread
    induction ns with
    | nil => rfl
    | cons m ns ih =>
      by_cases hm : m = 0
      · subst hm
        exact ih
      · rw [List.filter_cons_of_pos (by simpa using hm), List.map_cons, List.map_cons, ← ih,
          numberTerm?, if_neg (by simpa using hm)]
        rfl
  refine ⟨ns.filter (· != 0), fun m hm => ?_, ?_, hread.trans (congrArg _ hterms)⟩
  · obtain ⟨hm, hzero⟩ := List.mem_filter.mp hm
    exact ⟨by simpa using hzero, hfits m hm⟩
  · clear hns hfits hread hterms
    induction ns with
    | nil => rfl
    | cons m ns ih =>
      by_cases hm : m = 0
      · subst hm
        exact ih.trans (Int.zero_add _).symm
      · rw [List.filter_cons_of_pos (by simpa using hm), List.sum_cons, List.sum_cons, ih]

end Pool
end Encounter
