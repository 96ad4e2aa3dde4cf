import Encounter.Number.Numeral
import Encounter.Proofs.Text.Name
import Mathlib.Algebra.Group.Nat.Defs
import Mathlib.Data.List.Induction

namespace Encounter

namespace Text

theorem digitValue?_of_isDigit {c : Char} (h : c.isDigit = true) :
    digitValue? c = some (c.toNat - '0'.toNat) := by
  have hc : 48 ≤ c.toNat ∧ c.toNat ≤ 57 := by
    simpa [Char.isDigit, UInt32.le_iff_toNat_le] using h
  obtain ⟨others, hranges⟩ : ∃ others, digitRanges = (0x30, 0x39) :: others := ⟨_, rfl⟩
  rw [digitValue?, hranges, List.find?_cons_of_pos (by simpa using hc)]
  change some ((c.toNat - 48) % 10) = some (c.toNat - 48)
  congr 1
  omega

theorem isSpacing_of_ascii {c : Char} (h : c.isDigit = true) : isSpacing c = false := by
  have hc : 48 ≤ c.toNat ∧ c.toNat ≤ 57 := by
    simpa [Char.isDigit, UInt32.le_iff_toNat_le] using h
  simp only [isSpacing, Bool.or_eq_false_iff, Bool.and_eq_false_iff, decide_eq_false_iff_not,
    beq_eq_false_iff_ne]
  omega

theorem isBlank_of_ascii {c : Char} (h : c.isDigit = true) : isBlank c = false := by
  have hc : 48 ≤ c.toNat ∧ c.toNat ≤ 57 := by
    simpa [Char.isDigit, UInt32.le_iff_toNat_le] using h
  rw [isBlank, isSpacing_of_ascii h, Bool.false_or, Bool.and_eq_false_iff, decide_eq_false_iff_not,
    decide_eq_false_iff_not]
  omega

theorem isDigit_of_ascii {c : Char} (h : c.isDigit = true) : isDigit c = true := by
  rw [isDigit, digitValue?_of_isDigit h]
  rfl

theorem digitValue?_lt {c : Char} {n : Nat} (h : digitValue? c = some n) : n < 10 := by
  obtain ⟨r, -, rfl⟩ := Option.map_eq_some_iff.mp h
  exact Nat.mod_lt _ (by decide)

end Text

namespace Numeral

/-- The numbers that have a numeral within the limit. -/
def Fits (n : Nat) : Prop := n < Nat.pow 10 digitLimit

instance (n : Nat) : Decidable (Fits n) := inferInstanceAs (Decidable (n < Nat.pow 10 digitLimit))

theorem fits_iff (n : Nat) : Fits n ↔ n < 10 ^ digitLimit := by rw [Fits, Nat.pow_eq]

theorem fits_one : Fits 1 := (fits_iff 1).mpr (Nat.one_lt_pow (by decide) (by decide))

theorem fits_zero : Fits 0 := Nat.lt_of_le_of_lt (Nat.zero_le 1) fits_one

theorem isDigit_of_mem_natChars {n : Nat} {c : Char} (h : c ∈ natChars n) : c.isDigit = true :=
  Nat.isDigit_of_mem_toDigits (by decide) (by decide) h

theorem natChars_ne_nil (n : Nat) : natChars n ≠ [] := Nat.toDigits_ne_nil

theorem length_natChars {n : Nat} (h : Fits n) : (natChars n).length ≤ digitLimit :=
  (Nat.length_toDigits_le_iff (by decide) (by decide)).mpr ((fits_iff n).mp h)

theorem natChars_eq_cons (n : Nat) : ∃ c cs, natChars n = c :: cs ∧ c.isDigit = true := by
  cases h : natChars n with
  | nil => exact absurd h (natChars_ne_nil n)
  | cons c cs => exact ⟨c, cs, rfl, isDigit_of_mem_natChars (h ▸ List.mem_cons_self)⟩

theorem value_append (cs : List Char) (c : Char) :
    value (cs ++ [c]) = 10 * value cs + (Text.digitValue? c).getD 0 := by
  simp [value]

theorem value_lt (cs : List Char) : value cs < 10 ^ cs.length := by
  induction cs using List.reverseRecOn with
  | nil => decide
  | append_singleton cs c ih =>
    have hc : (Text.digitValue? c).getD 0 < 10 := by
      cases h : Text.digitValue? c with
      | none => decide
      | some n => exact Text.digitValue?_lt h
    rw [value_append, List.length_append, List.length_singleton, Nat.pow_succ]
    omega

theorem fits_of_readDigits {cs : List Char} {n : Nat} (h : readDigits cs = .ok n) : Fits n := by
  unfold readDigits at h
  split at h
  · rename_i hlen
    cases h
    have hpow := Nat.pow_le_pow_right (n := 10) (by decide) hlen
    exact (fits_iff _).mpr (Nat.lt_of_lt_of_le (value_lt cs) hpow)
  · cases h

theorem value_natChars (n : Nat) : value (natChars n) = n := by
  have hfold : ∀ (cs : List Char) (m : Nat), (∀ c ∈ cs, c.isDigit = true) →
      cs.foldl (fun n c => 10 * n + (Text.digitValue? c).getD 0) m = Nat.ofDigitChars 10 cs m := by
    intro cs
    induction cs with
    | nil => exact fun m _ => rfl
    | cons c cs ih =>
      intro m hcs
      rw [List.foldl_cons, Text.digitValue?_of_isDigit (hcs c List.mem_cons_self),
        Nat.ofDigitChars_cons]
      exact ih _ fun d hd => hcs d (List.mem_cons_of_mem c hd)
  rw [value, hfold _ 0 fun c hc => isDigit_of_mem_natChars hc]
  exact Nat.ofDigitChars_ten_toDigits

theorem readDigits_natChars {n : Nat} (h : Fits n) : readDigits (natChars n) = .ok n := by
  rw [readDigits, if_pos (length_natChars h), value_natChars]

theorem write_of_fits {n : Int} (h : Fits n.natAbs) : write n = .ok (text n) := if_pos h

theorem write_of_not_fits {n : Int} (h : ¬ Fits n.natAbs) : write n = .error .tooLargeToWrite :=
  if_neg h

theorem write_eq_ok {n : Int} {s : String} (h : write n = .ok s) : Fits n.natAbs ∧ s = text n := by
  by_cases hn : Fits n.natAbs
  · rw [write_of_fits hn] at h
    cases h
    exact ⟨hn, rfl⟩
  · rw [write_of_not_fits hn] at h
    cases h

theorem intChars_ofNat (n : Nat) : intChars n = natChars n := by
  rw [intChars, if_neg (by omega), Int.natAbs_natCast]

theorem intChars_of_neg {n : Int} (h : n < 0) : intChars n = '-' :: natChars n.natAbs := if_pos h

theorem intChars_of_nonneg {n : Int} (h : 0 ≤ n) : intChars n = natChars n.natAbs :=
  if_neg (by omega)

theorem splitSign_intChars (n : Int) (rest : List Char) :
    splitSign (intChars n ++ rest) =
      (decide (n < 0), natChars n.natAbs ++ rest) := by
  by_cases hn : n < 0
  · rw [intChars_of_neg hn, decide_eq_true hn]
    rfl
  · obtain ⟨c, cs, hcs, hc⟩ := natChars_eq_cons n.natAbs
    have hsign : isSign c = false := by
      rw [isSign, Bool.or_eq_false_iff, beq_eq_false_iff_ne, beq_eq_false_iff_ne]
      constructor <;> rintro rfl <;> exact absurd hc (by decide)
    rw [intChars_of_nonneg (by omega), hcs, List.cons_append, splitSign, hsign,
      decide_eq_false hn]
    rfl

theorem signed_natAbs (n : Int) : signed (decide (n < 0)) n.natAbs = n := by
  unfold signed
  split
  · rename_i h
    have := of_decide_eq_true h
    omega
  · rename_i h
    have : ¬ n < 0 := fun hn => h (decide_eq_true hn)
    omega

theorem digitRun?_of_digits {ds : List Char} (hne : ds ≠ [])
    (hds : ∀ c ∈ ds, c.isDigit = true) : digitRun? ds = some ds := by
  induction ds with
  | nil => exact absurd rfl hne
  | cons c ds ih =>
    have hc := Text.isDigit_of_ascii (hds c List.mem_cons_self)
    cases ds with
    | nil => rw [digitRun?, if_pos hc]
    | cons d ds =>
      have hd : d ≠ '_' := by
        rintro rfl
        exact absurd (hds '_' (by simp)) (by decide)
      rw [digitRun?, if_pos hc, ih (List.cons_ne_nil d ds) fun e he =>
        hds e (List.mem_cons_of_mem c he)]
      · rfl
      · exact fun rest h => hd (List.cons.inj h).1
      · exact fun h => nomatch h

theorem mem_intChars {n : Int} {c : Char} (h : c ∈ intChars n) : c.isDigit = true ∨ c = '-' := by
  by_cases hneg : n < 0
  · rw [intChars_of_neg hneg] at h
    obtain rfl | h := List.mem_cons.mp h
    · exact .inr rfl
    · exact .inl (isDigit_of_mem_natChars h)
  · rw [intChars_of_nonneg (by omega)] at h
    exact .inl (isDigit_of_mem_natChars h)

theorem read_text {n : Int} (h : Fits n.natAbs) : read (text n) = .ok n := by
  have hspacing : ∀ c ∈ intChars n, Text.isSpacing c = false := by
    intro c hc
    obtain hc | rfl := mem_intChars hc
    · exact Text.isSpacing_of_ascii hc
    · decide
  have htrim : Text.trimChars Text.isSpacing (intChars n) = intChars n := by
    rw [Text.trimChars, Text.dropWhile_eq_self hspacing, Text.dropWhile_eq_self fun c hc =>
      hspacing c (List.mem_reverse.mp hc), List.reverse_reverse]
  have hsplit := splitSign_intChars n []
  rw [List.append_nil, List.append_nil] at hsplit
  have hrun := digitRun?_of_digits (natChars_ne_nil n.natAbs) fun c hc => isDigit_of_mem_natChars hc
  rw [read, text, String.toList_ofList, htrim, hsplit]
  simp only [hrun, readDigits_natChars h]
  exact congrArg Except.ok (signed_natAbs n)

end Numeral
end Encounter
