import Encounter.Proofs.Pool.Merge

namespace Encounter.Pool

/-- A run of digits that is not too long to be read. -/
structure Digits (ds : List Char) : Prop where
  ne_nil : ds ≠ []
  isDigit : ∀ c ∈ ds, Text.isDigit c = true
  length_le : ds.length ≤ Numeral.digitLimit

inductive Signs : List Char → Bool → Prop
  | none : Signs [] false
  | plus : Signs ['+'] false
  | minus : Signs ['-'] true

/-- The ways to write a part. -/
inductive Spells : String → Part → Prop
  | number {sign ds : List Char} {negative : Bool} (hsign : Signs sign negative)
      (hds : Digits ds) :
      Spells (String.ofList (sign ++ ds)) ⟨Numeral.signed negative (Numeral.value ds), none⟩
  | dice {sign count size : List Char} {negative : Bool} {d : Char} (hsign : Signs sign negative)
      (hcount : Digits count) (hd : d = 'd' ∨ d = 'D') (hsize : Digits size) :
      Spells (String.ofList (sign ++ (count ++ d :: size)))
        ⟨Numeral.signed negative (Numeral.value count), some (Numeral.value size)⟩
  | die {sign size : List Char} {negative : Bool} {d : Char} (hsign : Signs sign negative)
      (hd : d = 'd' ∨ d = 'D') (hsize : Digits size) :
      Spells (String.ofList (sign ++ d :: size))
        ⟨Numeral.signed negative 1, some (Numeral.value size)⟩

namespace Digits

variable {ds : List Char}

theorem isRun (h : Digits ds) : isRun ds = true := by
  rw [Pool.isRun, Bool.and_eq_true]
  exact ⟨by simpa using h.ne_nil, List.all_eq_true.mpr h.isDigit⟩

theorem eq_cons (h : Digits ds) : ∃ c cs, ds = c :: cs ∧ Text.isDigit c = true := by
  obtain ⟨c, cs, rfl⟩ := List.exists_cons_of_ne_nil h.ne_nil
  exact ⟨c, cs, rfl, h.isDigit c List.mem_cons_self⟩

theorem withoutBreak_append (h : Digits ds) (cs : List Char) :
    withoutBreak (cs ++ ds) = cs ++ ds := by
  refine if_neg fun hlast => ?_
  have hlast : (cs ++ ds).getLast? = some '\n' := by simpa using hlast
  rw [List.getLast?_append_of_ne_nil cs h.ne_nil] at hlast
  exact absurd (h.isDigit '\n' (List.mem_of_getLast? hlast)) (by decide)

theorem readDigits (h : Digits ds) : Numeral.readDigits ds = .ok (Numeral.value ds) :=
  if_pos h.length_le

theorem readInteger (h : Digits ds) (negative : Bool) :
    readInteger negative ds = .ok (Numeral.signed negative (Numeral.value ds)) := by
  rw [Pool.readInteger, h.readDigits]
  rfl

theorem fits (h : Digits ds) : Numeral.Fits (Numeral.value ds) :=
  Numeral.fits_of_readDigits h.readDigits

end Digits

theorem isSign_of_isDigit {c : Char} (h : Text.isDigit c = true) : Numeral.isSign c = false := by
  rw [Numeral.isSign, Bool.or_eq_false_iff, beq_eq_false_iff_ne, beq_eq_false_iff_ne]
  constructor
  · rintro rfl
    exact absurd h (by decide)
  · rintro rfl
    exact absurd h (by decide)

theorem Signs.splitSign {sign : List Char} {negative : Bool} (h : Signs sign negative) {c : Char}
    (hc : Numeral.isSign c = false) (cs : List Char) :
    Numeral.splitSign (sign ++ c :: cs) = (negative, c :: cs) := by
  cases h with
  | none =>
    rw [List.nil_append, Numeral.splitSign, hc]
    rfl
  | plus => rfl
  | minus => rfl

theorem Digits.numberForm? {sign ds : List Char} {negative : Bool} (hds : Digits ds)
    (hsign : Signs sign negative) : numberForm? (sign ++ ds) = some (negative, ds) := by
  obtain ⟨c, cs, rfl, hc⟩ := hds.eq_cons
  rw [Pool.numberForm?, hds.withoutBreak_append, hsign.splitSign (isSign_of_isDigit hc)]
  exact if_pos hds.isRun

theorem isRun_eq_false {cs : List Char} {d : Char} (hmem : d ∈ cs) (hd : Text.isDigit d = false) :
    isRun cs = false := by
  rw [isRun, Bool.and_eq_false_iff]
  exact .inr (List.all_eq_false.mpr ⟨d, hmem, by simp [hd]⟩)

theorem forms_dice {sign count size : List Char} {negative : Bool} {d : Char}
    (hsign : Signs sign negative) (hcount : ∀ c ∈ count, Text.isDigit c = true)
    (hd : d = 'd' ∨ d = 'D') (hsize : Digits size) :
    numberForm? (sign ++ (count ++ d :: size)) = none ∧
      diceForm? (sign ++ (count ++ d :: size)) = some ⟨negative, count, size⟩ := by
  have hdie : isDie d = true := by
    obtain rfl | rfl := hd <;> rfl
  have hdigit : Text.isDigit d = false := by
    obtain rfl | rfl := hd <;> decide
  have hsplit : Numeral.splitSign (sign ++ (count ++ d :: size)) =
      (negative, count ++ d :: size) := by
    cases count with
    | nil =>
      refine hsign.splitSign ?_ size
      obtain rfl | rfl := hd <;> decide
    | cons c count =>
      exact hsign.splitSign (isSign_of_isDigit (hcount c List.mem_cons_self)) (count ++ d :: size)
  have hbreak : withoutBreak (sign ++ (count ++ d :: size)) = sign ++ (count ++ d :: size) := by
    have h := hsize.withoutBreak_append (sign ++ (count ++ [d]))
    simpa using h
  constructor
  · rw [numberForm?, hbreak, hsplit]
    simp only [isRun_eq_false (List.mem_append_right count List.mem_cons_self) hdigit]
    rfl
  · rw [diceForm?, hbreak, hsplit]
    simp only [List.dropWhile_append_of_pos hcount, List.takeWhile_append_of_pos hcount,
      List.dropWhile_cons_of_neg (Bool.not_eq_true _ ▸ hdigit),
      List.takeWhile_cons_of_neg (Bool.not_eq_true _ ▸ hdigit), List.append_nil, hdie, hsize.isRun]
    rfl

namespace Spells

variable {s : String} {p : Part}

theorem read (h : Spells s p) : Element.read s = .ok p.element := by
  cases h with
  | @number sign ds negative hsign hds =>
    rw [Element.read, String.toList_ofList, hds.numberForm? hsign]
    simp only [hds.readInteger]
    rfl
  | @dice sign count size negative d hsign hcount hd hsize =>
    obtain ⟨hnumber, hdice⟩ := forms_dice hsign hcount.isDigit hd hsize
    have hne : count.isEmpty = false := by simpa using hcount.ne_nil
    rw [Element.read, String.toList_ofList, hnumber, hdice]
    simp only [DiceForm.quantity, hne, DiceForm.faces, hcount.readInteger, hsize.readDigits]
    rfl
  | @die sign size negative d hsign hd hsize =>
    obtain ⟨hnumber, hdice⟩ := @forms_dice sign [] size negative d hsign
      (fun _ h => absurd h List.not_mem_nil) hd hsize
    rw [Element.read, String.toList_ofList]
    rw [List.nil_append] at hnumber hdice
    rw [hnumber, hdice]
    simp only [DiceForm.quantity, DiceForm.faces, hsize.readDigits]
    rfl

theorem size_fits (h : Spells s p) : ∀ size ∈ p.size, Numeral.Fits size := by
  intro size hmem
  cases h with
  | number => cases hmem
  | dice _ _ _ hsize =>
    cases hmem
    exact hsize.fits
  | die _ _ hsize =>
    cases hmem
    exact hsize.fits

theorem forall_size_fits {es : List String} {ps : List Part} (h : List.Forall₂ Spells es ps) :
    ∀ p ∈ ps, ∀ size ∈ p.size, Numeral.Fits size := by
  induction h with
  | nil => exact fun _ h => nomatch h
  | cons hs _ ih => exact List.forall_mem_cons.mpr ⟨hs.size_fits, ih⟩

end Spells
end Encounter.Pool
