import Encounter.Proofs.Pool.Part

namespace Encounter.Pool

open Dice (Expr Lot IsSum Rolls Bare)

namespace Part

/-- What joining more parts appends to a text. -/
def restChars (ps : List Part) : List Char := ps.flatMap fun p => p.sign.char :: p.itemChars

def sum : List Part → Expr
  | [] => .number 0
  | p :: ps => p.first.sumFrom sign item ps

theorem itemChars_ne_nil (p : Part) : p.itemChars ≠ [] :=
  List.append_ne_nil_of_left_ne_nil (Numeral.natChars_ne_nil _) _

theorem chars_ne_nil (p : Part) : p.chars ≠ [] := by
  by_cases h : p.net < 0
  · rw [chars_of_neg h]
    exact List.cons_ne_nil _ _
  · rw [chars_of_nonneg h]
    exact p.itemChars_ne_nil

theorem head?_itemChars (p : Part) : p.itemChars.head? ≠ some '-' := by
  obtain ⟨c, cs, hcs, hc⟩ := Numeral.natChars_eq_cons p.net.natAbs
  rw [itemChars, hcs]
  intro h
  obtain rfl := Option.some.inj h
  exact absurd hc (by decide)

theorem join_step {acc : List Char} (hacc : acc ≠ []) (p : Part) :
    (if acc.isEmpty then p.chars
      else if p.chars.head? == some '-' then acc ++ p.chars
      else acc ++ '+' :: p.chars) = acc ++ p.sign.char :: p.itemChars := by
  have hne : acc.isEmpty = false := by simpa using hacc
  rw [hne, if_neg Bool.false_ne_true]
  by_cases h : p.net < 0
  · rw [chars_of_neg h, sign, if_pos h]
    rfl
  · rw [chars_of_nonneg h, if_neg (by simpa using p.head?_itemChars), sign, if_neg h]
    rfl

theorem joinSigned_cons {cs : List Char} (hcs : cs ≠ []) (ps : List Part) :
    joinSigned (cs :: ps.map chars) = cs ++ restChars ps := by
  have hfold : ∀ (ps : List Part) (acc : List Char), acc ≠ [] →
      (ps.map chars).foldl (fun acc p =>
        if acc.isEmpty then p
        else if p.head? == some '-' then acc ++ p
        else acc ++ '+' :: p) acc = acc ++ restChars ps := by
    intro ps
    induction ps with
    | nil => exact fun acc _ => (List.append_nil acc).symm
    | cons q ps ih =>
      intro acc hacc
      rw [List.map_cons, List.foldl_cons, join_step hacc, ih _ (by simp), List.append_assoc]
      rfl
  rw [joinSigned, List.foldl_cons]
  exact hfold ps cs hcs

theorem joinSigned_chars (p : Part) (ps : List Part) :
    joinSigned ((p :: ps).map chars) = p.chars ++ restChars ps :=
  joinSigned_cons p.chars_ne_nil ps

variable {ps : List Part}

theorem isSum_joinSigned (hps : ∀ p ∈ ps, p.Canonical) (hne : ps ≠ []) :
    IsSum (joinSigned (ps.map chars)) (sum ps) := by
  obtain ⟨p, ps, rfl⟩ := List.exists_cons_of_ne_nil hne
  obtain ⟨hp, hps⟩ := List.forall_mem_cons.mp hps
  rw [joinSigned_chars]
  exact (isSum_first hp).sumFrom sign fun q hq => isItem (hps q hq)

theorem rolls_sum (damageType : String) (hps : ∀ p ∈ ps, p.Canonical) :
    Rolls .plus (sum ps) (ps.flatMap (lots damageType)) (ps.map constant).sum := by
  cases ps with
  | nil => exact Rolls.number .plus 0
  | cons p ps =>
    obtain ⟨hp, hps⟩ := List.forall_mem_cons.mp hps
    exact (rolls_first hp damageType).sumFrom fun q hq => rolls_item (hps q hq) damageType

theorem bare_sum (ps : List Part) : Bare (sum ps) := by
  cases ps with
  | nil => exact Bare.number 0
  | cons p ps => exact (bare_first p).sumFrom fun q _ => bare_item q

theorem joinSigned_ne_nil (hne : ps ≠ []) : joinSigned (ps.map chars) ≠ [] := by
  obtain ⟨p, ps, rfl⟩ := List.exists_cons_of_ne_nil hne
  rw [joinSigned_chars]
  exact List.append_ne_nil_of_left_ne_nil p.chars_ne_nil _

theorem joinSigned_ne_zero (hps : ∀ p ∈ ps, p.Canonical) : joinSigned (ps.map chars) ≠ ['0'] := by
  cases ps with
  | nil => exact fun h => nomatch h
  | cons p ps =>
    rw [joinSigned_chars]
    intro h
    obtain ⟨hp, -⟩ | ⟨hp, -⟩ := List.append_eq_singleton_iff.mp h
    · exact p.chars_ne_nil hp
    · have hcanonical := hps p List.mem_cons_self
      have hread := read_text hcanonical
      have hzero : Element.read (String.ofList ['0']) = .ok (.constant 0) := rfl
      rw [text, hp, hzero] at hread
      obtain ⟨n, _ | size⟩ := p
      · cases hread
        exact hcanonical.ne_zero rfl
      · cases hread

theorem ofList_joinSigned_ne (hps : ∀ p ∈ ps, p.Canonical) :
    String.ofList (joinSigned (ps.map chars)) ≠ emptyFormula := by
  intro h
  refine joinSigned_ne_zero hps ?_
  rw [← String.toList_ofList (l := joinSigned _), h]
  rfl

theorem mem_chars_of_mem_itemChars {p : Part} {c : Char} (h : c ∈ p.itemChars) : c ∈ p.chars := by
  by_cases hneg : p.net < 0
  · rw [chars_of_neg hneg]
    exact List.mem_cons_of_mem _ h
  · rwa [chars_of_nonneg hneg]

def SumChar (c : Char) : Prop := c.isDigit = true ∨ c = '-' ∨ c = 'd' ∨ c = '+'

instance (c : Char) : Decidable (SumChar c) :=
  inferInstanceAs (Decidable (c.isDigit = true ∨ c = '-' ∨ c = 'd' ∨ c = '+'))

theorem SumChar.isBlank {c : Char} (h : SumChar c) : Text.isBlank c = false := by
  obtain h | rfl | rfl | rfl := h
  · exact Text.isBlank_of_ascii h
  · decide
  · decide
  · decide

theorem SumChar.of_mem_chars {p : Part} {c : Char} (h : c ∈ p.chars) : SumChar c := by
  obtain hc | hc | hc := mem_chars h
  · exact .inl hc
  · exact .inr (.inl hc)
  · exact .inr (.inr (.inl hc))

theorem SumChar.of_mem_restChars {c : Char} (h : c ∈ restChars ps) : SumChar c := by
  obtain ⟨p, -, hp⟩ := List.mem_flatMap.mp h
  obtain hc | hc := List.mem_cons.mp hp
  · rw [hc, sign]
    split <;> decide
  · exact of_mem_chars (mem_chars_of_mem_itemChars hc)

theorem SumChar.of_mem_joinSigned {c : Char} (h : c ∈ joinSigned (ps.map chars)) : SumChar c := by
  cases ps with
  | nil => cases h
  | cons p ps =>
    rw [joinSigned_chars] at h
    obtain h | h := List.mem_append.mp h
    · exact of_mem_chars h
    · exact of_mem_restChars h

theorem filter_sumChars {cs : List Char} (h : ∀ c ∈ cs, SumChar c) :
    cs.filter (· != ' ') = cs := by
  refine List.filter_eq_self.mpr fun c hc => ?_
  simpa using fun heq : c = ' ' => absurd (heq ▸ h c hc) (by decide)

end Part
end Encounter.Pool
