import Encounter.Pool.Fragment
import Encounter.Proofs.Pool.Sum

namespace Encounter.Pool

theorem splitPlus_eq {cs : List Char} (h : '+' ∉ cs) : splitPlus cs = [cs] := by
  induction cs with
  | nil => rfl
  | cons c cs ih =>
    rw [List.mem_cons, not_or] at h
    rw [splitPlus, if_neg (by simpa using Ne.symm h.1), ih h.2]

theorem splitMinus_eq (c : Char) {cs : List Char} (h : '-' ∉ cs) :
    splitMinus (c :: cs) = [c :: cs] := by
  induction cs generalizing c with
  | nil => rfl
  | cons d cs ih =>
    rw [List.mem_cons, not_or] at h
    rw [splitMinus, ih d h.2]
    exact if_neg (by simpa using Ne.symm h.1)

/-- The last chunk of a text grows until the next plus. -/
theorem splitPlus_append (cs : List Char) {ds first : List Char} {rest : List (List Char)}
    (h : splitPlus ds = first :: rest) : ∃ chunks last, splitPlus cs = chunks ++ [last] ∧
      splitPlus (cs ++ ds) = chunks ++ (last ++ first) :: rest := by
  induction cs with
  | nil => exact ⟨[], [], rfl, h⟩
  | cons c cs ih =>
    obtain ⟨chunks, last, hcs, hall⟩ := ih
    rw [List.cons_append, splitPlus, splitPlus, hcs, hall]
    split
    · exact ⟨[] :: chunks, last, rfl, rfl⟩
    · cases chunks with
      | nil => exact ⟨[], c :: last, rfl, rfl⟩
      | cons chunk chunks => exact ⟨(c :: chunk) :: chunks, last, rfl, rfl⟩

theorem splitPlus_eq_cons (cs : List Char) : ∃ first rest, splitPlus cs = first :: rest := by
  obtain ⟨chunks, last, hcs, -⟩ := splitPlus_append cs (splitPlus_eq (List.not_mem_nil (a := '+')))
  cases chunks with
  | nil => exact ⟨last, [], hcs⟩
  | cons chunk chunks => exact ⟨chunk, chunks ++ [last], hcs⟩

theorem splitMinus_eq_cons (c : Char) (cs : List Char) :
    ∃ token tokens, splitMinus (c :: cs) = (c :: token) :: tokens := by
  rw [splitMinus]
  split
  · exact ⟨[], [], rfl⟩
  · split
    · exact ⟨[], _, rfl⟩
    · exact ⟨_, _, rfl⟩

theorem splitMinus_append_minus (cs ds : List Char) :
    splitMinus (cs ++ '-' :: ds) = splitMinus cs ++ splitMinus ('-' :: ds) := by
  induction cs with
  | nil => rfl
  | cons c cs ih =>
    rw [List.cons_append, splitMinus, ih]
    cases cs with
    | nil =>
      obtain ⟨token, tokens, htokens⟩ := splitMinus_eq_cons '-' ds
      rw [htokens]
      rfl
    | cons d cs =>
      obtain ⟨token, tokens, htokens⟩ := splitMinus_eq_cons d cs
      rw [htokens, splitMinus.eq_2 c, htokens, List.cons_append]
      dsimp only
      split <;> rfl

theorem tokens_append_plus (cs ds : List Char) :
    tokens (cs ++ '+' :: ds) = tokens cs ++ tokens ds := by
  have hplus : splitPlus ('+' :: ds) = [] :: splitPlus ds := rfl
  obtain ⟨chunks, last, hcs, hall⟩ := splitPlus_append cs hplus
  rw [List.append_nil, List.append_cons chunks, ← hcs] at hall
  rw [tokens, hall, List.flatMap_append, ← tokens, ← tokens]

theorem tokens_append_minus (cs ds : List Char) :
    tokens (cs ++ '-' :: ds) = tokens cs ++ tokens ('-' :: ds) := by
  obtain ⟨first, rest, hds⟩ := splitPlus_eq_cons ds
  have hminus : splitPlus ('-' :: ds) = ('-' :: first) :: rest := by
    rw [splitPlus, hds]
    rfl
  obtain ⟨chunks, last, hcs, hall⟩ := splitPlus_append cs hminus
  have hlast : tokens cs = chunks.flatMap splitMinus ++ splitMinus last := by
    rw [tokens, hcs, List.flatMap_append, List.flatMap_singleton]
  have hrest : tokens ('-' :: ds) = splitMinus ('-' :: first) ++ rest.flatMap splitMinus := by
    rw [tokens, hminus, List.flatMap_cons]
  rw [tokens, hall, List.flatMap_append, List.flatMap_cons, splitMinus_append_minus, hlast, hrest]
  simp only [List.append_assoc]

theorem minus_notMem_itemChars (p : Part) : '-' ∉ p.itemChars := by
  intro h
  obtain h | h := List.mem_append.mp h
  · exact absurd (Numeral.isDigit_of_mem_natChars h) (by decide)
  · obtain ⟨n, _ | size⟩ := p
    · cases h
    · obtain h | h := List.mem_cons.mp h
      · exact absurd h (by decide)
      · exact absurd (Numeral.isDigit_of_mem_natChars h) (by decide)

theorem tokens_chars (p : Part) : tokens p.chars = [p.chars] := by
  have hplus : '+' ∉ p.chars := by
    intro h
    obtain h | h | h := Part.mem_chars h <;> exact absurd h (by decide)
  have hminus : splitMinus p.chars = [p.chars] := by
    have hitem := minus_notMem_itemChars p
    by_cases hneg : p.net < 0
    · rw [Part.chars_of_neg hneg]
      exact splitMinus_eq '-' hitem
    · obtain ⟨c, cs, hcs, -⟩ := Numeral.natChars_eq_cons p.net.natAbs
      have hcons : p.itemChars = c :: (cs ++ p.sizeChars) := by
        rw [Part.itemChars, hcs, List.cons_append]
      rw [hcons, List.mem_cons, not_or] at hitem
      rw [Part.chars_of_nonneg hneg, hcons]
      exact splitMinus_eq c hitem.2
  rw [tokens, splitPlus_eq hplus, List.flatMap_singleton, hminus]

theorem tokens_append_part (cs : List Char) (p : Part) :
    tokens (cs ++ p.sign.char :: p.itemChars) = tokens cs ++ [p.chars] := by
  rw [← tokens_chars p]
  by_cases hneg : p.net < 0
  · rw [Part.sign, if_pos hneg, Part.chars_of_neg hneg]
    exact tokens_append_minus cs p.itemChars
  · rw [Part.sign, if_neg hneg, Part.chars_of_nonneg hneg]
    exact tokens_append_plus cs p.itemChars

theorem tokens_append_restChars (cs : List Char) (ps : List Part) :
    tokens (cs ++ Part.restChars ps) = tokens cs ++ ps.map Part.chars := by
  induction ps generalizing cs with
  | nil =>
    rw [Part.restChars, List.flatMap_nil, List.append_nil]
    exact (List.append_nil _).symm
  | cons p ps ih =>
    rw [Part.restChars, List.flatMap_cons, ← Part.restChars, ← List.append_assoc, ih,
      tokens_append_part, List.append_assoc]
    rfl

theorem tokens_joinSigned {ps : List Part} (hne : ps ≠ []) :
    tokens (joinSigned (ps.map Part.chars)) = ps.map Part.chars := by
  obtain ⟨p, ps, rfl⟩ := List.exists_cons_of_ne_nil hne
  rw [Part.joinSigned_chars, tokens_append_restChars, tokens_chars]
  rfl

theorem squeeze_joinSigned (ps : List Part) :
    Text.squeeze (String.ofList (joinSigned (ps.map Part.chars))) =
      joinSigned (ps.map Part.chars) := by
  rw [Text.squeeze, String.toList_ofList]
  refine List.filter_eq_self.mpr fun c hc => ?_
  rw [(Part.SumChar.of_mem_joinSigned hc).isBlank]
  rfl

end Encounter.Pool
