import Encounter.Dice.Token
import Encounter.Proofs.Number.Numeral

namespace Encounter.Dice.Token

/-- A text that goes on no number. -/
def Ends (rest : List Char) : Prop := ∀ c ∈ rest.head?, c.isDigit = false

theorem ends_nil : Ends [] := fun _ h => nomatch h

theorem ends_cons {c : Char} (hc : c.isDigit = false) (rest : List Char) : Ends (c :: rest) := by
  intro d hd
  cases hd
  exact hc

theorem Ends.append {cs : List Char} (hcs : Ends cs) (hne : cs ≠ []) (rest : List Char) :
    Ends (cs ++ rest) := by
  cases cs with
  | nil => exact absurd rfl hne
  | cons c cs => exact ends_cons (hcs c rfl) _

theorem scan_nil : scan none [] = [] := rfl

theorem scan_digit {c : Char} (hc : c.isDigit = true) (rest : List Char) :
    scan none (c :: rest) = consDigit c (scan none rest) := by
  have hgap : isGap c = false := by
    by_contra h
    simp only [isGap, Bool.not_eq_false, Bool.or_eq_true, beq_iff_eq] at h
    rcases h with ((rfl | rfl) | rfl) | rfl <;> exact absurd hc (by decide)
  rw [scan, hgap, if_neg Bool.false_ne_true, if_pos hc]
  all_goals
    intros
    subst_vars
    exact absurd hc (by decide)

theorem scan_some_close (acc rest : List Char) : scan (some acc) (']' :: rest) =
    .label ('[' :: (']' :: acc).reverse) :: scan none rest := rfl

theorem scan_some_break (acc rest : List Char) : scan (some acc) ('\n' :: rest) = [.stray] := rfl

theorem scan_some_cons {c : Char} (hclose : c ≠ ']') (hbreak : c ≠ '\n') (acc rest : List Char) :
    scan (some acc) (c :: rest) = scan (some (c :: acc)) rest := by
  rw [scan]
  · exact hclose
  · exact hbreak

theorem scan_some_head (acc cs ds : List Char) (ts : List Token) :
    scan (some acc) cs ≠ .number ds :: ts := by
  induction cs generalizing acc with
  | nil => exact fun h => nomatch h
  | cons c cs ih =>
    by_cases hclose : c = ']'
    · subst hclose
      exact fun h => nomatch (scan_some_close acc cs).symm.trans h
    · by_cases hbreak : c = '\n'
      · subst hbreak
        exact fun h => nomatch (scan_some_break acc cs).symm.trans h
      · rw [scan_some_cons hclose hbreak]
        exact ih _

theorem scan_head_of_ends {rest : List Char} (h : Ends rest) (ds : List Char) (ts : List Token) :
    scan none rest ≠ .number ds :: ts := by
  intro heq
  unfold scan at heq
  split at heq <;> try cases heq
  · exact scan_some_head _ _ _ _ heq
  · exact scan_some_head _ _ _ _ heq
  · split at heq
    · cases heq
    · rw [h _ rfl, if_neg Bool.false_ne_true] at heq
      cases heq

theorem consDigit_of_head {c : Char} {ts : List Token} (h : ∀ ds us, ts ≠ .number ds :: us) :
    consDigit c ts = .number [c] :: ts := by
  unfold consDigit
  split
  · exact absurd rfl (h _ _)
  · rfl

theorem scan_some {t : List Char} (hclose : ']' ∉ t) (hbreak : '\n' ∉ t) (acc rest : List Char) :
    scan (some acc) (t ++ ']' :: rest) =
      .label ('[' :: (acc.reverse ++ t ++ [']'])) :: scan none rest := by
  induction t generalizing acc with
  | nil => simp [scan_some_close]
  | cons c t ih =>
    rw [List.mem_cons, not_or] at hclose hbreak
    rw [List.cons_append, scan_some_cons (Ne.symm hclose.1) (Ne.symm hbreak.1),
      ih hclose.2 hbreak.2, List.reverse_cons]
    simp

/-- A piece of a text with its tokens. -/
def Scans (cs : List Char) (ts : List Token) : Prop :=
  ∀ rest, Ends rest → scan none (cs ++ rest) = ts ++ scan none rest

namespace Scans

variable {cs ds : List Char} {ts us : List Token}

theorem eq (h : Scans cs ts) : scan none cs = ts := by
  have := h [] ends_nil
  rwa [List.append_nil, scan_nil, List.append_nil] at this

theorem append (hcs : Scans cs ts) (hds : Scans ds us) (hends : Ends ds) (hne : ds ≠ []) :
    Scans (cs ++ ds) (ts ++ us) := by
  intro rest hrest
  rw [List.append_assoc, hcs _ (hends.append hne rest), hds rest hrest, List.append_assoc]

theorem word {w : List Char} {t : Token} (h : Scans cs ts)
    (hw : ∀ rest, scan none (w ++ rest) = t :: scan none rest) : Scans (w ++ cs) (t :: ts) := by
  intro rest hrest
  rw [List.append_assoc, hw, h rest hrest, List.cons_append]

theorem number (hne : ds ≠ []) (hds : ∀ c ∈ ds, c.isDigit = true) : Scans ds [.number ds] := by
  intro rest hrest
  induction ds with
  | nil => exact absurd rfl hne
  | cons c ds ih =>
    rw [List.cons_append, scan_digit (hds c List.mem_cons_self)]
    cases ds with
    | nil => exact consDigit_of_head (scan_head_of_ends hrest)
    | cons d ds =>
      rw [ih (List.cons_ne_nil d ds) fun e he => hds e (List.mem_cons_of_mem c he)]
      rfl

theorem natChars (n : Nat) : Scans (Numeral.natChars n) [.number (Numeral.natChars n)] :=
  number (Numeral.natChars_ne_nil n) fun _ hc => Numeral.isDigit_of_mem_natChars hc

theorem label {t : List Char} (hclose : ']' ∉ t) (hbreak : '\n' ∉ t) :
    Scans ('[' :: (t ++ [']'])) [.label ('[' :: (t ++ [']']))] := by
  intro rest _
  rw [List.cons_append, List.append_assoc]
  exact scan_some hclose hbreak [] rest

theorem sign (s : Sign) (h : Scans cs ts) : Scans (s.char :: cs) (.sign s :: ts) :=
  h.word (w := [s.char]) fun rest => by cases s <;> rfl

theorem die (h : Scans cs ts) : Scans ('d' :: cs) (.die :: ts) := h.word (w := ['d']) fun _ => rfl

theorem openGroup (h : Scans cs ts) : Scans ('(' :: cs) (.openGroup :: ts) :=
  h.word (w := ['(']) fun _ => rfl

theorem closeGroup : Scans [')'] [.closeGroup] := fun _ _ => rfl

end Scans
end Encounter.Dice.Token
