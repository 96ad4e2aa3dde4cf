import Encounter.Text.Blank
import Encounter.Text.Case
import Mathlib.Data.List.TakeWhile

namespace Encounter.Text

section Trim

variable {p : Char → Bool} {cs : List Char}

theorem exists_mem_dropWhile (h : ∃ c ∈ cs, p c = false) : ∃ c ∈ cs.dropWhile p, p c = false := by
  have hne : cs.dropWhile p ≠ [] := by
    obtain ⟨c, hc, hp⟩ := h
    intro hnil
    rw [List.dropWhile_eq_nil_iff.mp hnil c hc] at hp
    cases hp
  exact ⟨_, List.head_mem hne, List.head_dropWhile_not p hne⟩

theorem exists_mem_trimChars (h : ∃ c ∈ cs, p c = false) : ∃ c ∈ trimChars p cs, p c = false := by
  obtain ⟨c, hc, hp⟩ := exists_mem_dropWhile h
  obtain ⟨d, hd, hp'⟩ := exists_mem_dropWhile ⟨c, List.mem_reverse.mpr hc, hp⟩
  exact ⟨d, List.mem_reverse.mpr hd, hp'⟩

theorem exists_mem_of_trimChars_ne_nil (h : trimChars p cs ≠ []) :
    ∃ c ∈ trimChars p cs, p c = false := by
  have hne : (cs.dropWhile p).reverse.dropWhile p ≠ [] := by
    intro hnil
    rw [trimChars, hnil] at h
    exact h rfl
  exact ⟨_, List.mem_reverse.mpr (List.head_mem hne), List.head_dropWhile_not p hne⟩

theorem dropWhile_eq_self (h : ∀ c ∈ cs, p c = false) : cs.dropWhile p = cs := by
  cases cs with
  | nil => rfl
  | cons c cs => exact List.dropWhile_cons_of_neg (by simp [h c List.mem_cons_self])

theorem trimChars_of_ends {c d : Char} (hc : p c = false) (hd : p d = false) (cs : List Char) :
    trimChars p (c :: (cs ++ [d])) = c :: (cs ++ [d]) := by
  have hrev : (c :: (cs ++ [d])).reverse = d :: (cs.reverse ++ [c]) := by simp
  rw [trimChars, List.dropWhile_cons_of_neg (by simp [hc]), hrev,
    List.dropWhile_cons_of_neg (by simp [hd]), ← hrev, List.reverse_reverse]

theorem trimChars_around {c d : Char} (hc : p c = true) (hd : p d = true)
    (hcs : ∀ e ∈ cs, p e = false) : trimChars p (c :: (cs ++ [d])) = cs := by
  cases cs with
  | nil => simp [trimChars, hc, hd]
  | cons e cs =>
    have hrev : (e :: cs ++ [d]).reverse = d :: (e :: cs).reverse := by simp
    have hlast : (e :: cs).reverse.dropWhile p = (e :: cs).reverse :=
      dropWhile_eq_self fun c hc => hcs c (List.mem_reverse.mp hc)
    rw [trimChars, List.dropWhile_cons_of_pos hc, List.cons_append,
      List.dropWhile_cons_of_neg (by simp [hcs e]), ← List.cons_append, hrev,
      List.dropWhile_cons_of_pos hd, hlast, List.reverse_reverse]

end Trim

def CaseRun.letters (r : CaseRun) : List Nat :=
  (List.range ((r.last - r.first) / r.step + 1)).map fun i => r.first + i * r.step

theorem CaseRun.of_apply?_eq_some {r : CaseRun} {n m : Nat} (h : r.apply? n = some m) :
    n ∈ r.letters ∧ m = (n + r.shift).toNat := by
  unfold CaseRun.apply? at h
  split at h
  · rename_i hin
    simp only [Bool.and_eq_true, decide_eq_true_eq, beq_iff_eq] at hin
    refine ⟨List.mem_map.mpr ⟨(n - r.first) / r.step, List.mem_range.mpr ?_, ?_⟩,
      (Option.some.inj h).symm⟩
    · exact Nat.lt_succ_of_le (Nat.div_le_div_right (Nat.sub_le_sub_right hin.1.2 _))
    · rw [Nat.div_mul_cancel (Nat.dvd_of_mod_eq_zero hin.2), Nat.add_sub_cancel' hin.1.1]
  · cases h

theorem not_blank_lowerRuns : (lowerRuns.all fun r => r.letters.all fun n =>
    !isBlank (Char.ofNat (n + r.shift).toNat)) = true := by decide +kernel

theorem isBlank_applyRuns {c : Char} (hc : isBlank c = false) :
    isBlank (applyRuns lowerRuns c) = false := by
  unfold applyRuns
  cases h : lowerRuns.findSome? fun r => r.apply? c.toNat with
  | none => exact hc
  | some n =>
    obtain ⟨r, hr, happly⟩ := List.exists_of_findSome?_eq_some h
    obtain ⟨hletter, rfl⟩ := CaseRun.of_apply?_eq_some happly
    have hform := List.all_eq_true.mp (List.all_eq_true.mp not_blank_lowerRuns r hr) _ hletter
    simpa using hform

theorem isBlank_lowerBetween {c : Char} (hc : isBlank c = false) (before after : List Char) :
    ∃ d ∈ lowerBetween before c after, isBlank d = false := by
  unfold lowerBetween
  split
  · split
    · exact ⟨_, List.mem_singleton_self _, by decide⟩
    · exact ⟨_, List.mem_singleton_self _, by decide⟩
  · split
    · exact ⟨_, List.mem_cons_self, by decide⟩
    · exact ⟨_, List.mem_singleton_self _, isBlank_applyRuns hc⟩

theorem exists_mem_lowerFrom {cs : List Char} (h : ∃ c ∈ cs, isBlank c = false)
    (before : List Char) : ∃ c ∈ lowerFrom before cs, isBlank c = false := by
  induction cs generalizing before with
  | nil =>
    obtain ⟨c, hc, -⟩ := h
    cases hc
  | cons d cs ih =>
    obtain ⟨c, hc, hblank⟩ := h
    obtain rfl | hc := List.mem_cons.mp hc
    · obtain ⟨e, he, hb⟩ := isBlank_lowerBetween hblank before cs
      exact ⟨e, List.mem_append_left _ he, hb⟩
    · obtain ⟨e, he, hb⟩ := ih ⟨c, hc, hblank⟩ (d :: before)
      exact ⟨e, List.mem_append_right _ he, hb⟩

end Encounter.Text
