import Encounter.Creature.Actor
import Encounter.Proofs.Text.Name
import Mathlib.Data.List.Basic

namespace Encounter.Text

structure Trimmed (cs : List Char) : Prop where
  head : ∀ c ∈ cs.head?, isBlank c = false
  last : ∀ c ∈ cs.getLast?, isBlank c = false

section Trimmed

variable {cs : List Char} {p : Char → Bool}

theorem Trimmed.reverse (h : Trimmed cs) : Trimmed cs.reverse :=
  ⟨by rw [List.head?_reverse]; exact h.last, by rw [List.getLast?_reverse]; exact h.head⟩

theorem dropWhile_eq_self_of_head (h : ∀ c ∈ cs.head?, p c = false) : cs.dropWhile p = cs := by
  cases cs with
  | nil => rfl
  | cons c cs => exact List.dropWhile_cons_of_neg (by simp [h c rfl])

theorem not_of_head?_dropWhile {c : Char} (h : c ∈ (cs.dropWhile p).head?) : p c = false := by
  have hhead := List.head?_dropWhile_not p cs
  rwa [Option.mem_def.mp h] at hhead

theorem mem_getLast?_of_dropWhile {c : Char} (h : c ∈ (cs.dropWhile p).getLast?) :
    c ∈ cs.getLast? := by
  obtain ⟨ds, hds⟩ := List.dropWhile_suffix (l := cs) p
  rw [← hds, List.getLast?_append, Option.mem_def.mp h]
  rfl

theorem trimmed_trimChars (cs : List Char) : Trimmed (trimChars isBlank cs) := by
  refine Trimmed.reverse ⟨fun c hc => not_of_head?_dropWhile hc, fun c hc => ?_⟩
  have hlast := mem_getLast?_of_dropWhile hc
  rw [List.getLast?_reverse] at hlast
  exact not_of_head?_dropWhile hlast

theorem Trimmed.trimChars_eq (h : Trimmed cs) : trimChars isBlank cs = cs := by
  rw [trimChars, dropWhile_eq_self_of_head h.head, dropWhile_eq_self_of_head h.reverse.head,
    List.reverse_reverse]

theorem mem_head?_of_filter (hcs : ∀ c ∈ cs.head?, p c = true) {c : Char}
    (h : c ∈ (cs.filter p).head?) : c ∈ cs.head? := by
  cases cs with
  | nil => cases h
  | cons d cs => rwa [List.filter_cons_of_pos (hcs d rfl)] at h

theorem Trimmed.filter (h : Trimmed cs) (hp : ∀ c, isBlank c = false → p c = true) :
    Trimmed (cs.filter p) := by
  have hhead : ∀ ds : List Char, Trimmed ds → ∀ c ∈ (ds.filter p).head?, isBlank c = false :=
    fun ds hds c hc => hds.head c (mem_head?_of_filter (fun d hd => hp d (hds.head d hd)) hc)
  refine ⟨hhead cs h, fun c hc => hhead cs.reverse h.reverse c ?_⟩
  rwa [List.filter_reverse, List.head?_reverse]

end Trimmed

structure IsLowered (c : Char) : Prop where
  not_sigma : c ≠ 'Σ'
  not_dotted : c ≠ 'İ'
  fixed : applyRuns lowerRuns c = c

def bitsOf {α : Type} (bits : α → Nat) (xs : List α) : Nat :=
  xs.foldr (fun x acc => bits x ||| acc) 0

theorem testBit_bitsOf {α : Type} {bits : α → Nat} {xs : List α} {x : α} (hx : x ∈ xs) {n : Nat}
    (h : (bits x).testBit n = true) : (bitsOf bits xs).testBit n = true := by
  induction xs with
  | nil => cases hx
  | cons y xs ih =>
    have hcons : bitsOf bits (y :: xs) = bits y ||| bitsOf bits xs := rfl
    rw [hcons, Nat.testBit_or]
    obtain rfl | hx := List.mem_cons.mp hx
    · rw [h, Bool.true_or]
    · rw [ih hx, Bool.or_true]

/-- The letters that are not lowered, as the bits of a number, so that a look-up is one step. The
dotted capital stands in no run. -/
def capitalBits : Nat :=
  1 <<< 'İ'.toNat ||| bitsOf (fun r => bitsOf (1 <<< ·) r.letters) lowerRuns

theorem testBit_capitalBits {r : CaseRun} (hr : r ∈ lowerRuns) {n : Nat} (hn : n ∈ r.letters) :
    capitalBits.testBit n = true := by
  have hletter : (bitsOf (1 <<< ·) r.letters).testBit n = true :=
    testBit_bitsOf hn (by simp)
  rw [capitalBits, Nat.testBit_or, testBit_bitsOf hr hletter, Bool.or_true]

theorem capitalBits_lowerRuns : (lowerRuns.all fun r => r.letters.all fun n =>
    !capitalBits.testBit (Char.ofNat (n + r.shift).toNat).toNat) = true := by decide +kernel

theorem capitalBits_special : (['ς', 'σ', 'i', '\u0307'].all fun d =>
    !capitalBits.testBit d.toNat) = true := by decide +kernel

theorem isLowered_of_testBit {c : Char} (h : capitalBits.testBit c.toNat = false) :
    IsLowered c := by
  have hnone : lowerRuns.findSome? (fun r => r.apply? c.toNat) = none := by
    refine List.findSome?_eq_none_iff.mpr fun r hr => ?_
    cases hm : r.apply? c.toNat with
    | none => rfl
    | some m =>
      rw [testBit_capitalBits hr (CaseRun.of_apply?_eq_some hm).1] at h
      cases h
  refine ⟨?_, ?_, by rw [applyRuns, hnone]; rfl⟩
  · rintro rfl
    exact absurd h (by decide +kernel)
  · rintro rfl
    exact absurd h (by decide +kernel)

theorem isLowered_applyRuns {c : Char} (hsigma : c ≠ 'Σ') (hdotted : c ≠ 'İ') :
    IsLowered (applyRuns lowerRuns c) := by
  unfold applyRuns
  cases h : lowerRuns.findSome? fun r => r.apply? c.toNat with
  | none => exact ⟨hsigma, hdotted, by rw [Option.elim_none, applyRuns, h]; rfl⟩
  | some m =>
    obtain ⟨r, hr, happly⟩ := List.exists_of_findSome?_eq_some h
    obtain ⟨hletter, rfl⟩ := CaseRun.of_apply?_eq_some happly
    have hclear := List.all_eq_true.mp (List.all_eq_true.mp capitalBits_lowerRuns r hr) _ hletter
    exact isLowered_of_testBit (by simpa using hclear)

theorem lowerBetween_cases (before : List Char) (c : Char) (after : List Char) :
    lowerBetween before c after = ['ς'] ∨ lowerBetween before c after = ['σ'] ∨
      lowerBetween before c after = ['i', '\u0307'] ∨
      c ≠ 'Σ' ∧ c ≠ 'İ' ∧ lowerBetween before c after = [applyRuns lowerRuns c] := by
  unfold lowerBetween
  split
  · split
    · exact .inl rfl
    · exact .inr (.inl rfl)
  · rename_i hsigma
    split
    · exact .inr (.inr (.inl rfl))
    · rename_i hdotted
      exact .inr (.inr (.inr ⟨by simpa using hsigma, by simpa using hdotted, rfl⟩))

theorem isLowered_of_mem_lowerFrom {cs before : List Char} {d : Char}
    (h : d ∈ lowerFrom before cs) : IsLowered d := by
  have hspecial : ∀ d ∈ ['ς', 'σ', 'i', '\u0307'], IsLowered d := fun d hd =>
    isLowered_of_testBit (by simpa using List.all_eq_true.mp capitalBits_special d hd)
  induction cs generalizing before with
  | nil => cases h
  | cons c cs ih =>
    obtain h | h := List.mem_append.mp h
    · obtain heq | heq | heq | ⟨hsigma, hdotted, heq⟩ := lowerBetween_cases before c cs
      all_goals rw [heq] at h
      · exact hspecial d (by simp_all)
      · exact hspecial d (by simp_all)
      · exact hspecial d (by simp_all)
      · exact List.mem_singleton.mp h ▸ isLowered_applyRuns hsigma hdotted
    · exact ih h

theorem lowerFrom_eq_self {cs : List Char} (h : ∀ c ∈ cs, IsLowered c) (before : List Char) :
    lowerFrom before cs = cs := by
  induction cs generalizing before with
  | nil => rfl
  | cons c cs ih =>
    obtain ⟨hc, hcs⟩ := List.forall_mem_cons.mp h
    have hlower : lowerBetween before c cs = [c] := by
      unfold lowerBetween
      rw [if_neg (by simpa using hc.not_sigma), if_neg (by simpa using hc.not_dotted), hc.fixed]
    rw [lowerFrom, hlower, ih hcs, List.singleton_append]

theorem lowerBetween_ne_nil (before : List Char) (c : Char) (after : List Char) :
    lowerBetween before c after ≠ [] := by
  obtain heq | heq | heq | ⟨-, -, heq⟩ := lowerBetween_cases before c after
  all_goals
    rw [heq]
    exact List.cons_ne_nil _ _

theorem not_blank_of_mem_lowerBetween {before after : List Char} {c d : Char}
    (hc : isBlank c = false) (hd : d ∈ lowerBetween before c after) : isBlank d = false := by
  obtain heq | heq | heq | ⟨-, -, heq⟩ := lowerBetween_cases before c after
  all_goals rw [heq] at hd
  · exact List.mem_singleton.mp hd ▸ by decide
  · exact List.mem_singleton.mp hd ▸ by decide
  · obtain rfl | hd := List.mem_cons.mp hd
    · decide
    · exact List.mem_singleton.mp hd ▸ by decide
  · exact List.mem_singleton.mp hd ▸ isBlank_applyRuns hc

theorem not_blank_of_getLast?_lowerFrom {cs : List Char}
    (h : ∀ c ∈ cs.getLast?, isBlank c = false) (before : List Char) :
    ∀ d ∈ (lowerFrom before cs).getLast?, isBlank d = false := by
  induction cs generalizing before with
  | nil => exact fun _ hd => nomatch hd
  | cons c cs ih =>
    intro d hd
    cases cs with
    | nil =>
      rw [lowerFrom, lowerFrom, List.append_nil] at hd
      exact not_blank_of_mem_lowerBetween (h c rfl) (List.mem_of_getLast? hd)
    | cons e cs =>
      have hne : lowerFrom (c :: before) (e :: cs) ≠ [] :=
        List.append_ne_nil_of_left_ne_nil (lowerBetween_ne_nil _ e cs) _
      rw [lowerFrom, List.getLast?_append_of_ne_nil _ hne] at hd
      exact ih h (c :: before) d hd

theorem Trimmed.lowerFrom {cs : List Char} (h : Trimmed cs) (before : List Char) :
    Trimmed (lowerFrom before cs) := by
  refine ⟨fun d hd => ?_, not_blank_of_getLast?_lowerFrom h.last before⟩
  cases cs with
  | nil => cases hd
  | cons c cs =>
    obtain ⟨e, es, heq⟩ := List.exists_cons_of_ne_nil (lowerBetween_ne_nil before c cs)
    rw [Text.lowerFrom, heq] at hd
    cases hd
    exact not_blank_of_mem_lowerBetween (h.head c rfl) (heq ▸ List.mem_cons_self)

/-- A text that is trimmed and in lower case. -/
structure IsNormal (cs : List Char) : Prop where
  trimmed : Trimmed cs
  lowered : ∀ c ∈ cs, IsLowered c

theorem isNormal_normalName (s : String) : IsNormal (normalName s).toList := by
  rw [normalName, lower, String.toList_ofList, trim, trimWhere, String.toList_ofList]
  exact ⟨(trimmed_trimChars _).lowerFrom [], fun _ hc => isLowered_of_mem_lowerFrom hc⟩

section IsNormal

variable {cs : List Char}

theorem IsNormal.lowerFrom_trimChars (h : IsNormal cs) :
    lowerFrom [] (trimChars isBlank cs) = cs := by
  rw [h.trimmed.trimChars_eq, lowerFrom_eq_self h.lowered]

theorem IsNormal.lower_eq {s : String} (h : IsNormal s.toList) : lower s = s := by
  rw [lower, lowerFrom_eq_self h.lowered, String.ofList_toList]

theorem IsNormal.normalName_eq {s : String} (h : IsNormal s.toList) : normalName s = s := by
  rw [normalName, lower, trim, trimWhere, String.toList_ofList, h.lowerFrom_trimChars,
    String.ofList_toList]

theorem IsNormal.filter (h : IsNormal cs) {p : Char → Bool}
    (hp : ∀ c, isBlank c = false → p c = true) : IsNormal (cs.filter p) :=
  ⟨h.trimmed.filter hp, fun c hc => h.lowered c (List.mem_of_mem_filter hc)⟩

end IsNormal

end Encounter.Text
