import Encounter.Proofs.Dice.Parentheses

namespace Encounter.Dice

/-- A call of a selector in a text, with what stands before it and what follows its parenthesis. It
starts a word. Given is whether the text itself goes on a word. -/
structure IsCall (inWord : Bool) (cs before : List Char) (k : Keep) (after : List Char) : Prop where
  text : cs = before ++ (k.selector ++ '(' :: after)
  boundary : before.getLast?.elim inWord Text.isWordChar = false

/-- The parenthesis that was opened before a text is closed in it. -/
def Closes (after : List Char) : Prop :=
  ∃ inner rest, after = inner ++ ')' :: rest ∧ depth 0 inner = some 0

def CallFree (inWord : Bool) (cs : List Char) : Prop :=
  ∀ before k after, ¬ IsCall inWord cs before k after

/-- Some call in the text is never closed. -/
def Unclosed (inWord : Bool) (cs : List Char) : Prop :=
  ∃ before k after, IsCall inWord cs before k after ∧ ¬ Closes after

section Calls

variable {inWord : Bool} {c : Char} {cs before after : List Char} {k : Keep}

theorem ne_selector (hc : c ≠ 'm') (k : Keep) (after : List Char) :
    c :: cs ≠ k.selector ++ '(' :: after := by
  intro h
  cases k <;> exact hc (List.cons.inj h).1

theorem isCall_nil (h : IsCall inWord [] before k after) : False := by
  have htext := h.text
  cases before <;> cases k <;> cases htext

theorem elim_getLast?_cons (before : List Char) :
    (c :: before).getLast?.elim inWord Text.isWordChar =
      before.getLast?.elim (Text.isWordChar c) Text.isWordChar := by
  rw [List.getLast?_cons]
  cases before.getLast? <;> rfl

theorem isCall_cons_iff : IsCall inWord (c :: cs) before k after ↔
    (before = [] ∧ inWord = false ∧ c :: cs = k.selector ++ '(' :: after) ∨
      ∃ before', before = c :: before' ∧ IsCall (Text.isWordChar c) cs before' k after := by
  constructor
  · rintro ⟨htext, hboundary⟩
    cases before with
    | nil => exact .inl ⟨rfl, hboundary, htext⟩
    | cons d before' =>
      obtain ⟨rfl, hrest⟩ := List.cons.inj htext
      rw [elim_getLast?_cons] at hboundary
      exact .inr ⟨before', rfl, hrest, hboundary⟩
  · rintro (⟨rfl, hword, htext⟩ | ⟨before', rfl, htext, hboundary⟩)
    · exact ⟨htext, hword⟩
    · refine ⟨congrArg (c :: ·) htext, ?_⟩
      rwa [elim_getLast?_cons]

theorem callFree_nil (inWord : Bool) : CallFree inWord [] := fun _ _ _ h => isCall_nil h

theorem callFree_cons_iff : CallFree inWord (c :: cs) ↔
    (inWord = false → ∀ (k : Keep) after, c :: cs ≠ k.selector ++ '(' :: after) ∧
      CallFree (Text.isWordChar c) cs := by
  constructor
  · intro h
    exact ⟨fun hword k after htext => h [] k after (isCall_cons_iff.mpr (.inl ⟨rfl, hword, htext⟩)),
      fun before k after hcall => h _ k after (isCall_cons_iff.mpr (.inr ⟨before, rfl, hcall⟩))⟩
  · rintro ⟨hfront, hrest⟩ before k after hcall
    obtain ⟨-, hword, htext⟩ | ⟨before', -, hcall⟩ := isCall_cons_iff.mp hcall
    · exact hfront hword k after htext
    · exact hrest before' k after hcall

theorem CallFree.cons (hc : c ≠ 'm') (h : CallFree (Text.isWordChar c) cs) :
    CallFree inWord (c :: cs) := callFree_cons_iff.mpr ⟨fun _ => ne_selector hc, h⟩

theorem CallFree.inside (h : CallFree false cs) : CallFree true cs := by
  cases cs with
  | nil => exact callFree_nil true
  | cons c cs => exact callFree_cons_iff.mpr ⟨nofun, (callFree_cons_iff.mp h).2⟩

end Calls

theorem depth_eq_none_iff (n : Nat) (cs : List Char) : depth n cs = none ↔
    ∃ inner rest, cs = inner ++ ')' :: rest ∧ depth n inner = some 0 := by
  constructor
  · intro h
    induction cs generalizing n with
    | nil => cases h
    | cons c cs ih =>
      by_cases hopen : c = '('
      · subst hopen
        obtain ⟨inner, rest, rfl, hinner⟩ := ih (n + 1) h
        exact ⟨'(' :: inner, rest, rfl, hinner⟩
      · by_cases hclose : c = ')'
        · subst hclose
          cases n with
          | zero => exact ⟨[], cs, rfl, rfl⟩
          | succ n =>
            obtain ⟨inner, rest, rfl, hinner⟩ := ih n h
            exact ⟨')' :: inner, rest, rfl, hinner⟩
        · rw [depth_cons n hopen hclose] at h
          obtain ⟨inner, rest, rfl, hinner⟩ := ih n h
          exact ⟨c :: inner, rest, rfl, by rwa [depth_cons n hopen hclose]⟩
  · rintro ⟨inner, rest, rfl, hinner⟩
    induction inner generalizing n with
    | nil =>
      obtain rfl := Option.some.inj hinner
      rfl
    | cons c inner ih =>
      by_cases hopen : c = '('
      · subst hopen
        exact ih (n + 1) hinner
      · by_cases hclose : c = ')'
        · subst hclose
          cases n with
          | zero => cases hinner
          | succ n => exact ih n hinner
        · rw [depth_cons n hopen hclose] at hinner
          rw [List.cons_append, depth_cons n hopen hclose]
          exact ih n hinner

theorem closes_iff (after : List Char) : Closes after ↔ depth 0 after = none :=
  (depth_eq_none_iff 0 after).symm

theorem unclosed_nil (inWord : Bool) : ¬ Unclosed inWord [] :=
  fun ⟨_, _, _, hcall, _⟩ => isCall_nil hcall

theorem unclosed_cons_iff {inWord : Bool} {c : Char} {cs : List Char} :
    Unclosed inWord (c :: cs) ↔
      (inWord = false ∧ ∃ (k : Keep) (after : List Char), c :: cs = k.selector ++ '(' :: after ∧
        ¬ Closes after) ∨
        Unclosed (Text.isWordChar c) cs := by
  constructor
  · rintro ⟨before, k, after, hcall, hopen⟩
    obtain ⟨-, hword, htext⟩ | ⟨before', -, hcall⟩ := isCall_cons_iff.mp hcall
    · exact .inl ⟨hword, k, after, htext, hopen⟩
    · exact .inr ⟨before', k, after, hcall, hopen⟩
  · rintro (⟨hword, k, after, htext, hopen⟩ | ⟨before, k, after, hcall, hopen⟩)
    · exact ⟨[], k, after, isCall_cons_iff.mpr (.inl ⟨rfl, hword, htext⟩), hopen⟩
    · exact ⟨_, k, after, isCall_cons_iff.mpr (.inr ⟨before, rfl, hcall⟩), hopen⟩

theorem unclosed_cons {inWord : Bool} {c : Char} {cs : List Char}
    (hfront : inWord = false → ∀ (k : Keep) after, c :: cs ≠ k.selector ++ '(' :: after) :
    Unclosed inWord (c :: cs) ↔ Unclosed (Text.isWordChar c) cs := by
  rw [unclosed_cons_iff]
  refine or_iff_right ?_
  rintro ⟨hword, k, after, htext, -⟩
  exact hfront hword k after htext

theorem unclosed_call (k : Keep) (cs : List Char) :
    Unclosed false (k.selector ++ '(' :: cs) ↔ ¬ Closes cs ∨ Unclosed false cs := by
  have hfront : (∃ k' after, k.selector ++ '(' :: cs = Keep.selector k' ++ '(' :: after ∧
      ¬ Closes after) ↔ ¬ Closes cs := by
    constructor
    · rintro ⟨k', after, htext, hopen⟩
      cases k <;> cases k' <;> cases htext <;> exact hopen
    · exact fun hopen => ⟨k, cs, rfl, hopen⟩
  have hopen (inWord : Bool) : Unclosed inWord ('(' :: cs) ↔ Unclosed false cs :=
    unclosed_cons fun _ => ne_selector (by decide)
  cases k with
  | highest =>
    change Unclosed false ('m' :: 'a' :: 'x' :: '(' :: cs) ↔ _
    rw [unclosed_cons_iff, unclosed_cons fun _ => ne_selector (by decide),
      unclosed_cons fun _ => ne_selector (by decide), hopen, and_iff_right rfl]
    exact or_congr_left hfront
  | lowest =>
    change Unclosed false ('m' :: 'i' :: 'n' :: '(' :: cs) ↔ _
    rw [unclosed_cons_iff, unclosed_cons fun _ => ne_selector (by decide),
      unclosed_cons fun _ => ne_selector (by decide), hopen, and_iff_right rfl]
    exact or_congr_left hfront

/-- Some selector that is open around a text is not closed in it. -/
def Waits (stack : List (Option Keep)) (cs : List Char) : Prop :=
  ∃ i k, stack[i]? = some (some k) ∧ depth i cs ≠ none

section Waits

variable {stack : List (Option Keep)} {cs : List Char}

theorem waits_nil (stack : List (Option Keep)) :
    Waits stack [] ↔ stack.any Option.isSome = true := by
  rw [List.any_eq_true]
  constructor
  · rintro ⟨i, k, hk, -⟩
    exact ⟨some k, List.mem_of_getElem? hk, rfl⟩
  · rintro ⟨x, hx, hsome⟩
    obtain ⟨k, rfl⟩ := Option.isSome_iff_exists.mp hsome
    obtain ⟨i, hi⟩ := List.mem_iff_getElem?.mp hx
    exact ⟨i, k, hi, nofun⟩

theorem waits_cons {c : Char} (hopen : c ≠ '(') (hclose : c ≠ ')') :
    Waits stack (c :: cs) ↔ Waits stack cs := by
  simp only [Waits, depth_cons _ hopen hclose]

theorem waits_selector (k : Keep) : Waits stack (k.selector ++ cs) ↔ Waits stack cs := by
  cases k <;> exact (waits_cons (by decide) (by decide)).trans
    ((waits_cons (by decide) (by decide)).trans (waits_cons (by decide) (by decide)))

theorem waits_push (x : Option Keep) (stack : List (Option Keep)) (cs : List Char) :
    Waits (x :: stack) cs ↔ x.isSome = true ∧ ¬ Closes cs ∨ Waits stack ('(' :: cs) := by
  rw [closes_iff]
  constructor
  · rintro ⟨_ | i, k, hk, hdepth⟩
    · obtain rfl := Option.some.inj hk
      exact .inl ⟨rfl, hdepth⟩
    · exact .inr ⟨i, k, hk, hdepth⟩
  · rintro (⟨hsome, hdepth⟩ | ⟨i, k, hk, hdepth⟩)
    · obtain ⟨k, rfl⟩ := Option.isSome_iff_exists.mp hsome
      exact ⟨0, k, rfl, hdepth⟩
    · exact ⟨i + 1, k, hk, hdepth⟩

theorem waits_close : Waits stack (')' :: cs) ↔ Waits stack.tail cs := by
  cases stack with
  | nil => exact iff_of_false (fun ⟨_, _, hk, _⟩ => nomatch hk) fun ⟨_, _, hk, _⟩ => nomatch hk
  | cons x stack =>
    constructor
    · rintro ⟨_ | i, k, hk, hdepth⟩
      · exact absurd rfl hdepth
      · exact ⟨i, k, hk, hdepth⟩
    · rintro ⟨i, k, hk, hdepth⟩
      exact ⟨i + 1, k, hk, hdepth⟩

end Waits

theorem refused_call {k : Keep} {stack : List (Option Keep)} {cs : List Char}
    (h : Selector.regroup false (some k :: stack) cs = none ↔
      Waits (some k :: stack) cs ∨ Unclosed false cs) :
    Selector.regroup false stack (k.selector ++ '(' :: cs) = none ↔
      Waits stack (k.selector ++ '(' :: cs) ∨ Unclosed false (k.selector ++ '(' :: cs) := by
  rw [regroup_call, Option.map_eq_none_iff, h, waits_push, waits_selector, unclosed_call,
    Option.isSome_some, and_iff_right rfl, or_assoc, or_left_comm]

/-- A text is refused if a selector stays open, be it open before the text or a call in it. -/
theorem regroup_eq_none_iff (inWord : Bool) (stack : List (Option Keep)) (cs : List Char) :
    Selector.regroup inWord stack cs = none ↔ Waits stack cs ∨ Unclosed inWord cs := by
  induction inWord, stack, cs using Selector.regroup.induct with
  | case1 inWord stack hany =>
    rw [Selector.regroup, if_pos hany, waits_nil]
    exact iff_of_true rfl (.inl hany)
  | case2 inWord stack hany =>
    rw [Selector.regroup, if_neg hany, waits_nil]
    exact iff_of_false (Option.some_ne_none _) (not_or.mpr ⟨hany, unclosed_nil inWord⟩)
  | case3 stack rest ih => exact refused_call ih
  | case4 stack rest ih => exact refused_call ih
  | case5 inWord stack rest ih =>
    have hfront : Unclosed inWord ('(' :: rest) ↔ Unclosed false rest :=
      unclosed_cons fun _ => ne_selector (by decide)
    rw [waits_push, ← hfront] at ih
    rw [regroup_open, Option.map_eq_none_iff, ih]
    simp
  | case6 inWord k stack rest ih =>
    have hfront : Unclosed inWord (')' :: rest) ↔ Unclosed false rest :=
      unclosed_cons fun _ => ne_selector (by decide)
    rw [regroup_closeCall, Option.map_eq_none_iff, ih, waits_close, hfront, List.tail_cons]
  | case7 inWord stack c rest hmax hmin hopen hclose inner ih =>
    have hfront : inWord = false → ∀ (k : Keep) after, c :: rest ≠ k.selector ++ '(' :: after := by
      intro hword k after heq
      cases k with
      | highest =>
        cases heq
        exact hmax _ hword rfl rfl
      | lowest =>
        cases heq
        exact hmin _ hword rfl rfl
    rw [unclosed_cons hfront]
    have hwaits : Waits stack (c :: rest) ↔ Waits inner rest := by
      by_cases hc : c = ')'
      · subst hc
        exact waits_close
      · have hinner : inner = stack := if_neg (by simpa using hc)
        rw [hinner]
        exact waits_cons (fun h => hopen h) hc
    rw [hwaits, ← ih, Selector.regroup]
    · exact Option.map_eq_none_iff
    all_goals assumption

section Regroups

variable {inWord : Bool} {stack : List (Option Keep)} {cs out : List Char}

theorem Regroups.of_callFree (h : CallFree inWord cs) (hstack : ∀ k ∈ stack, k = none) :
    Regroups inWord stack cs cs := by
  induction cs generalizing inWord stack with
  | nil => exact .nil hstack
  | cons c cs ih =>
    obtain ⟨hfront, hrest⟩ := callFree_cons_iff.mp h
    by_cases hopen : c = '('
    · subst hopen
      exact .openGroup (ih hrest (by simpa using hstack))
    · by_cases hclose : c = ')'
      · subst hclose
        refine .closeGroup (fun k stack' heq => ?_) (ih hrest fun k hk =>
          hstack k (List.mem_of_mem_tail hk))
        cases hstack (some k) (heq ▸ List.mem_cons_self)
      · exact .char hfront hopen hclose (ih hrest hstack)

theorem Regroups.exists_of_char {d : Char} (h : Regroups inWord stack cs (d :: out))
    (hopen : d ≠ '(') (hclose : d ≠ ')') :
    ∃ cs', cs = d :: cs' ∧ Regroups (Text.isWordChar d) stack cs' out := by
  cases h with
  | call => exact absurd rfl hopen
  | openGroup => exact absurd rfl hopen
  | closeCall => exact absurd rfl hclose
  | closeGroup => exact absurd rfl hclose
  | char _ _ _ h => exact ⟨_, rfl, h⟩

theorem Regroups.exists_of_open (h : Regroups true stack cs ('(' :: out)) :
    ∃ cs', cs = '(' :: cs' := by
  cases h with
  | openGroup => exact ⟨_, rfl⟩
  | char _ hopen => exact absurd rfl hopen

theorem Regroups.exists_of_word {w : List Char} (hopen : '(' ∉ w) (hclose : ')' ∉ w)
    (h : Regroups inWord stack cs (w ++ out)) : ∃ cs', cs = w ++ cs' ∧
      Regroups (w.getLast?.elim inWord Text.isWordChar) stack cs' out := by
  induction w generalizing inWord cs with
  | nil => exact ⟨cs, rfl, h⟩
  | cons d w ih =>
    rw [List.mem_cons, not_or] at hopen hclose
    obtain ⟨cs, rfl, hrest⟩ := h.exists_of_char (Ne.symm hopen.1) (Ne.symm hclose.1)
    obtain ⟨cs', rfl, hrest⟩ := ih hopen.2 hclose.2 hrest
    refine ⟨cs', rfl, ?_⟩
    rwa [elim_getLast?_cons]

/-- What a call is made of is not changed, so a call that is left was there before. -/
theorem Regroups.exists_of_selector (k : Keep) {after : List Char}
    (h : Regroups inWord stack cs (k.selector ++ '(' :: after)) :
    ∃ after', cs = k.selector ++ '(' :: after' := by
  obtain ⟨cs', rfl, hrest⟩ :=
    h.exists_of_word (by cases k <;> decide) (by cases k <;> decide)
  have hword : k.selector.getLast?.elim inWord Text.isWordChar = true := by
    cases k <;> rfl
  rw [hword] at hrest
  obtain ⟨after', rfl⟩ := hrest.exists_of_open
  exact ⟨after', rfl⟩

theorem callFree_keep (k : Keep) (h : CallFree false out) :
    CallFree (Text.isWordChar ')') (k.text ++ out) := by
  cases k <;> exact .cons (by decide) (.cons (by decide) (.cons (by decide) h.inside))

/-- No call is left, also where a group and what follows it are joined. -/
theorem Regroups.callFree (h : Regroups inWord stack cs out) : CallFree inWord out := by
  induction h with
  | nil => exact callFree_nil _
  | call k _ ih => exact .cons (by decide) ih
  | openGroup _ ih => exact .cons (by decide) ih
  | closeCall _ ih => exact .cons (by decide) (callFree_keep _ ih)
  | closeGroup _ _ ih => exact .cons (by decide) ih
  | @char inWord stack c cs out hcall hopen hclose hrest ih =>
    refine callFree_cons_iff.mpr ⟨fun hword k after heq => ?_, ih⟩
    have hchar : Regroups inWord stack (c :: cs) (c :: out) := .char hcall hopen hclose hrest
    rw [heq] at hchar
    obtain ⟨after', htext⟩ := hchar.exists_of_selector
    exact hcall hword k after' htext

theorem Regroups.around (h : Regroups inWord stack cs out) (n : Nat) :
    Regroups inWord (stack ++ List.replicate n none) cs out := by
  induction h generalizing n with
  | nil hstack =>
    refine .nil fun k hk => ?_
    obtain hk | hk := List.mem_append.mp hk
    · exact hstack k hk
    · exact List.eq_of_mem_replicate hk
  | call k _ ih => exact .call k (ih n)
  | openGroup _ ih => exact .openGroup (ih n)
  | closeCall _ ih => exact .closeCall (ih n)
  | @closeGroup inWord stack cs out hstack _ ih =>
    cases stack with
    | nil =>
      cases n with
      | zero => exact .closeGroup nofun (ih 0)
      | succ n => exact .closeGroup nofun (ih n)
    | cons k stack =>
      exact .closeGroup (fun k' stack' heq => hstack k' stack (by rw [(List.cons.inj heq).1]))
        (ih n)
  | char hcall hopen hclose _ ih => exact .char hcall hopen hclose (ih n)

/-- A call does not start in a text without calls that ends in front of another call. -/
theorem ne_selector_append {c : Char} {k : Keep} {after : List Char}
    (h : CallFree false (c :: cs)) (k' : Keep) (after' : List Char) :
    c :: (cs ++ (k.selector ++ '(' :: after)) ≠ k'.selector ++ '(' :: after' := by
  intro heq
  have hfree := (callFree_cons_iff.mp h).1 rfl k'
  match cs with
  | [] => cases k <;> cases k' <;> cases heq
  | [_] => cases k <;> cases k' <;> cases heq
  | [_, _] => cases k <;> cases k' <;> cases heq
  | _ :: _ :: _ :: cs => cases k' <;> cases heq <;> exact hfree cs rfl

theorem Regroups.append_callFree {before : List Char} {k : Keep} {after : List Char}
    (hbefore : CallFree inWord before)
    (hboundary : before.getLast?.elim inWord Text.isWordChar = false)
    (h : ∀ n, Regroups false (List.replicate n none) (k.selector ++ '(' :: after) out) (n : Nat) :
    Regroups inWord (List.replicate n none) (before ++ (k.selector ++ '(' :: after))
      (before ++ out) := by
  induction before generalizing inWord n with
  | nil =>
    have hword : inWord = false := hboundary
    rw [hword]
    exact h n
  | cons c before ih =>
    rw [elim_getLast?_cons] at hboundary
    have hrest := ih (callFree_cons_iff.mp hbefore).2 hboundary
    by_cases hopen : c = '('
    · subst hopen
      exact .openGroup (hrest (n + 1))
    · by_cases hclose : c = ')'
      · subst hclose
        refine .closeGroup (fun k stack' heq => ?_) ?_
        · have hmem : some k ∈ List.replicate n none := heq ▸ List.mem_cons_self
          cases List.eq_of_mem_replicate hmem
        · rw [List.tail_replicate]
          exact hrest (n - 1)
      · refine .char (fun hword => ?_) hopen hclose (hrest n)
        subst hword
        exact ne_selector_append hbefore

/-- Between its parentheses the first call is translated as a text of its own, and so is what
follows it. -/
theorem Regroups.first_call {before inner rest inner' rest' : List Char} {k : Keep}
    (hcall : IsCall false cs before k (inner ++ ')' :: rest)) (hbefore : CallFree false before)
    (hdepth : depth 0 inner = some 0) (hinner : Regroups false [] inner inner')
    (hrest : Regroups false [] rest rest') :
    Regroups false [] cs (before ++ '(' :: (inner' ++ ')' :: (k.text ++ rest'))) := by
  rw [hcall.text]
  refine Regroups.append_callFree hbefore hcall.boundary (fun n => ?_) 0
  exact .call k (hinner.append hdepth (.inr rfl) fun _ => .closeCall (hrest.around n))

end Regroups

theorem exists_regroup_of_depth {inWord : Bool} {stack : List (Option Keep)} {cs : List Char}
    (h : depth stack.length cs = some 0) : ∃ out, Selector.regroup inWord stack cs = some out := by
  induction inWord, stack, cs using Selector.regroup.induct with
  | case1 inWord stack hany =>
    obtain rfl := List.length_eq_zero_iff.mp (Option.some.inj h)
    cases hany
  | case2 inWord stack hany => exact ⟨[], by rw [Selector.regroup, if_neg hany]⟩
  | case3 stack rest ih =>
    obtain ⟨out, hout⟩ := ih h
    exact ⟨'(' :: out, by rw [Selector.regroup, hout, Option.map_some]⟩
  | case4 stack rest ih =>
    obtain ⟨out, hout⟩ := ih h
    exact ⟨'(' :: out, by rw [Selector.regroup, hout, Option.map_some]⟩
  | case5 inWord stack rest ih =>
    obtain ⟨out, hout⟩ := ih h
    exact ⟨'(' :: out, by rw [regroup_open, hout, Option.map_some]⟩
  | case6 inWord k stack rest ih =>
    obtain ⟨out, hout⟩ := ih h
    exact ⟨_, by rw [regroup_closeCall, hout, Option.map_some]⟩
  | case7 inWord stack c rest hmax hmin hopen hclose inner ih =>
    have hinner : depth inner.length rest = some 0 := by
      by_cases hc : c = ')'
      · subst hc
        cases stack with
        | nil => cases h
        | cons k stack => exact h
      · have hkept : inner = stack := if_neg (by simpa using hc)
        rwa [hkept, ← depth_cons _ (fun h => hopen h) hc]
    obtain ⟨out, hout⟩ := ih hinner
    refine ⟨c :: out, ?_⟩
    rw [Selector.regroup]
    · exact congrArg (Option.map (c :: ·)) hout
    all_goals assumption

theorem exists_first_call {inWord : Bool} {cs : List Char} (h : ¬ CallFree inWord cs) :
    ∃ before k after, IsCall inWord cs before k after ∧ CallFree inWord before := by
  induction cs generalizing inWord with
  | nil => exact absurd (callFree_nil inWord) h
  | cons c cs ih =>
    by_cases hfront : inWord = false ∧ ∃ (k : Keep) (after : List Char),
        c :: cs = k.selector ++ '(' :: after
    · obtain ⟨hword, k, after, htext⟩ := hfront
      exact ⟨[], k, after, ⟨htext, hword⟩, callFree_nil inWord⟩
    · have hnone : inWord = false → ∀ (k : Keep) after, c :: cs ≠ k.selector ++ '(' :: after :=
        fun hword k after htext => hfront ⟨hword, k, after, htext⟩
      obtain ⟨before, k, after, hcall, hbefore⟩ :=
        ih fun hrest => h (callFree_cons_iff.mpr ⟨hnone, hrest⟩)
      refine ⟨c :: before, k, after, isCall_cons_iff.mpr (.inr ⟨before, rfl, hcall⟩),
        callFree_cons_iff.mpr ⟨fun hword k' after' htext => ?_, hbefore⟩⟩
      refine hnone hword k' (after' ++ (k.selector ++ '(' :: after)) ?_
      rw [hcall.text, ← List.cons_append, htext, List.append_assoc, List.cons_append]

theorem Unclosed.after_close {inWord : Bool} {rest : List Char} (h : Unclosed false rest)
    (before : List Char) : Unclosed inWord (before ++ ')' :: rest) := by
  induction before generalizing inWord with
  | nil => exact unclosed_cons_iff.mpr (.inr h)
  | cons c before ih => exact unclosed_cons_iff.mpr (.inr ih)

theorem regroup_eq_ok_iff {f g : String} :
    regroup f = .ok g ↔ Selector.regroup false [] f.toList = some g.toList := by
  unfold regroup regroupChars
  cases Selector.regroup false [] f.toList with
  | none => exact iff_of_false nofun nofun
  | some out =>
    constructor
    · intro h
      rw [← Except.ok.inj h, String.toList_ofList]
    · intro h
      rw [Option.some.inj h]
      exact congrArg Except.ok String.ofList_toList

theorem regroup_eq_error_iff {f : String} :
    regroup f = .error (unbalanced f) ↔ Selector.regroup false [] f.toList = none := by
  unfold regroup regroupChars
  cases Selector.regroup false [] f.toList with
  | none => exact iff_of_true rfl rfl
  | some out => exact iff_of_false nofun nofun

theorem waits_empty (cs : List Char) : ¬ Waits [] cs := fun ⟨_, _, hk, _⟩ => nomatch hk

/-- A formula with a call that is not closed is refused as a whole, also where the call stands
inside another one. Any other formula is translated: without calls it is left as it is, and
otherwise its first call becomes a group, where what stands inside it and what follows it are
translated in the same way. No call is left, so that the translation of the result is the result. -/
theorem regroup_translates (f : String) :
    (regroup f = .error (unbalanced f) ↔ Unclosed false f.toList) ∧
      (¬ Unclosed false f.toList →
        ∃ g, regroup f = .ok g ∧ CallFree false g.toList ∧ regroup g = .ok g) ∧
      (CallFree false f.toList → regroup f = .ok f) ∧
      (¬ CallFree false f.toList → ¬ Unclosed false f.toList →
        ∃ before k inner rest, IsCall false f.toList before k (inner ++ ')' :: rest) ∧
          CallFree false before ∧ depth 0 inner = some 0 ∧
          ∃ inner' rest', regroup (.ofList inner) = .ok inner' ∧
            regroup (.ofList rest) = .ok rest' ∧
            regroup f = .ok (.ofList
              (before ++ '(' :: (inner'.toList ++ ')' :: (k.text ++ rest'.toList))))) := by
  have hrefused (cs : List Char) : Selector.regroup false [] cs = none ↔ Unclosed false cs := by
    rw [regroup_eq_none_iff, or_iff_right (waits_empty cs)]
  have hclosed {cs : List Char} (h : ¬ Unclosed false cs) :
      ∃ out, Selector.regroup false [] cs = some out :=
    Option.ne_none_iff_exists'.mp fun hnone => h ((hrefused cs).mp hnone)
  have hfree (g : String) (h : CallFree false g.toList) : regroup g = .ok g :=
    regroup_eq_ok_iff.mpr (Regroups.of_callFree h (List.forall_mem_nil _)).regroup
  refine ⟨regroup_eq_error_iff.trans (hrefused f.toList), fun h => ?_, hfree f, fun hcalls h => ?_⟩
  · obtain ⟨out, hout⟩ := hclosed h
    have hno := (regroups_of_regroup false [] f.toList out hout).callFree
    rw [← String.toList_ofList (l := out)] at hout hno
    exact ⟨.ofList out, regroup_eq_ok_iff.mpr hout, hno, hfree _ hno⟩
  · obtain ⟨before, k, after, hcall, hbefore⟩ := exists_first_call hcalls
    obtain ⟨inner, rest, rfl, hdepth⟩ : Closes after :=
      Classical.byContradiction fun hopen => h ⟨before, k, after, hcall, hopen⟩
    have hafter : ¬ Unclosed false rest := by
      intro hrest
      refine h ?_
      rw [hcall.text, ← List.cons_append, ← List.append_assoc, ← List.append_assoc]
      exact hrest.after_close _
    obtain ⟨inner', hinner⟩ := @exists_regroup_of_depth false [] inner hdepth
    obtain ⟨rest', hrest⟩ := hclosed hafter
    have hfirst := Regroups.first_call hcall hbefore hdepth (regroups_of_regroup _ _ _ _ hinner)
      (regroups_of_regroup _ _ _ _ hrest)
    refine ⟨before, k, inner, rest, hcall, hbefore, hdepth, .ofList inner', .ofList rest', ?_⟩
    simp only [regroup_eq_ok_iff, String.toList_ofList]
    exact ⟨hinner, hrest, hfirst.regroup⟩

/-- A call inside another one is translated with it, and refused with it. -/
theorem regroup_translates_nested :
    (∃ g, regroup "max(1d20,min(2,3))+1" = .ok g ∧ CallFree false g.toList ∧ regroup g = .ok g) ∧
      regroup "max(1d20,min(2,3)+1" = .error (unbalanced "max(1d20,min(2,3)+1") := by
  refine ⟨(regroup_translates _).2.1 fun h => ?_, (regroup_translates _).1.mpr ?_⟩
  · exact absurd ((regroup_eq_none_iff false [] _).mpr (.inr h)) (by decide)
  · refine ⟨[], .highest, "1d20,min(2,3)+1".toList, ⟨by decide, rfl⟩, ?_⟩
    rw [closes_iff]
    decide

end Encounter.Dice
