import Encounter.Proofs.Dice.Reread

namespace Encounter.Dice

open Token (Lexes Word)

def isParenthesis (c : Char) : Bool := c == '(' || c == ')'

def parentheses (cs : List Char) : List Char := cs.filter isParenthesis

/-- How many parentheses are open after a text, unless one is closed that was never opened. -/
def depth : Nat → List Char → Option Nat
  | n, [] => some n
  | n, '(' :: cs => depth (n + 1) cs
  | 0, ')' :: _ => none
  | n + 1, ')' :: cs => depth n cs
  | n, _ :: cs => depth n cs

theorem depth_cons (n : Nat) {c : Char} (hopen : c ≠ '(') (hclose : c ≠ ')') (cs : List Char) :
    depth n (c :: cs) = depth n cs := by
  cases n <;> rw [depth] <;> simp_all

theorem parentheses_cons {c : Char} (hopen : c ≠ '(') (hclose : c ≠ ')') (cs : List Char) :
    parentheses (c :: cs) = parentheses cs :=
  List.filter_cons_of_neg (by simp [isParenthesis, hopen, hclose])

theorem depth_parentheses (n : Nat) (cs : List Char) : depth n (parentheses cs) = depth n cs := by
  induction cs generalizing n with
  | nil => rfl
  | cons c cs ih =>
    by_cases hopen : c = '('
    · subst hopen
      exact ih (n + 1)
    · by_cases hclose : c = ')'
      · subst hclose
        cases n with
        | zero => rfl
        | succ n => exact ih n
      · rw [parentheses_cons hopen hclose, depth_cons n hopen hclose, ih]

def Token.parenthesis : Token → List Char
  | openGroup => ['(']
  | closeGroup => [')']
  | _ => []

def Token.parentheses (ts : List Token) : List Char := ts.flatMap Token.parenthesis

theorem Token.parentheses_consDigit (c : Char) (ts : List Token) :
    Token.parentheses (consDigit c ts) = Token.parentheses ts := by
  unfold consDigit
  split <;> rfl

/-- The machine has as many groups open as there are open parentheses. -/
theorem Reading.depth_run {r r' : Reading} {ts : List Token} (h : r.run ts = .ok r') :
    depth r.outer.length (Token.parentheses ts) = some r'.outer.length := by
  induction ts generalizing r with
  | nil =>
    cases h
    rfl
  | cons t ts ih =>
    obtain ⟨r₁, hstep, hrest⟩ := exists_of_run_cons h
    rw [← ih hrest, Token.parentheses, List.flatMap_cons, ← Token.parentheses]
    cases moves_of_step hstep with
    | stay hopen hclose =>
      cases t with
      | openGroup => exact absurd rfl hopen
      | closeGroup => exact absurd rfl hclose
      | _ => rfl
    | opened => rfl
    | parted => rfl
    | closed => rfl

def plainFrom : Bool → List Char → Bool
  | _, [] => true
  | false, c :: cs => plainFrom (c == '[') cs
  | true, c :: cs => !isParenthesis c && plainFrom (c != ']') cs

def Plain (formula : String) : Prop := plainFrom false formula.toList = true

instance (formula : String) : Decidable (Plain formula) :=
  inferInstanceAs (Decidable (plainFrom false formula.toList = true))

theorem plainFrom_filter {inside : Bool} {cs : List Char} (h : plainFrom inside cs = true) :
    plainFrom inside (cs.filter (· != ' ')) = true := by
  induction cs generalizing inside with
  | nil => exact h
  | cons c cs ih =>
    by_cases hc : c = ' '
    · subst hc
      cases inside with
      | false => exact ih h
      | true => exact ih h
    · rw [List.filter_cons_of_pos (by simpa using hc)]
      cases inside with
      | false => exact ih h
      | true =>
        obtain ⟨hc, h⟩ := Bool.and_eq_true_iff.mp h
        exact Bool.and_eq_true_iff.mpr ⟨hc, ih h⟩

theorem plainFrom_label {t cs : List Char} (hclose : ']' ∉ t)
    (h : plainFrom true (t ++ ']' :: cs) = true) :
    parentheses t = [] ∧ plainFrom false cs = true := by
  induction t with
  | nil => exact ⟨rfl, h⟩
  | cons c t ih =>
    rw [List.mem_cons, not_or] at hclose
    obtain ⟨hc, h⟩ := Bool.and_eq_true_iff.mp h
    have hne : (c != ']') = true := by simpa using Ne.symm hclose.1
    rw [hne] at h
    obtain ⟨ht, hcs⟩ := ih hclose.2 h
    refine ⟨?_, hcs⟩
    rw [parentheses, List.filter_cons_of_neg (by simpa using hc)]
    exact ht

theorem Token.Word.parentheses {w cs : List Char} {t : Token} (hw : Word w t)
    (hplain : plainFrom false (w ++ cs) = true) :
    Dice.parentheses w = t.parenthesis ∧ plainFrom false cs = true := by
  cases hw with
  | @label t hclose hbreak =>
    have hassoc : '[' :: (t ++ [']']) ++ cs = '[' :: (t ++ ']' :: cs) := by simp
    rw [hassoc] at hplain
    obtain ⟨ht, hcs⟩ := plainFrom_label hclose hplain
    refine ⟨?_, hcs⟩
    have happend : Dice.parentheses (t ++ [']']) = Dice.parentheses t := by
      rw [Dice.parentheses, List.filter_append]
      exact List.append_nil _
    exact happend.trans ht
  | gap hc =>
    simp only [Token.isGap, Bool.or_eq_true, beq_iff_eq] at hc
    obtain ((rfl | rfl) | rfl) | rfl := hc <;> exact ⟨rfl, hplain⟩
  | sign s => cases s <;> exact ⟨rfl, hplain⟩
  | keep k => cases k <;> exact ⟨rfl, hplain⟩
  | _ => exact ⟨rfl, hplain⟩

theorem Token.Lexes.parentheses {cs : List Char} {ts : List Token} (h : Lexes cs ts)
    (hplain : plainFrom false cs = true) : Dice.parentheses cs = Token.parentheses ts := by
  induction h with
  | nil => rfl
  | @word w cs t ts hw _ ih =>
    obtain ⟨hword, hcs⟩ := hw.parentheses hplain
    rw [Dice.parentheses, List.filter_append, ← Dice.parentheses, hword, ← Dice.parentheses, ih hcs]
    rfl
  | @digit c cs ts hc _ ih =>
    have hne : ∀ d : Char, d.isDigit = false → c ≠ d := by
      rintro d hd rfl
      exact absurd hc (Bool.not_eq_true _ ▸ hd)
    have hcs : plainFrom false cs = true := by
      have hbracket : (c == '[') = false := by simpa using hne '[' (by decide)
      rwa [plainFrom, hbracket] at hplain
    rw [parentheses_consDigit, ← ih hcs]
    exact parentheses_cons (hne '(' (by decide)) (hne ')' (by decide)) cs

/-- A text that is read closes each parenthesis that it opens. -/
theorem depth_of_read {cs : List Char} {e : Expr} (h : Expr.read cs = .ok e)
    (hplain : plainFrom false cs = true) : depth 0 cs = some 0 := by
  obtain ⟨phase, level, i, hrun, -, -⟩ := exists_run_of_read h
  have hlexes := Token.lexes_scan (Reading.stray_notMem hrun)
  rw [← depth_parentheses, hlexes.parentheses hplain]
  exact Reading.depth_run hrun

/-- How a text becomes another one when its selectors become groups. -/
inductive Regroups : Bool → List (Option Keep) → List Char → List Char → Prop
  | nil {inWord : Bool} {stack : List (Option Keep)} (h : ∀ k ∈ stack, k = none) :
      Regroups inWord stack [] []
  | call {stack : List (Option Keep)} {cs out : List Char} (k : Keep)
      (h : Regroups false (some k :: stack) cs out) :
      Regroups false stack (k.selector ++ '(' :: cs) ('(' :: out)
  | openGroup {inWord : Bool} {stack : List (Option Keep)} {cs out : List Char}
      (h : Regroups false (none :: stack) cs out) : Regroups inWord stack ('(' :: cs) ('(' :: out)
  | closeCall {inWord : Bool} {k : Keep} {stack : List (Option Keep)} {cs out : List Char}
      (h : Regroups false stack cs out) :
      Regroups inWord (some k :: stack) (')' :: cs) (')' :: (k.text ++ out))
  | closeGroup {inWord : Bool} {stack : List (Option Keep)} {cs out : List Char}
      (hstack : ∀ k stack', stack ≠ some k :: stack')
      (h : Regroups (Text.isWordChar ')') stack.tail cs out) :
      Regroups inWord stack (')' :: cs) (')' :: out)
  | char {inWord : Bool} {stack : List (Option Keep)} {c : Char} {cs out : List Char}
      (hcall : inWord = false → ∀ (k : Keep) cs', c :: cs ≠ k.selector ++ '(' :: cs')
      (hopen : c ≠ '(') (hclose : c ≠ ')') (h : Regroups (Text.isWordChar c) stack cs out) :
      Regroups inWord stack (c :: cs) (c :: out)

theorem regroups_of_regroup (inWord : Bool) (stack : List (Option Keep)) (cs : List Char) :
    ∀ out, Selector.regroup inWord stack cs = some out → Regroups inWord stack cs out := by
  induction inWord, stack, cs using Selector.regroup.induct with
  | case1 inWord stack hany =>
    intro out h
    rw [Selector.regroup, if_pos hany] at h
    cases h
  | case2 inWord stack hany =>
    intro out h
    rw [Selector.regroup, if_neg hany] at h
    cases h
    refine .nil fun k hk => ?_
    cases k with
    | none => rfl
    | some k => exact absurd (List.any_eq_true.mpr ⟨some k, hk, rfl⟩) hany
  | case3 stack rest ih =>
    intro out h
    rw [Selector.regroup] at h
    obtain ⟨out, hout, rfl⟩ := Option.map_eq_some_iff.mp h
    exact .call .highest (ih out hout)
  | case4 stack rest ih =>
    intro out h
    rw [Selector.regroup] at h
    obtain ⟨out, hout, rfl⟩ := Option.map_eq_some_iff.mp h
    exact .call .lowest (ih out hout)
  | case5 inWord stack rest ih =>
    intro out h
    rw [regroup_open] at h
    obtain ⟨out, hout, rfl⟩ := Option.map_eq_some_iff.mp h
    exact .openGroup (ih out hout)
  | case6 inWord k stack rest ih =>
    intro out h
    rw [Selector.regroup] at h
    obtain ⟨out, hout, rfl⟩ := Option.map_eq_some_iff.mp h
    exact .closeCall (ih out hout)
  | case7 inWord stack c rest hmax hmin hopen hclose inner ih =>
    intro out h
    rw [Selector.regroup] at h
    · obtain ⟨out, hout, rfl⟩ := Option.map_eq_some_iff.mp h
      have hrest := ih out hout
      by_cases hc : c = ')'
      · subst hc
        exact .closeGroup (fun k stack' h => hclose k stack' h rfl) hrest
      · have hinner : inner = stack := if_neg (by simpa using hc)
        rw [hinner] at hrest
        refine .char (fun hword k cs' heq => ?_) hopen hc hrest
        cases k with
        | highest =>
          cases heq
          exact hmax cs' hword rfl rfl
        | lowest =>
          cases heq
          exact hmin cs' hword rfl rfl
    all_goals assumption

theorem Regroups.regroup {inWord : Bool} {stack : List (Option Keep)} {cs out : List Char}
    (h : Regroups inWord stack cs out) : Selector.regroup inWord stack cs = some out := by
  induction h with
  | @nil inWord stack hstack =>
    have hany : ¬ stack.any Option.isSome = true := by
      intro hany
      obtain ⟨k, hk, hsome⟩ := List.any_eq_true.mp hany
      rw [hstack k hk] at hsome
      cases hsome
    cases inWord <;> exact if_neg hany
  | call k _ ih => rw [regroup_call, ih, Option.map_some]
  | openGroup _ ih => rw [regroup_open, ih, Option.map_some]
  | closeCall _ ih => rw [regroup_closeCall, ih, Option.map_some, List.cons_append]
  | @closeGroup inWord stack cs out hstack _ ih =>
    have hstep : Selector.regroup inWord stack (')' :: cs) =
        (Selector.regroup (Text.isWordChar ')') stack.tail cs).map (')' :: ·) := by
      cases stack with
      | nil => cases inWord <;> exact Selector.regroup.eq_def ..
      | cons k stack =>
        cases k with
        | none => exact regroup_close inWord stack cs
        | some k => exact absurd rfl (hstack k stack)
    rw [hstep, ih, Option.map_some]
  | @char inWord stack c cs out hcall hopen hclose _ ih =>
    rw [Selector.regroup, if_neg (by simpa using hclose), ih, Option.map_some]
    · exact hopen
    · rintro rest rfl rfl rfl
      exact hcall rfl .highest rest rfl
    · rintro rest rfl rfl rfl
      exact hcall rfl .lowest rest rfl
    · exact fun _ _ _ h => hclose h

namespace Regroups

variable {inWord inside : Bool} {stack : List (Option Keep)} {cs out : List Char}

theorem parentheses (h : Regroups inWord stack cs out) :
    Dice.parentheses out = Dice.parentheses cs := by
  induction h with
  | nil => rfl
  | call k _ ih => cases k <;> exact congrArg ('(' :: ·) ih
  | openGroup _ ih => exact congrArg ('(' :: ·) ih
  | @closeCall inWord k _ _ _ _ ih => cases k <;> exact congrArg (')' :: ·) ih
  | closeGroup _ _ ih => exact congrArg (')' :: ·) ih
  | char _ hopen hclose _ ih =>
    rw [parentheses_cons hopen hclose, parentheses_cons hopen hclose, ih]

theorem plainFrom (h : Regroups inWord stack cs out) (hplain : Dice.plainFrom inside cs = true) :
    Dice.plainFrom inside out = true := by
  induction h generalizing inside with
  | nil => exact hplain
  | call k _ ih =>
    cases inside with
    | false => cases k <;> exact @ih false hplain
    | true => cases k <;> cases hplain
  | openGroup _ ih =>
    cases inside with
    | false => exact @ih false hplain
    | true => cases hplain
  | @closeCall inWord k _ _ _ _ ih =>
    cases inside with
    | false => cases k <;> exact @ih false hplain
    | true => cases hplain
  | closeGroup _ _ ih =>
    cases inside with
    | false => exact @ih false hplain
    | true => cases hplain
  | char _ _ _ _ ih =>
    cases inside with
    | false => exact ih hplain
    | true =>
      obtain ⟨hc, hplain⟩ := Bool.and_eq_true_iff.mp hplain
      exact Bool.and_eq_true_iff.mpr ⟨hc, ih hplain⟩

theorem ne_call {cs rest : List Char} {d : Char} (hd : d = ',' ∨ d = ')')
    (hcall : ∀ (k : Keep) cs', cs ≠ k.selector ++ '(' :: cs') (k : Keep) (cs' : List Char) :
    cs ++ d :: rest ≠ k.selector ++ '(' :: cs' := by
  intro heq
  have heq : cs ++ d :: rest = (k.selector ++ ['(']) ++ cs' := by
    rw [heq, List.append_assoc, List.singleton_append]
  obtain ⟨as, hselector, hrest⟩ | ⟨as, hcs, -⟩ := List.append_eq_append_iff.mp heq
  · cases as with
    | nil => exact hcall k [] (by simpa using hselector.symm)
    | cons a as =>
      obtain ⟨rfl, -⟩ := List.cons.inj hrest
      have hmem : d ∈ k.selector ++ ['('] := hselector ▸ by simp
      obtain rfl | rfl := hd <;> cases k <;> exact absurd hmem (by decide)
  · exact hcall k as (by simpa using hcs)

theorem append (h : Regroups inWord stack cs out) (hdepth : depth stack.length cs = some 0)
    {outer : List (Option Keep)} {d : Char} {rest out' : List Char} (hd : d = ',' ∨ d = ')')
    (hrest : ∀ inWord, Regroups inWord outer (d :: rest) out') :
    Regroups inWord (stack ++ outer) (cs ++ d :: rest) (out ++ out') := by
  induction h with
  | @nil inWord stack _ =>
    obtain rfl := List.eq_nil_of_length_eq_zero (Option.some.inj hdepth)
    exact hrest inWord
  | @call stack cs out k _ ih =>
    have hopened : depth (stack.length + 1) cs = some 0 := by
      cases k <;> exact hdepth
    rw [List.append_assoc, List.cons_append]
    exact .call k (ih hopened)
  | openGroup _ ih => exact .openGroup (ih hdepth)
  | @closeCall inWord k stack cs out _ ih =>
    change Regroups inWord (some k :: (stack ++ outer)) (')' :: (cs ++ d :: rest))
      (')' :: (k.text ++ out ++ out'))
    rw [List.append_assoc]
    exact .closeCall (ih hdepth)
  | @closeGroup inWord stack cs out hstack _ ih =>
    cases stack with
    | nil => cases hdepth
    | cons k stack =>
      cases k with
      | some k => exact absurd rfl (hstack k stack)
      | none => exact .closeGroup nofun (ih hdepth)
  | char hcall hopen hclose _ ih =>
    rw [depth_cons _ hopen hclose] at hdepth
    exact .char (fun hword => ne_call hd (hcall hword)) hopen hclose (ih hdepth)

end Regroups
end Encounter.Dice
