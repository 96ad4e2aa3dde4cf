import Encounter.Proofs.Dice.Twice

namespace Encounter.Dice

namespace Token

inductive Word : List Char → Token → Prop
  | sign (s : Sign) : Word [s.char] (.sign s)
  | openGroup : Word ['('] .openGroup
  | closeGroup : Word [')'] .closeGroup
  | comma : Word [','] .comma
  | die : Word ['d'] .die
  | keep (k : Keep) : Word k.text (.keep k)
  | gap {c : Char} (hc : isGap c = true) : Word [c] .gap
  | label {t : List Char} (hclose : ']' ∉ t) (hbreak : '\n' ∉ t) :
      Word ('[' :: (t ++ [']'])) (.label ('[' :: (t ++ [']'])))

/-- Texts that are made of words and digits. -/
inductive Lexes : List Char → List Token → Prop
  | nil : Lexes [] []
  | word {w cs : List Char} {t : Token} {ts : List Token} (hw : Word w t) (h : Lexes cs ts) :
      Lexes (w ++ cs) (t :: ts)
  | digit {c : Char} {cs : List Char} {ts : List Token} (hc : c.isDigit = true)
      (h : Lexes cs ts) : Lexes (c :: cs) (consDigit c ts)

theorem stray_mem_consDigit {c : Char} {ts : List Token} (h : stray ∈ ts) :
    stray ∈ consDigit c ts := by
  unfold consDigit
  split
  · obtain h | h := List.mem_cons.mp h
    · cases h
    · exact List.mem_cons_of_mem _ h
  · exact List.mem_cons_of_mem _ h

theorem scan_gap {c : Char} (hc : isGap c = true) (rest : List Char) :
    scan none (c :: rest) = gap :: scan none rest := by
  rw [scan, hc, if_pos rfl]
  all_goals
    intros
    subst_vars
    exact absurd hc (by decide)

theorem Word.scan {w : List Char} {t : Token} (hw : Word w t) (rest : List Char) :
    scan none (w ++ rest) = t :: scan none rest := by
  cases hw with
  | sign s => cases s <;> rfl
  | openGroup => rfl
  | closeGroup => rfl
  | comma => rfl
  | die => rfl
  | keep k => cases k <;> rfl
  | gap hc => exact scan_gap hc rest
  | @label t hclose hbreak =>
    rw [List.cons_append, List.append_assoc, Token.scan]
    exact scan_some hclose hbreak [] rest

theorem Word.lexes {w : List Char} {t : Token} (hw : Word w t) {rest : List Char}
    (hrest : stray ∉ Token.scan none rest → Lexes rest (Token.scan none rest))
    (h : stray ∉ Token.scan none (w ++ rest)) :
    Lexes (w ++ rest) (Token.scan none (w ++ rest)) := by
  rw [hw.scan, List.mem_cons, not_or] at h
  rw [hw.scan]
  exact .word hw (hrest h.2)

/-- A text without a stray character is made of words and digits. -/
theorem lexes_scan {cs : List Char} (h : stray ∉ scan none cs) : Lexes cs (scan none cs) := by
  -- inside an annotation the word has to be completed before the rest of the text
  have hall : ∀ (st : Option (List Char)) (cs : List Char), stray ∉ scan st cs →
      match st with
      | none => Lexes cs (scan none cs)
      | some _ => ∃ t rest, cs = t ++ ']' :: rest ∧ ']' ∉ t ∧ '\n' ∉ t ∧
          (stray ∉ scan none rest → Lexes rest (scan none rest)) := by
    intro st cs
    induction st, cs using scan.induct with
    | case1 acc => exact fun h => absurd (List.mem_singleton_self _) h
    | case2 acc rest ih => exact fun _ => ⟨[], rest, rfl, List.not_mem_nil, List.not_mem_nil, ih⟩
    | case3 acc rest => exact fun h => absurd (List.mem_singleton_self _) h
    | case4 acc c rest hclose hbreak ih =>
      intro h
      rw [scan] at h
      · obtain ⟨t, rest, rfl, hclose', hbreak', hrest⟩ := ih h
        refine ⟨c :: t, rest, rfl, ?_, ?_, hrest⟩
        · exact List.not_mem_cons_of_ne_of_not_mem (Ne.symm hclose) hclose'
        · exact List.not_mem_cons_of_ne_of_not_mem (Ne.symm hbreak) hbreak'
      · exact hclose
      · exact hbreak
    | case5 => exact fun _ => .nil
    | case6 rest ih => exact (Word.sign .plus).lexes ih
    | case7 rest ih => exact (Word.sign .minus).lexes ih
    | case8 rest ih => exact Word.openGroup.lexes ih
    | case9 rest ih => exact Word.closeGroup.lexes ih
    | case10 rest ih => exact Word.comma.lexes ih
    | case11 rest ih => exact Word.die.lexes ih
    | case12 rest ih => exact (Word.keep .highest).lexes ih
    | case13 rest ih => exact (Word.keep .lowest).lexes ih
    | case14 rest ih =>
      intro h
      obtain ⟨t, rest, rfl, hclose, hbreak, hrest⟩ := ih h
      have hword := (Word.label hclose hbreak).lexes hrest
      simp only [List.cons_append, List.append_assoc, List.nil_append] at hword
      exact hword h
    | case15 c rest _ _ _ _ _ _ _ _ _ hgap ih => exact (Word.gap hgap).lexes ih
    | case16 c rest _ _ _ _ _ _ _ _ _ _ hdigit ih =>
      intro h
      rw [scan_digit hdigit] at h ⊢
      exact .digit hdigit (ih fun hmem => h (stray_mem_consDigit hmem))
    | case17 c rest _ _ _ _ _ _ _ _ _ hgap hdigit =>
      intro h
      rw [scan, if_neg hgap, if_neg hdigit] at h
      · exact absurd (List.mem_singleton_self _) h
      all_goals assumption
  exact hall none cs h

theorem Lexes.scans {cs : List Char} {ts : List Token} (h : Lexes cs ts) : Scans cs ts := by
  induction h with
  | nil => exact fun rest _ => rfl
  | @word w cs t ts hw _ ih =>
    intro rest hrest
    rw [List.append_assoc, hw.scan, ih rest hrest, List.cons_append]
  | @digit c cs ts hc _ ih =>
    intro rest hrest
    rw [List.cons_append, scan_digit hc, ih rest hrest]
    cases ts with
    | nil => exact consDigit_of_head (scan_head_of_ends hrest)
    | cons t ts => cases t <;> rfl

end Token

namespace Reading

/-- What a token does in each phase. What is not said of a phase itself is the end of its item. -/
inductive Steps : Reading → Token → Reading → Prop
  | sign {level : Level} {outer : List Level} {s : Sign} :
      Steps ⟨.start, level, outer⟩ (.sign s)
        ⟨.start, { level with signs := s :: level.signs }, outer⟩
  | number {level : Level} {outer : List Level} {ds : List Char} :
      Steps ⟨.start, level, outer⟩ (.number ds) ⟨.digits ds, level, outer⟩
  | die {level : Level} {outer : List Level} :
      Steps ⟨.start, level, outer⟩ .die ⟨.counted [], level, outer⟩
  | openGroup {level : Level} {outer : List Level} :
      Steps ⟨.start, level, outer⟩ .openGroup ⟨.start, {}, level :: outer⟩
  | gap {level : Level} {outer : List Level} (h : ¬ isBlank ⟨.start, level, outer⟩) :
      Steps ⟨.start, level, outer⟩ .gap ⟨.start, level, outer⟩
  | counted {level : Level} {outer : List Level} {ds : List Char} :
      Steps ⟨.digits ds, level, outer⟩ .die ⟨.counted ds, level, outer⟩
  | size {level : Level} {outer : List Level} {count ds : List Char} :
      Steps ⟨.counted count, level, outer⟩ (.number ds) ⟨.dice count ds, level, outer⟩
  | keep {level : Level} {outer : List Level} {ks : List Keep} {ms : List Expr} {k : Keep} :
      Steps ⟨.group ks ms, level, outer⟩ (.keep k) ⟨.group (ks ++ [k]) ms, level, outer⟩
  | item {p : Phase} {level : Level} {outer : List Level} {t : Token} {e : Expr} {r : Reading}
      (hp : p.item? = .ok e) (ht : endsItem t = true)
      (h : stepItem ⟨p, level, outer⟩ t e = .ok r) : Steps ⟨p, level, outer⟩ t r

theorem step_gap (level : Level) (outer : List Level) : step ⟨.start, level, outer⟩ .gap =
    if isBlank ⟨.start, level, outer⟩ then .error .malformed else .ok ⟨.start, level, outer⟩ := rfl

theorem steps_of_step {r r' : Reading} {t : Token} (h : r.step t = .ok r') : Steps r t r' := by
  obtain ⟨p, level, outer⟩ := r
  have hends : (if endsItem t then p.item? >>= stepItem ⟨p, level, outer⟩ t
      else .error .malformed) = .ok r' → Steps ⟨p, level, outer⟩ t r' := by
    intro hitem
    split at hitem
    · rename_i ht
      cases hp : p.item? with
      | error e =>
        rw [hp] at hitem
        cases hitem
      | ok e =>
        rw [hp] at hitem
        exact .item hp ht hitem
    · cases hitem
  cases p with
  | start =>
    cases t with
    | sign s =>
      cases h
      exact .sign
    | number ds =>
      cases h
      exact .number
    | die =>
      cases h
      exact .die
    | openGroup =>
      cases h
      exact .openGroup
    | gap =>
      rw [step_gap] at h
      split at h
      · cases h
      · rename_i hblank
        cases h
        exact .gap hblank
    | _ => cases h
  | digits ds =>
    cases t with
    | die =>
      cases h
      exact .counted
    | _ => exact hends h
  | counted count =>
    cases t with
    | number ds =>
      cases h
      exact .size
    | _ => exact hends h
  | group ks ms =>
    cases t with
    | keep k =>
      cases h
      exact .keep
    | _ => exact hends h
  | dice count size => cases t <;> exact hends h
  | item e => cases t <;> exact hends h

/-- What a token does: it stays in the group that is being read, and does the same in any other
one, or it opens a group, ends a member or closes a group. -/
inductive Moves : Reading → Token → Reading → Prop
  | stay {p p' : Phase} {level level' : Level} {outer : List Level} {t : Token}
      (hopen : t ≠ .openGroup) (hclose : t ≠ .closeGroup)
      (hmembers : level'.members = level.members)
      (hsame : ∀ ms outer', (level.members ≠ [] → ms ≠ []) → (outer ≠ [] → outer' ≠ []) →
        step ⟨p, { level with members := ms }, outer'⟩ t =
          .ok ⟨p', { level' with members := ms }, outer'⟩) :
      Moves ⟨p, level, outer⟩ t ⟨p', level', outer⟩
  | opened {level : Level} {outer : List Level} :
      Moves ⟨.start, level, outer⟩ .openGroup ⟨.start, {}, level :: outer⟩
  | parted {p : Phase} {level l : Level} {outer : List Level} {e : Expr} (hp : p.item? = .ok e) :
      Moves ⟨p, level, l :: outer⟩ .comma
        ⟨.start, { members := level.finish e :: level.members }, l :: outer⟩
  | closed {p : Phase} {level l : Level} {outer : List Level} {e : Expr} (hp : p.item? = .ok e) :
      Moves ⟨p, level, l :: outer⟩ .closeGroup
        ⟨.group [] (level.finish e :: level.members).reverse, l, outer⟩

variable {p : Phase} {level : Level} {outer : List Level} {t : Token} {r r' : Reading}

theorem moves_of_item {e : Expr} (hp : p.item? = .ok e) (ht : endsItem t = true)
    (h : step ⟨p, level, outer⟩ t = .ok r') : Moves ⟨p, level, outer⟩ t r' := by
  rw [step_of_item hp ht] at h
  cases t with
  | gap =>
    cases h
    exact .stay nofun nofun rfl fun ms outer' _ _ => step_of_item hp rfl _ outer'
  | label t =>
    cases h
    exact .stay nofun nofun rfl fun ms outer' _ _ => step_of_item hp rfl _ outer'
  | sign s =>
    cases h
    exact .stay nofun nofun rfl fun ms outer' _ _ => step_of_item hp rfl _ outer'
  | comma =>
    cases outer with
    | nil => cases h
    | cons l outer =>
      cases h
      exact .parted hp
  | closeGroup =>
    cases outer with
    | nil => cases h
    | cons l outer =>
      cases h
      exact .closed hp
  | _ => cases ht

theorem moves_of_step (h : r.step t = .ok r') : Moves r t r' := by
  cases steps_of_step h with
  | sign => exact .stay nofun nofun rfl fun _ _ _ _ => rfl
  | number => exact .stay nofun nofun rfl fun _ _ _ _ => rfl
  | die => exact .stay nofun nofun rfl fun _ _ _ _ => rfl
  | openGroup => exact .opened
  | gap hblank =>
    refine .stay nofun nofun rfl fun ms outer' hms houter => ?_
    rw [step_gap, if_neg]
    -- what is not blank is not blank with other members or below other groups either
    intro hother
    refine hblank ?_
    simp only [isBlank, Level.isEmpty, Bool.and_eq_true, List.isEmpty_iff] at hother ⊢
    obtain ⟨⟨⟨hmembers, hleft⟩, hsigns⟩, hopen⟩ := hother
    exact ⟨⟨⟨by_contra fun h => hms h hmembers, hleft⟩, hsigns⟩,
      by_contra fun h => houter h hopen⟩
  | counted => exact .stay nofun nofun rfl fun _ _ _ _ => rfl
  | size => exact .stay nofun nofun rfl fun _ _ _ _ => rfl
  | keep => exact .stay nofun nofun rfl fun _ _ _ _ => rfl
  | item hp ht => exact moves_of_item hp ht h

theorem exists_of_run_cons {ts : List Token} (h : r.run (t :: ts) = .ok r') :
    ∃ r₁, r.step t = .ok r₁ ∧ r₁.run ts = .ok r' := by
  rw [run, List.foldlM_cons] at h
  cases hstep : r.step t with
  | error e =>
    rw [hstep] at h
    cases h
  | ok r₁ =>
    rw [hstep] at h
    exact ⟨r₁, rfl, h⟩

theorem step_stray (r : Reading) : r.step .stray = .error .malformed := by
  obtain ⟨p, level, outer⟩ := r
  cases p <;> rfl

theorem stray_notMem {ts : List Token} (h : r.run ts = .ok r') : .stray ∉ ts := by
  induction ts generalizing r with
  | nil => exact List.not_mem_nil
  | cons t ts ih =>
    obtain ⟨r₁, hstep, hrest⟩ := exists_of_run_cons h
    refine List.not_mem_cons_of_ne_of_not_mem ?_ (ih hrest)
    rintro rfl
    rw [step_stray] at hstep
    cases hstep

/-- The same reading in a group that has members already, with other groups open around it. -/
def Within (ms : List Expr) (outer : List Level) (r q : Reading) : Prop :=
  (r.outer = [] ∧ r.level.members = [] ∧ q = ⟨r.phase, { r.level with members := ms }, outer⟩) ∨
    ∃ inner base, r.outer = inner ++ [base] ∧ base.members = [] ∧
      q = ⟨r.phase, r.level, inner ++ { base with members := ms } :: outer⟩

theorem Moves.within {ms : List Expr} {outer : List Level} {q : Reading} (hm : Moves r t r')
    (h : Within ms outer r q) : ∃ q', q.step t = .ok q' ∧ Within ms outer r' q' := by
  cases hm with
  | @stay p p' level level' _ _ hopen hclose hmembers hsame =>
    obtain ⟨members', left', signs'⟩ := level'
    cases hmembers
    obtain ⟨rfl, hempty, rfl⟩ | ⟨inner, base, rfl, hbase, rfl⟩ := h
    · exact ⟨_, hsame ms outer (absurd hempty) (absurd rfl), .inl ⟨rfl, hempty, rfl⟩⟩
    · exact ⟨_, hsame _ _ id fun _ => by simp, .inr ⟨inner, base, rfl, hbase, rfl⟩⟩
  | @opened level _ =>
    obtain ⟨rfl, hempty, rfl⟩ | ⟨inner, base, rfl, hbase, rfl⟩ := h
    · exact ⟨_, rfl, .inr ⟨[], level, rfl, hempty, rfl⟩⟩
    · exact ⟨_, rfl, .inr ⟨level :: inner, base, rfl, hbase, rfl⟩⟩
  | parted hp =>
    obtain ⟨hnil, -⟩ | ⟨inner, base, houter, hbase, rfl⟩ := h
    · cases hnil
    · cases inner with
      | nil =>
        cases houter
        exact ⟨_, step_of_item hp rfl _ _, .inr ⟨[], _, rfl, hbase, rfl⟩⟩
      | cons l inner =>
        cases houter
        exact ⟨_, step_of_item hp rfl _ _, .inr ⟨_ :: inner, base, rfl, hbase, rfl⟩⟩
  | closed hp =>
    obtain ⟨hnil, -⟩ | ⟨inner, base, houter, hbase, rfl⟩ := h
    · cases hnil
    · cases inner with
      | nil =>
        cases houter
        exact ⟨_, step_of_item hp rfl _ _, .inl ⟨rfl, hbase, rfl⟩⟩
      | cons l inner =>
        cases houter
        exact ⟨_, step_of_item hp rfl _ _, .inr ⟨inner, base, rfl, hbase, rfl⟩⟩

theorem Within.run {ms : List Expr} {outer : List Level} {q : Reading} {ts : List Token}
    (h : Within ms outer r q) (hrun : r.run ts = .ok r') :
    ∃ q', q.run ts = .ok q' ∧ Within ms outer r' q' := by
  induction ts generalizing r q with
  | nil =>
    cases hrun
    exact ⟨q, rfl, h⟩
  | cons t ts ih =>
    obtain ⟨r₁, hstep, hrest⟩ := exists_of_run_cons hrun
    obtain ⟨q₁, hstep', h₁⟩ := (moves_of_step hstep).within h
    obtain ⟨q', hrest', h'⟩ := ih h₁ hrest
    exact ⟨q', (run_cons hstep' ts).trans hrest', h'⟩

end Reading

variable {cs : List Char} {e : Expr}

theorem exists_run_of_read (h : Expr.read cs = .ok e) : ∃ phase level i,
    Reading.run {} (Token.scan none cs) = .ok ⟨phase, level, []⟩ ∧ phase.item? = .ok i ∧
      level.finish i = e := by
  rw [Expr.read, Expr.ofTokens] at h
  cases hrun : (Token.scan none cs).foldlM Reading.step {} with
  | error t =>
    rw [hrun] at h
    cases h
  | ok r =>
    obtain ⟨phase, level, outer⟩ := r
    rw [hrun] at h
    change Reading.finish ⟨phase, level, outer⟩ = .ok e at h
    rw [Reading.finish] at h
    cases hitem : phase.item? with
    | error t =>
      simp only [hitem] at h
      cases h
    | ok i =>
      simp only [hitem] at h
      cases outer with
      | nil =>
        cases h
        exact ⟨phase, level, i, hrun, hitem, rfl⟩
      | cons l outer => cases h

/-- What is read on its own is a sum, whatever stands around it. -/
theorem isSum_of_read (h : Expr.read cs = .ok e) : IsSum cs e := by
  obtain ⟨phase, level, i, hrun, hitem, hfinish⟩ := exists_run_of_read h
  refine ⟨_, (Token.lexes_scan (Reading.stray_notMem hrun)).scans, fun ms outer => ?_⟩
  have hstart : Reading.Within ms outer {} ⟨.start, { members := ms }, outer⟩ :=
    .inl ⟨rfl, rfl, rfl⟩
  obtain ⟨q, hq, hwithin⟩ := hstart.run hrun
  obtain ⟨-, -, rfl⟩ | ⟨inner, base, houter, -, -⟩ := hwithin
  · exact ⟨phase, _, i, hq, hitem, rfl, hfinish⟩
  · simp at houter

end Encounter.Dice
