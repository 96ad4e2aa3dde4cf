import Encounter.Proofs.Dice.Choice

namespace Encounter.Dice

/-- A number of a sum, with the signs in front of it from left to right. -/
structure Addend where
  signs : List Sign
  digits : List Char
  deriving DecidableEq, Repr

namespace Addend

def chars (a : Addend) : List Char := a.signs.map Sign.char ++ a.digits

def number (a : Addend) : Nat := Numeral.value a.digits

/-- What a number adds to its sum: each sign in front of it counts. -/
def denoted (a : Addend) : Int := a.signs.foldr Sign.apply a.number

structure Sound (a : Addend) : Prop where
  ne_nil : a.digits ≠ []
  isDigit : ∀ c ∈ a.digits, c.isDigit = true
  length_le : a.digits.length ≤ Numeral.digitLimit

end Addend

/-- A text that is a sum of numbers. The first of them may stand without a sign. -/
structure IsSignedSum (cs : List Char) (as : List Addend) : Prop where
  text : cs = as.flatMap Addend.chars
  ne_nil : as ≠ []
  sound : ∀ a ∈ as, a.Sound
  signed : ∀ a ∈ as.tail, a.signs ≠ []

def IsSumChar (c : Char) : Prop :=
  Text.isDigit c = true ∨ c = '+' ∨ c = '-' ∨ Text.isBlank c = true

instance (c : Char) : Decidable (IsSumChar c) :=
  inferInstanceAs (Decidable (_ ∨ _ ∨ _ ∨ _))

namespace Token

inductive Additive : Token → Prop
  | number {ds : List Char} (hne : ds ≠ []) (hds : ∀ c ∈ ds, c.isDigit = true) :
      Additive (.number ds)
  | sign (s : Sign) : Additive (.sign s)
  | gap : Additive .gap

def sumChars : Token → List Char
  | number ds => ds
  | sign s => [s.char]
  | _ => []

theorem isBlank_of_isGap {c : Char} (h : isGap c = true) : Text.isBlank c = true := by
  simp only [isGap, Bool.or_eq_true, beq_iff_eq] at h
  obtain ((rfl | rfl) | rfl) | rfl := h <;> decide

theorem sumChars_consDigit (c : Char) (ts : List Token) :
    (consDigit c ts).flatMap sumChars = c :: ts.flatMap sumChars := by
  cases ts with
  | nil => rfl
  | cons t ts => cases t <;> rfl

theorem additive_consDigit {c : Char} (hc : c.isDigit = true) {ts : List Token}
    (hts : ∀ t ∈ ts, t.Additive) : ∀ t ∈ consDigit c ts, t.Additive := by
  have hsingle : Additive (.number [c]) :=
    .number (List.cons_ne_nil c []) (List.forall_mem_singleton.mpr hc)
  unfold consDigit
  split
  · rename_i ds ts
    obtain ⟨hhead, hts⟩ := List.forall_mem_cons.mp hts
    refine List.forall_mem_cons.mpr ⟨?_, hts⟩
    cases hhead with
    | number _ hds => exact .number (List.cons_ne_nil c ds) (List.forall_mem_cons.mpr ⟨hc, hds⟩)
  · exact List.forall_mem_cons.mpr ⟨hsingle, hts⟩

theorem Lexes.additive {cs : List Char} {ts : List Token} (h : Lexes cs ts)
    (hcs : ∀ c ∈ cs, IsSumChar c) : (∀ t ∈ ts, t.Additive) ∧
      ts.flatMap sumChars = cs.filter fun c => !Text.isBlank c := by
  induction h with
  | nil => exact ⟨nofun, rfl⟩
  | @word w cs t ts hw _ ih =>
    obtain ⟨hword, hrest⟩ := List.forall_mem_append.mp hcs
    obtain ⟨hts, htext⟩ := ih hrest
    have hnone {d : Char} (hd : ¬ IsSumChar d) (hmem : d ∈ w) : False := hd (hword d hmem)
    rw [List.flatMap_cons, List.filter_append, htext, List.forall_mem_cons]
    cases hw with
    | sign s =>
      refine ⟨⟨.sign s, hts⟩, congrArg (· ++ _) ?_⟩
      cases s <;> rfl
    | gap hc =>
      refine ⟨⟨.gap, hts⟩, congrArg (· ++ _) ?_⟩
      rw [List.filter_cons_of_neg (by simp [isBlank_of_isGap hc])]
      rfl
    | openGroup => exact (hnone (d := '(') (by decide) List.mem_cons_self).elim
    | closeGroup => exact (hnone (d := ')') (by decide) List.mem_cons_self).elim
    | comma => exact (hnone (d := ',') (by decide) List.mem_cons_self).elim
    | die => exact (hnone (d := 'd') (by decide) List.mem_cons_self).elim
    | keep k => exact (hnone (d := 'k') (by decide) (by cases k <;> decide)).elim
    | label => exact (hnone (d := '[') (by decide) List.mem_cons_self).elim
  | @digit c cs ts hc _ ih =>
    obtain ⟨hts, htext⟩ := ih fun d hd => hcs d (List.mem_cons_of_mem c hd)
    refine ⟨additive_consDigit hc hts, ?_⟩
    rw [sumChars_consDigit, htext, List.filter_cons_of_pos (by simp [Text.isBlank_of_ascii hc])]

end Token

namespace Level

def before (f : Faces) (l : Level) : Int := l.left.elim 0 fun left => (left.1.shown f).total

def pending (l : Level) : List Sign := (l.left.map (·.2)).toList ++ l.signs.reverse

theorem total_signed (f : Faces) (signs : List Sign) (e : Expr) :
    ((signs.foldl (fun e s => Expr.unary s e) e).shown f).total =
      signs.reverse.foldr Sign.apply (e.shown f).total := by
  induction signs generalizing e with
  | nil => rfl
  | cons s signs ih =>
    rw [List.foldl_cons, ih, List.reverse_cons, List.foldr_append]
    rfl

theorem total_finish (f : Faces) (l : Level) (n : Nat) :
    ((l.finish (.number n)).shown f).total = l.before f + l.pending.foldr Sign.apply n := by
  obtain ⟨members, _ | ⟨left, s⟩, signs⟩ := l
  · exact (total_signed f signs (.number n)).trans (Int.zero_add _).symm
  · exact congrArg (fun m => (left.shown f).total + s.apply m) (total_signed _ signs (.number n))

end Level

inductive Phase.Reads : Phase → List Char → Prop
  | digits (ds : List Char) : Reads (.digits ds) ds
  | blanks {ds : List Char} (h : ds.length ≤ Numeral.digitLimit) :
      Reads (.item (.number (Numeral.value ds))) ds

section Reads

variable {p : Phase} {ds : List Char} {level : Level} {t : Token} {r : Reading}

theorem Phase.Reads.item (h : p.Reads ds) {e : Expr} (he : p.item? = .ok e) :
    ds.length ≤ Numeral.digitLimit ∧ e = .number (Numeral.value ds) := by
  cases h with
  | digits ds =>
    by_cases hlen : ds.length ≤ Numeral.digitLimit
    · rw [Phase.item?, readNumber, Numeral.readDigits, if_pos hlen] at he
      cases he
      exact ⟨hlen, rfl⟩
    · rw [Phase.item?, readNumber, Numeral.readDigits, if_neg hlen] at he
      cases he
  | blanks hlen =>
    cases he
    exact ⟨hlen, rfl⟩

theorem Phase.Reads.step (h : p.Reads ds) (ht : t.Additive)
    (hstep : Reading.step ⟨p, level, []⟩ t = .ok r) : ds.length ≤ Numeral.digitLimit ∧
      (t = .gap ∧ r = ⟨.item (.number (Numeral.value ds)), level, []⟩ ∨
        ∃ s, t = .sign s ∧ r = ⟨.start, { level with
          left := some (level.finish (.number (Numeral.value ds)), s), signs := [] }, []⟩) := by
  have hends (hitem : Reading.step ⟨p, level, []⟩ t =
      p.item? >>= Reading.stepItem ⟨p, level, []⟩ t) :
      ds.length ≤ Numeral.digitLimit ∧
        Reading.stepItem ⟨p, level, []⟩ t (.number (Numeral.value ds)) = .ok r := by
    rw [hitem] at hstep
    cases he : p.item? with
    | error e =>
      rw [he] at hstep
      cases hstep
    | ok e =>
      obtain ⟨hlen, rfl⟩ := h.item he
      rw [he] at hstep
      exact ⟨hlen, hstep⟩
  cases ht with
  | number => cases h <;> cases hstep
  | sign s =>
    obtain ⟨hlen, hsign⟩ := hends (by cases h <;> rfl)
    cases hsign
    exact ⟨hlen, .inr ⟨s, rfl, rfl⟩⟩
  | gap =>
    obtain ⟨hlen, hgap⟩ := hends (by cases h <;> rfl)
    cases hgap
    exact ⟨hlen, .inl ⟨rfl, rfl⟩⟩

theorem step_start (ht : t.Additive) (hstep : Reading.step ⟨.start, level, []⟩ t = .ok r) :
    (t = .gap ∧ r = ⟨.start, level, []⟩) ∨
      (∃ s, t = .sign s ∧ r = ⟨.start, { level with signs := s :: level.signs }, []⟩) ∨
      ∃ ds, t = .number ds ∧ r = ⟨.digits ds, level, []⟩ := by
  cases ht with
  | number =>
    cases hstep
    exact .inr (.inr ⟨_, rfl, rfl⟩)
  | sign s =>
    cases hstep
    exact .inr (.inl ⟨s, rfl, rfl⟩)
  | gap =>
    rw [Reading.step_gap] at hstep
    split at hstep
    · cases hstep
    · cases hstep
      exact .inl ⟨rfl, rfl⟩

end Reads

/-- Numbers that go on a sum: each has a sign. -/
structure GoOn (cs : List Char) (as : List Addend) : Prop where
  text : cs = as.flatMap Addend.chars
  sound : ∀ a ∈ as, a.Sound
  signed : ∀ a ∈ as, a.signs ≠ []

theorem GoOn.cons {a : Addend} {as : List Addend} {cs : List Char} (h : GoOn cs as) (ha : a.Sound)
    (hsigns : a.signs ≠ []) : GoOn (a.chars ++ cs) (a :: as) where
  text := congrArg (a.chars ++ ·) h.text
  sound := List.forall_mem_cons.mpr ⟨ha, h.sound⟩
  signed := List.forall_mem_cons.mpr ⟨hsigns, h.signed⟩

theorem run_additive (f : Faces) {p : Phase} {last : Level} {i : Expr} (hi : p.item? = .ok i)
    {ts : List Token} (hts : ∀ t ∈ ts, t.Additive) :
    (∀ level, Reading.run ⟨.start, level, []⟩ ts = .ok ⟨p, last, []⟩ →
      ∃ (a : Addend) (as : List Addend) (cs : List Char), level.pending.map Sign.char ++
          ts.flatMap Token.sumChars = a.chars ++ cs ∧ a.Sound ∧ level.pending <+: a.signs ∧
        GoOn cs as ∧ ((last.finish i).shown f).total =
          level.before f + (a.denoted + (as.map Addend.denoted).sum)) ∧
    ∀ q level ds, Phase.Reads q ds → Reading.run ⟨q, level, []⟩ ts = .ok ⟨p, last, []⟩ →
      ds.length ≤ Numeral.digitLimit ∧ ∃ as, GoOn (ts.flatMap Token.sumChars) as ∧
        ((last.finish i).shown f).total = level.before f +
          (level.pending.foldr Sign.apply (Numeral.value ds) + (as.map Addend.denoted).sum) := by
  -- a number takes the signs that are pending in front of it, and what comes after it is added
  induction ts with
  | nil =>
    refine ⟨fun level hrun => ?_, fun q level ds hq hrun => ?_⟩
    · cases hrun
      cases hi
    · cases hrun
      obtain ⟨hlen, rfl⟩ := hq.item hi
      exact ⟨hlen, [], ⟨rfl, nofun, nofun⟩, by simp [Level.total_finish]⟩
  | cons t ts ih =>
    obtain ⟨ht, hts⟩ := List.forall_mem_cons.mp hts
    obtain ⟨hstart, hnumber⟩ := ih hts
    refine ⟨fun level hrun => ?_, fun q level ds hq hrun => ?_⟩
    · obtain ⟨r, hstep, hrun⟩ := Reading.exists_of_run_cons hrun
      obtain ⟨rfl, rfl⟩ | ⟨s, rfl, rfl⟩ | ⟨ds, rfl, rfl⟩ := step_start ht hstep
      · exact hstart level hrun
      · obtain ⟨a, as, cs, htext, hsound, hpending, has, htotal⟩ := hstart _ hrun
        have hsigns : Level.pending { level with signs := s :: level.signs } =
            level.pending ++ [s] := by
          simp [Level.pending]
        rw [hsigns] at htext hpending
        refine ⟨a, as, cs, ?_, hsound, (List.prefix_append _ _).trans hpending, has, htotal⟩
        rw [← htext, List.map_append, List.append_assoc]
        rfl
      · obtain ⟨hlen, as, has, htotal⟩ := hnumber _ level ds (.digits ds) hrun
        cases ht with
        | number hne hds =>
          exact ⟨⟨level.pending, ds⟩, as, _, (List.append_assoc _ _ _).symm, ⟨hne, hds, hlen⟩,
            List.prefix_refl _, has, htotal⟩
    · obtain ⟨r, hstep, hrun⟩ := Reading.exists_of_run_cons hrun
      obtain ⟨hlen, ⟨rfl, rfl⟩ | ⟨s, rfl, rfl⟩⟩ := hq.step ht hstep
      · exact hnumber _ level ds (.blanks hlen) hrun
      · -- the number in hand is part of the sum in front of the next one
        obtain ⟨a, as, cs, htext, hsound, hpending, has, htotal⟩ := hstart _ hrun
        have hsigns : a.signs ≠ [] := by
          rintro hnil
          rw [hnil] at hpending
          cases List.prefix_nil.mp hpending
        refine ⟨hlen, a :: as, ?_, ?_⟩
        · have htext : Token.sumChars (.sign s) ++ ts.flatMap Token.sumChars =
              a.chars ++ cs := htext
          rw [List.flatMap_cons, htext]
          exact has.cons hsound hsigns
        · rw [htotal]
          change ((level.finish (.number (Numeral.value ds))).shown f).total + _ = _
          rw [Level.total_finish, Int.add_assoc, List.map_cons, List.sum_cons]

/-- A text of digits, signs and blanks that is evaluated is a signed sum, and each sign counts. -/
theorem exists_signedSum {formula : String} (hchars : ∀ c ∈ formula.toList, IsSumChar c)
    {faces : Faces} {o : Outcome} (h : (evaluate formula faces).1 = .ok o) :
    ∃ as, IsSignedSum (Text.squeeze formula) as ∧ o.total = (as.map Addend.denoted).sum := by
  obtain ⟨e, hread, -, rfl, -, -⟩ := exists_of_evaluate (Prod.ext h rfl)
  obtain ⟨cs, hregroup, hcs⟩ := exists_of_readFormula hread
  have hmem : ∀ c ∈ spaceless formula, IsSumChar c := fun c hc =>
    hchars c (List.mem_of_mem_filter hc)
  have hcalls : NoCalls (spaceless formula) :=
    NoCalls.of_notMem fun hopen => absurd (hmem '(' hopen) (by decide)
  rw [regroup_of_noCalls false [] _ nofun hcalls] at hregroup
  obtain rfl := Option.some.inj hregroup
  obtain ⟨p, last, i, hrun, hi, rfl⟩ := exists_run_of_read hcs
  obtain ⟨hts, htext⟩ := (Token.lexes_scan (Reading.stray_notMem hrun)).additive hmem
  obtain ⟨a, as, cs, hcs, hsound, -, has, htotal⟩ := (run_additive faces hi hts).1 {} hrun
  have hsqueeze : Text.squeeze formula = a.chars ++ cs := by
    rw [← hcs, htext, Text.squeeze, spaceless, List.filter_filter]
    refine List.filter_congr fun c _ => ?_
    by_cases hc : c = ' '
    · subst hc
      decide
    · simp [hc]
  refine ⟨a :: as, ⟨?_, List.cons_ne_nil a as, List.forall_mem_cons.mpr ⟨hsound, has.sound⟩,
    has.signed⟩, htotal.trans (Int.zero_add _)⟩
  rw [hsqueeze, has.text]
  rfl

end Encounter.Dice
