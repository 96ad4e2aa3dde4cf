import Encounter.Pool.Builder
import Encounter.Proofs.Pool.Tokens
import Encounter.Proofs.Result
import Encounter.Proofs.Text.Name

namespace Encounter

/-- A text with something besides blanks. -/
def Text.Solid (s : String) : Prop := ∃ c ∈ s.toList, isBlank c = false

theorem Text.Solid.ne_empty {s : String} (h : Solid s) : s ≠ "" := by
  rintro rfl
  obtain ⟨c, hc, -⟩ := h
  cases hc

theorem Text.solid_lower_trim {s : String} (h : lower (trim s) ≠ "") : Solid (lower (trim s)) := by
  have htrim : trimChars isBlank s.toList ≠ [] := by
    intro hnil
    apply h
    rw [trim, trimWhere, hnil]
    rfl
  rw [Solid, lower, String.toList_ofList, trim, trimWhere, String.toList_ofList]
  exact exists_mem_lowerFrom (exists_mem_of_trimChars_ne_nil htrim) []

namespace Pool

def Part.kind (p : Part) : ElementKind :=
  match p.size with
  | none => .number
  | some _ => .dice

namespace Term

/-- A term that is written as a canonical part. -/
structure Writes (t : Term) (p : Part) : Prop where
  canonical : p.Canonical
  element : t.element = p.text
  kind : t.kind = p.kind

structure Sound (t : Term) : Prop where
  writes : ∃ p, t.Writes p
  solid : Text.Solid t.damageType

theorem damageType_ne_empty {terms : List Term} (hterms : ∀ t ∈ terms, t.Sound) :
    ∀ t ∈ terms, t.damageType ≠ "" := fun t ht => (hterms t ht).solid.ne_empty

end Term

theorem fits_of_readInteger {negative : Bool} {ds : List Char} {n : Int}
    (h : readInteger negative ds = .ok n) : Numeral.Fits n.natAbs := by
  obtain ⟨m, hm, rfl⟩ := Result.map_eq_ok h
  have hfits := Numeral.fits_of_readDigits (Result.ofNumeral_eq_ok hm)
  unfold Numeral.signed
  split
  · rwa [Int.natAbs_neg, Int.natAbs_natCast]
  · rwa [Int.natAbs_natCast]

theorem fits_of_quantity {f : DiceForm} {q : Int} (h : f.quantity = .ok q) :
    Numeral.Fits q.natAbs := by
  unfold DiceForm.quantity at h
  split at h
  · cases h
    cases f.negative <;> exact Numeral.fits_one
  · exact fits_of_readInteger h

theorem readToken_eq_some {token : List Char} {e : String × ElementKind}
    (h : readToken token = .ok (some e)) : ∃ p : Part, p.Canonical ∧ e = (p.text, p.kind) := by
  unfold readToken at h
  split at h
  · obtain ⟨n, hn, h⟩ := Result.bind_eq_ok h
    by_cases hzero : n = 0
    · rw [if_pos (by simpa using hzero)] at h
      cases h
    · rw [if_neg (by simpa using hzero)] at h
      cases h
      refine ⟨⟨n, none⟩, ⟨hzero, fits_of_readInteger hn, (fun _ h => nomatch h),
        (fun _ h => nomatch h)⟩, ?_⟩
      rw [Part.text_number]
      rfl
  · split at h
    · obtain ⟨q, hq, h⟩ := Result.bind_eq_ok h
      obtain ⟨size, hsize, h⟩ := Result.bind_eq_ok h
      by_cases hzero : (q == 0 || size == 0) = true
      · rw [if_pos hzero] at h
        cases h
      · rw [if_neg hzero] at h
        cases h
        rw [Bool.or_eq_true, not_or, beq_iff_eq, beq_iff_eq] at hzero
        refine ⟨⟨q, some size⟩, ⟨hzero.1, fits_of_quantity hq, fun s hs => ?_, fun s hs => ?_⟩, rfl⟩
        · cases hs
          exact Nat.pos_of_ne_zero hzero.2
        · cases hs
          exact Numeral.fits_of_readDigits (Result.ofNumeral_eq_ok hsize)
    · cases h

/-- The terms of a fragment are canonical parts of its origin. -/
theorem exists_part_of_fragmentTerms {o : Origin} {fragment : String} {ts : List Term}
    (h : fragmentTerms o fragment = .ok ts) :
    ∀ t ∈ ts, ∃ p : Part, p.Canonical ∧ t = o.term p.text p.kind := by
  obtain ⟨read, hread, h⟩ := Result.bind_eq_ok h
  cases h
  intro t ht
  obtain ⟨found, hfound, rfl⟩ := List.mem_filterMap.mp ht
  obtain ⟨token, -, htoken⟩ := Result.exists_of_mem_mapM hread hfound
  obtain ⟨e, he, htoken⟩ := Result.bind_eq_ok htoken
  cases e with
  | none => cases htoken
  | some e =>
    cases htoken
    obtain ⟨p, hp, rfl⟩ := readToken_eq_some he
    exact ⟨p, hp, rfl⟩

theorem fragmentTerms_writes {o : Origin} {fragment : String} {ts : List Term}
    (h : fragmentTerms o fragment = .ok ts) :
    ∀ t ∈ ts, (∃ p, t.Writes p) ∧ t.damageType = o.damageType := by
  intro t ht
  obtain ⟨p, hp, rfl⟩ := exists_part_of_fragmentTerms h t ht
  exact ⟨⟨p, hp, rfl, rfl⟩, rfl⟩

theorem readToken_chars {p : Part} (hp : p.Canonical) :
    readToken p.chars = .ok (some (p.text, p.kind)) := by
  obtain ⟨n, _ | size⟩ := p
  · have hzero : ¬ (n == 0) = true := by simpa using hp.ne_zero
    rw [readToken, Part.numberForm?_chars, Part.text_number]
    simp only [Part.readInteger_natChars hp.fits]
    exact congrArg Except.ok (if_neg hzero)
  · have hzero : ¬ (n == 0 || size == 0) = true := by
      simpa using ⟨hp.ne_zero, Nat.ne_of_gt (hp.size_pos size rfl)⟩
    rw [readToken, Part.numberForm?_dice, Part.diceForm?_chars]
    simp only [Part.quantity_diceForm hp.fits, Part.faces_diceForm (hp.size_fits size rfl)]
    exact congrArg Except.ok (if_neg hzero)

theorem fragmentTerms_joinSigned {ps : List Part} (hps : ∀ p ∈ ps, p.Canonical) (hne : ps ≠ [])
    (o : Origin) : fragmentTerms o (String.ofList (joinSigned (ps.map Part.chars))) =
      .ok (ps.map fun p => o.term p.text p.kind) := by
  rw [fragmentTerms, termsFrom, squeeze_joinSigned, tokens_joinSigned hne, List.mapM_map,
    Result.mapM_eq_ok (g := fun p => some (o.term p.text p.kind))]
  · refine congrArg Except.ok ?_
    rw [List.filterMap_map]
    exact congrFun List.filterMap_eq_map ps
  · intro p hp
    rw [Function.comp_apply, readToken_chars (hps p hp)]
    rfl

theorem fragmentTerms_text {p : Part} (hp : p.Canonical) (o : Origin) :
    fragmentTerms o p.text = .ok [o.term p.text p.kind] :=
  fragmentTerms_joinSigned (List.forall_mem_singleton.mpr hp) (List.cons_ne_nil p []) o

namespace Builder

variable {b : Builder}

/-- A damage type that a builder gives: that of untyped damage, or a declared one made normal. -/
def Names (b : Builder) (damageType : String) : Prop :=
  damageType = b.baseType ∨ damageType ≠ "" ∧ ∃ s, normalName s = damageType

/-- A term of a damage pool, as a builder makes it. -/
structure Makes (b : Builder) (t : Term) : Prop where
  writes : ∃ p, t.Writes p
  names : b.Names t.damageType

theorem solid_baseType (registry : Option Registry) (baseType : String) :
    Text.Solid (make registry baseType).baseType := by
  dsimp only [make]
  split
  · exact ⟨'k', by decide, by decide⟩
  · rename_i hne
    exact Text.solid_lower_trim fun h => hne (by rw [normalName, h]; rfl)

theorem Makes.sound (hb : Text.Solid b.baseType) {t : Term} (h : b.Makes t) : t.Sound := by
  refine ⟨h.writes, ?_⟩
  obtain heq | ⟨hne, s, heq⟩ := h.names
  · exact heq ▸ hb
  · rw [← heq] at hne ⊢
    exact Text.solid_lower_trim hne

theorem modifierTerms_makes {m : Modifier} {ts : List Term}
    (h : b.modifierTerms .damage m = .ok ts) : ∀ t ∈ ts, b.Makes t := by
  unfold modifierTerms at h
  split at h
  · intro t ht
    obtain ⟨hwrites, htype⟩ := fragmentTerms_writes h t ht
    refine ⟨hwrites, htype ▸ ?_⟩
    by_cases hempty : Text.lower (Text.trim m.damageType) = ""
    · exact .inl (by simp [hempty])
    · exact .inr ⟨by simp [hempty], m.damageType, by simp [hempty, normalName]⟩
  · cases h
    exact fun _ h => nomatch h

theorem allTerms_forall {a : Action} {P : Term → Prop} {ms : List Modifier}
    (hP : ∀ m ∈ ms, ∀ ts, b.modifierTerms a m = .ok ts → ∀ t ∈ ts, P t) {ts : List Term}
    (h : b.allTerms a ms = .ok ts) : ∀ t ∈ ts, P t := by
  obtain ⟨tss, htss, h⟩ := Result.bind_eq_ok h
  cases h
  intro t ht
  obtain ⟨ts, hts, ht⟩ := List.mem_flatten.mp ht
  obtain ⟨m, hm, hts⟩ := Result.exists_of_mem_mapM htss hts
  exact hP m hm ts hts t ht

theorem featureTerms_forall {r : Request} {P : Term → Prop}
    (hP : ∀ m ts, b.modifierTerms r.action m = .ok ts → ∀ t ∈ ts, P t) {actor : Actor}
    {f : Feature} {ts : List Term} (h : b.featureTerms r actor f = .ok ts) : ∀ t ∈ ts, P t := by
  obtain ⟨c, -, h⟩ := Result.bind_eq_ok h
  split at h
  · obtain ⟨ms, -, h⟩ := Result.bind_eq_ok h
    exact allTerms_forall (fun m _ => hP m) h
  · cases h
    exact fun _ h => nomatch h

theorem contributions_forall {r : Request} {P : Term → Prop}
    (hP : ∀ m ts, b.modifierTerms r.action m = .ok ts → ∀ t ∈ ts, P t)
    {added : List Term × List String} (h : b.contributions r = .ok added) :
    ∀ t ∈ added.1, P t := by
  unfold contributions at h
  split at h
  · obtain ⟨found, hfound, h⟩ := Result.bind_eq_ok h
    cases h
    intro t ht
    obtain ⟨x, hx, ht⟩ := List.mem_flatMap.mp ht
    obtain ⟨f, -, hf⟩ := Result.exists_of_mem_mapM hfound hx
    obtain ⟨ts, hts, hf⟩ := Result.bind_eq_ok hf
    cases hf
    exact featureTerms_forall hP hts t ht
  · cases h
    exact fun _ h => nomatch h

theorem gathered_forall {r : Request} {P : Term → Prop}
    (hP : ∀ m ts, b.modifierTerms r.action m = .ok ts → ∀ t ∈ ts, P t) {asked added : List Term}
    {features : List String} (hasked : b.allTerms r.action r.modifiers = .ok asked)
    (hadded : b.contributions r = .ok (added, features)) : ∀ t ∈ asked ++ added, P t :=
  List.forall_mem_append.mpr
    ⟨allTerms_forall (fun m _ => hP m) hasked, contributions_forall hP hadded⟩

end Builder

theorem Term.diceForm?_of_writes {t : Term} {p : Part} (h : t.Writes p) :
    t.diceForm? = p.size.map fun size =>
      ⟨decide (p.net < 0), Numeral.natChars p.net.natAbs, Numeral.natChars size⟩ := by
  unfold Term.diceForm?
  rw [h.kind, h.element, Part.text, String.toList_ofList]
  obtain ⟨n, _ | size⟩ := p
  · rfl
  · exact Part.diceForm?_chars n size

theorem Term.quantity_of_writes {t : Term} {q : Int} {size : Nat} (h : t.Writes ⟨q, some size⟩) :
    t.quantity = .ok q := by
  rw [Term.quantity, Term.diceForm?_of_writes h]
  exact Part.quantity_diceForm h.canonical.fits _

theorem Term.faces_of_writes {t : Term} {q : Int} {size : Nat} (h : t.Writes ⟨q, some size⟩) :
    t.faces = .ok size := by
  rw [Term.faces, Term.diceForm?_of_writes h]
  exact Part.faces_diceForm (h.canonical.size_fits size rfl) _ _

theorem Term.value_of_writes {t : Term} {p : Part} (h : t.Writes p) :
    t.value = .ok p.constant := by
  obtain ⟨n, _ | size⟩ := p
  · rw [Term.value, h.kind, h.element, Part.text_number]
    change Result.ofNumeral (Numeral.read (Numeral.text n)) = .ok n
    rw [Numeral.read_text h.canonical.fits]
    rfl
  · rw [Term.value, h.kind]
    rfl

theorem Term.isSimpleDice_of_writes {t : Term} {p : Part} (h : t.Writes p) :
    t.isSimpleDice = p.size.isSome := by
  rw [Term.isSimpleDice, Term.diceForm?_of_writes h]
  cases p.size <;> rfl

namespace Part

def doubled (p : Part) : Part :=
  match p.size with
  | none => p
  | some size => ⟨2 * p.net, some size⟩

theorem size_doubled (p : Part) : p.doubled.size = p.size := by
  obtain ⟨n, _ | size⟩ := p <;> rfl

theorem kind_doubled (p : Part) : p.doubled.kind = p.kind := by
  obtain ⟨n, _ | size⟩ := p <;> rfl

theorem Canonical.doubled {p : Part} (h : p.Canonical)
    (hfits : Numeral.Fits p.doubled.net.natAbs) : p.doubled.Canonical := by
  refine ⟨?_, hfits, ?_, ?_⟩
  · obtain ⟨n, _ | size⟩ := p
    · exact h.ne_zero
    · exact Int.mul_ne_zero (by decide) h.ne_zero
  · rw [size_doubled]
    exact h.size_pos
  · rw [size_doubled]
    exact h.size_fits

end Part

theorem doubleDice_eq {t : Term} {p : Part} (ht : t.Writes p) :
    doubleDice t =
      if Numeral.Fits p.doubled.net.natAbs then .ok { t with element := p.doubled.text }
      else .error (.numeral .tooLargeToWrite) := by
  have hsimple := Term.isSimpleDice_of_writes ht
  obtain ⟨q, _ | size⟩ := p
  · have hfits : Numeral.Fits (Part.doubled ⟨q, none⟩).net.natAbs := ht.canonical.fits
    rw [doubleDice, hsimple, if_pos hfits]
    exact congrArg (fun element => Except.ok { t with element }) ht.element
  · have hdoubled : Part.doubled ⟨q, some size⟩ = ⟨2 * q, some size⟩ := rfl
    have htext : Numeral.text (2 * q) ++ "d" ++ Numeral.text size =
        Part.text ⟨2 * q, some size⟩ := by
      apply String.ext
      simp [Numeral.text, Numeral.intChars_ofNat, Part.text, Part.chars, Part.sizeChars]
    rw [doubleDice, hsimple, if_pos (by rfl), Term.quantity_of_writes ht,
      Term.faces_of_writes ht, hdoubled]
    by_cases hfits : Numeral.Fits (2 * q).natAbs
    · rw [if_pos hfits, ← htext]
      simp only [bind, Except.bind, Numeral.write_of_fits hfits]
      rfl
    · rw [if_neg hfits]
      simp only [bind, Except.bind, Numeral.write_of_not_fits hfits]
      rfl

theorem doubleDice_writes {t u : Term} (ht : ∃ p, t.Writes p) (h : doubleDice t = .ok u) :
    (∃ p, u.Writes p) ∧ u.damageType = t.damageType := by
  obtain ⟨p, hp⟩ := ht
  rw [doubleDice_eq hp] at h
  split at h
  · rename_i hfits
    cases h
    exact ⟨⟨p.doubled, hp.canonical.doubled hfits, rfl, hp.kind.trans p.kind_doubled.symm⟩, rfl⟩
  · cases h

/-- A damage formula as a pool has it, rolled twice if there is a selector and something to
roll. -/
def selected (selector : Option String) (formula : String) : String :=
  match selector with
  | some s => if formula == emptyFormula then formula else callTwice s formula
  | none => formula

namespace Builder

variable {b : Builder} {r : Request} {p : DicePool}

/-- The terms that an action starts from: its die, if it has one, and what was asked for. -/
def seeded (a : Action) (asked : List Term) : List Term :=
  if a.usesD20 then baseDie a :: asked else asked

def doubledIf (critical : Bool) (terms : List Term) : Result (List Term) :=
  if critical then terms.mapM doubleDice else .ok terms

/-- The terms with the die of the action thrown twice, if there is a selector and the action has a
die. -/
def thrown (selector : Option String) (a : Action) (terms : List Term) : Result (List Term) :=
  match selector with
  | some s => if a.usesD20 then rollTwice s terms else .ok terms
  | none => .ok terms

/-- The stages of building a pool: the terms that are asked for, those of the features, the dice
doubled, one die thrown twice, the formula. -/
structure Stages (b : Builder) (r : Request) (p : DicePool) (asked added doubled : List Term) :
    Prop where
  asks : b.allTerms r.action r.modifiers = .ok asked
  adds : ∃ features, b.contributions r = .ok (added, features)
  doubles : doubledIf (r.critical && r.action == .damage) (seeded r.action asked ++ added) =
    .ok doubled
  throws : thrown (selector? r.advantage r.disadvantage) r.action doubled = .ok p.terms
  formula : b.formula r.action (selector? r.advantage r.disadvantage) p.terms = .ok p.formula
  action : p.action = r.action
  advantage : p.advantage = r.advantage
  disadvantage : p.disadvantage = r.disadvantage

theorem build_eq (b : Builder) (r : Request) : b.build r = (do
    let asked ← b.allTerms r.action r.modifiers
    let (added, features) ← b.contributions r
    let doubled ← doubledIf (r.critical && r.action == .damage) (seeded r.action asked ++ added)
    let terms ← thrown (selector? r.advantage r.disadvantage) r.action doubled
    let formula ← b.formula r.action (selector? r.advantage r.disadvantage) terms
    return ⟨r.action, terms, formula, r.advantage, r.disadvantage,
      r.critical && r.action == .damage, features⟩) := by
  unfold build thrown doubledIf seeded
  refine bind_congr fun asked => bind_congr fun ⟨added, features⟩ => ?_
  cases r.critical && r.action == .damage <;> cases selector? r.advantage r.disadvantage <;>
    cases r.action.usesD20 <;> rfl

theorem exists_stages (h : b.build r = .ok p) :
    ∃ asked added doubled, Stages b r p asked added doubled := by
  rw [build_eq] at h
  obtain ⟨asked, hasked, h⟩ := Result.bind_eq_ok h
  obtain ⟨⟨added, features⟩, hadded, h⟩ := Result.bind_eq_ok h
  obtain ⟨doubled, hdoubled, h⟩ := Result.bind_eq_ok h
  obtain ⟨terms, hterms, h⟩ := Result.bind_eq_ok h
  obtain ⟨formula, hformula, h⟩ := Result.bind_eq_ok h
  cases h
  exact ⟨asked, added, doubled, hasked, ⟨features, hadded⟩, hdoubled, hterms, hformula, rfl, rfl,
    rfl⟩

theorem build_marks (h : b.build r = .ok p) :
    p.critical = (r.critical && r.action == .damage) ∧
      ∃ added, b.contributions r = .ok (added, p.features) := by
  rw [build_eq] at h
  obtain ⟨asked, -, h⟩ := Result.bind_eq_ok h
  obtain ⟨⟨added, features⟩, hadded, h⟩ := Result.bind_eq_ok h
  obtain ⟨doubled, -, h⟩ := Result.bind_eq_ok h
  obtain ⟨terms, -, h⟩ := Result.bind_eq_ok h
  obtain ⟨formula, -, h⟩ := Result.bind_eq_ok h
  cases h
  exact ⟨rfl, added, hadded⟩

theorem doubledIf_forall {P : Term → Prop} {critical : Bool} {ts us : List Term}
    (hd : ∀ t u, P t → doubleDice t = .ok u → P u) (h : doubledIf critical ts = .ok us)
    (hts : ∀ t ∈ ts, P t) : ∀ u ∈ us, P u := by
  unfold doubledIf at h
  split at h
  · intro u hu
    obtain ⟨t, ht, htu⟩ := Result.exists_of_mem_mapM h hu
    exact hd t u (hts t ht) htu
  · cases h
    exact hts

theorem doubledIf_makes {critical : Bool} {ts us : List Term}
    (h : doubledIf critical ts = .ok us) (hts : ∀ t ∈ ts, b.Makes t) : ∀ u ∈ us, b.Makes u := by
  refine doubledIf_forall (fun t u ht htu => ?_) h hts
  obtain ⟨hwrites, htype⟩ := doubleDice_writes ht.writes htu
  exact ⟨hwrites, htype ▸ ht.names⟩

theorem build_makes (hr : r.action = .damage) (h : b.build r = .ok p) :
    (∀ t ∈ p.terms, b.Makes t) ∧ p.advantage = r.advantage ∧ p.disadvantage = r.disadvantage ∧
      ∃ formula, damageFormula b.baseType p.terms = .ok formula ∧
        p.formula = selected (selector? r.advantage r.disadvantage) formula := by
  obtain ⟨asked, added, doubled, hs⟩ := exists_stages h
  obtain ⟨features, hadded⟩ := hs.adds
  have hmakes : ∀ m ts, b.modifierTerms r.action m = .ok ts → ∀ t ∈ ts, b.Makes t :=
    fun _ _ h => modifierTerms_makes (hr ▸ h)
  have hseeded : ∀ t ∈ seeded r.action asked ++ added, b.Makes t := by
    intro t ht
    rw [seeded, hr] at ht
    exact gathered_forall hmakes hs.asks hadded t ht
  have hdoubled := doubledIf_makes hs.doubles hseeded
  -- damage has no die of its own that could be thrown twice
  have hterms : doubled = p.terms := by
    have hthrown := hs.throws
    rw [hr] at hthrown
    cases hselector : selector? r.advantage r.disadvantage <;> rw [hselector] at hthrown <;>
      exact Except.ok.inj hthrown
  have hformula := hs.formula
  rw [hr] at hformula
  obtain ⟨formula, hformula, h⟩ := Result.bind_eq_ok hformula
  exact ⟨hterms ▸ hdoubled, hs.advantage, hs.disadvantage, formula, hformula,
    (Except.ok.inj h).symm⟩

theorem build_damage (hb : Text.Solid b.baseType) (hr : r.action = .damage)
    (hflags : r.advantage = r.disadvantage) (h : b.build r = .ok p) :
    (∀ t ∈ p.terms, t.Sound) ∧ damageFormula b.baseType p.terms = .ok p.formula := by
  obtain ⟨hterms, -, -, formula, hformula, heq⟩ := build_makes hr h
  have hselector : selector? r.advantage r.disadvantage = none := by
    rw [hflags]
    cases r.disadvantage <;> rfl
  rw [hselector] at heq
  exact ⟨fun t ht => (hterms t ht).sound hb, hformula.trans (congrArg _ heq.symm)⟩

end Builder
end Pool
end Encounter
