import Encounter.Proofs.Dice.Evaluate
import Encounter.Proofs.Pool.Groups
import Encounter.Proofs.Pool.Merge
import Encounter.Proofs.Pool.Terms

namespace Encounter.Pool

open Dice (Expr Lot IsItem IsSum NoCalls Rolls Bare Annotated)

/-- What a damage type is left with. -/
structure Share where
  damageType : String
  parts : List Part

namespace Share

/-- A damage type that can stand between brackets in a formula. -/
def Plain (damageType : String) : Prop :=
  ∀ c ∈ damageType.toList, c ≠ '[' ∧ c ≠ ']' ∧ c ≠ '(' ∧ c ≠ '\n'

instance (damageType : String) : Decidable (Plain damageType) :=
  List.decidableBAll _ damageType.toList

structure Sound (s : Share) : Prop where
  plain : Plain s.damageType
  solid : Text.Solid s.damageType
  canonical : ∀ p ∈ s.parts, p.Canonical
  ne_nil : s.parts ≠ []

def labelChars (s : Share) : List Char := s.damageType.toList.filter (· != ' ')

def sumChars (s : Share) : List Char := joinSigned (s.parts.map Part.chars)

def text (s : Share) : String :=
  "(" ++ String.ofList s.sumChars ++ ")[" ++ s.damageType ++ "]"

def expr (s : Share) : Expr :=
  .labelled ('[' :: (s.labelChars ++ [']'])) (.group [] [Part.sum s.parts])

def lots (s : Share) : List Lot := s.parts.flatMap (Part.lots s.damageType)

variable {s : Share}

def chars (s : Share) : List Char :=
  '(' :: (s.sumChars ++ [')']) ++ '[' :: (s.labelChars ++ [']'])

theorem filter_text (s : Share) : s.text.toList.filter (· != ' ') = s.chars := by
  have hsum : s.sumChars.filter (· != ' ') = s.sumChars :=
    Part.filter_sumChars fun _ hc => .of_mem_joinSigned hc
  simp [text, chars, labelChars, hsum, List.filter_append]

theorem notMem_labelChars (hs : s.Sound) {d : Char}
    (hd : d = '[' ∨ d = ']' ∨ d = '(' ∨ d = '\n') : d ∉ s.labelChars := by
  intro hmem
  have hplain := hs.plain d (List.mem_of_mem_filter hmem)
  obtain rfl | rfl | rfl | rfl := hd <;> simp at hplain

theorem solid_labelChars (hs : s.Sound) : ∃ c ∈ s.labelChars, Text.isBlank c = false := by
  obtain ⟨c, hc, hblank⟩ := hs.solid
  refine ⟨c, List.mem_filter.mpr ⟨hc, ?_⟩, hblank⟩
  simpa using fun heq : c = ' ' => absurd (heq ▸ hblank) (by decide)

theorem isItem_expr (hs : s.Sound) : IsItem s.chars s.expr :=
  (Part.isSum_joinSigned hs.canonical hs.ne_nil).grouped.labelled
    (notMem_labelChars hs (by simp)) (notMem_labelChars hs (by simp))

theorem rolls_expr (hs : s.Sound) : Rolls .plus s.expr s.lots (Part.total s.parts) :=
  (Part.rolls_sum s.damageType hs.canonical).grouped.labelled _

theorem annotated_expr (hs : s.Sound) : Annotated s.expr := by
  refine (Part.bare_sum s.parts).grouped.labelled ?_
  exact Dice.labelName_ne_nil (notMem_labelChars hs (by simp)) (notMem_labelChars hs (by simp))
    (solid_labelChars hs)

theorem noCalls_chars (hs : s.Sound) : NoCalls s.chars := by
  have hsum : '(' ∉ s.sumChars := fun h => absurd (Part.SumChar.of_mem_joinSigned h) (by decide)
  have hlabel := notMem_labelChars hs (d := '(') (by simp)
  rw [chars, List.cons_append]
  exact NoCalls.cons (by decide) (NoCalls.of_notMem (by simp [hsum, hlabel]))

end Share

def restChars (ss : List Share) : List Char := ss.flatMap fun s => '+' :: s.chars

section Formula

variable {ss : List Share}

theorem noCalls_restChars (hss : ∀ s ∈ ss, s.Sound) : NoCalls (restChars ss) := by
  induction ss with
  | nil => exact List.isChain_nil
  | cons s ss ih =>
    obtain ⟨hs, hss⟩ := List.forall_mem_cons.mp hss
    rw [restChars, List.flatMap_cons, List.cons_append]
    refine NoCalls.cons (by decide) ((Share.noCalls_chars hs).append (ih hss) ?_)
    cases ss <;> simp

def formulaText (ss : List Share) : String :=
  if ss.isEmpty then emptyFormula else "+".intercalate (ss.map Share.text)

theorem filter_formulaText (s : Share) (ss : List Share) :
    (formulaText (s :: ss)).toList.filter (· != ' ') = s.chars ++ restChars ss := by
  have hjoin : ∀ (cs : List Char) (ss : List Share), (List.intercalate ['+']
      (cs :: ss.map fun s => s.text.toList)).filter (· != ' ') =
        cs.filter (· != ' ') ++ restChars ss := by
    intro cs ss
    induction ss generalizing cs with
    | nil => simp [restChars, List.intercalate]
    | cons s ss ih =>
      rw [List.map_cons, List.intercalate_cons_cons, List.filter_append, List.filter_append, ih,
        Share.filter_text, List.append_assoc]
      rfl
  have hplus : "+".toList = ['+'] := rfl
  rw [formulaText, List.isEmpty_cons, if_neg Bool.false_ne_true, String.toList_intercalate, hplus,
    List.map_map, List.map_cons]
  exact (hjoin _ ss).trans (by rw [← Share.filter_text]; rfl)

def formulaExpr : List Share → Expr
  | [] => .number 0
  | s :: ss => s.expr.sumFrom (fun _ => .plus) Share.expr ss

theorem annotated_formulaExpr (hss : ∀ s ∈ ss, s.Sound) : Annotated (formulaExpr ss) := by
  cases ss with
  | nil => exact ⟨(fun _ _ h => nomatch h), fun _ => rfl⟩
  | cons s ss =>
    obtain ⟨hs, hss⟩ := List.forall_mem_cons.mp hss
    exact (Share.annotated_expr hs).sumFrom fun t ht => Share.annotated_expr (hss t ht)

theorem rolls_formulaExpr (hss : ∀ s ∈ ss, s.Sound) : Rolls .plus (formulaExpr ss)
    (ss.flatMap Share.lots) (ss.map fun s => Part.total s.parts).sum := by
  cases ss with
  | nil => exact Rolls.number .plus 0
  | cons s ss =>
    obtain ⟨hs, hss⟩ := List.forall_mem_cons.mp hss
    exact (Share.rolls_expr hs).sumFrom fun t ht => Share.rolls_expr (hss t ht)

section Cons

variable {s : Share}

theorem noCalls_formula (hs : s.Sound) (hss : ∀ s ∈ ss, s.Sound) :
    NoCalls (s.chars ++ restChars ss) := by
  refine (Share.noCalls_chars hs).append (noCalls_restChars hss) ?_
  cases ss <;> simp [restChars]

theorem isSum_formula (hs : s.Sound) (hss : ∀ s ∈ ss, s.Sound) :
    IsSum (s.chars ++ restChars ss) (formulaExpr (s :: ss)) :=
  (Share.isItem_expr hs).isSum.sumFrom (fun _ => .plus) fun t ht => Share.isItem_expr (hss t ht)

end Cons

theorem readFormula_shares (hss : ∀ s ∈ ss, s.Sound) :
    Dice.readFormula (formulaText ss) = .ok (formulaExpr ss) := by
  cases ss with
  | nil => rfl
  | cons s ss =>
    obtain ⟨hs, hss⟩ := List.forall_mem_cons.mp hss
    refine Dice.readFormula_of_isSum ?_ ?_ ?_
    · refine ⟨'(', List.mem_of_mem_filter (p := (· != ' ')) ?_, by decide⟩
      rw [filter_formulaText]
      exact List.mem_cons_self
    · rw [filter_formulaText]
      exact noCalls_formula hs hss
    · rw [filter_formulaText]
      exact isSum_formula hs hss

/-- A formula reads as an expression that rolls the dice of its shares and adds their constants. -/
theorem readFormula_formulaText (hss : ∀ s ∈ ss, s.Sound) :
    ∃ e, Dice.readFormula (formulaText ss) = .ok e ∧ Annotated e ∧
      Rolls .plus e (ss.flatMap Share.lots) (ss.map fun s => Part.total s.parts).sum :=
  ⟨formulaExpr ss, readFormula_shares hss, annotated_formulaExpr hss, rolls_formulaExpr hss⟩

end Formula

def Term.part (t : Term) : Part :=
  match Element.read t.element with
  | .ok (.constant n) => ⟨n, none⟩
  | .ok (.dice q size) => ⟨q, some size⟩
  | _ => ⟨0, none⟩

theorem Term.part_of_writes {t : Term} {p : Part} (h : t.Writes p) : t.part = p := by
  have hread : Element.read t.element = .ok p.element := by
    rw [h.element, Part.read_text h.canonical]
  change (match Element.read t.element with
    | .ok (.constant n) => (⟨n, none⟩ : Part)
    | .ok (.dice q size) => ⟨q, some size⟩
    | _ => ⟨0, none⟩) = p
  rw [hread]
  obtain ⟨n, _ | size⟩ := p
  · rfl
  · rfl

theorem Term.writes_part {t : Term} (h : ∃ p, t.Writes p) : t.Writes t.part := by
  obtain ⟨p, hp⟩ := h
  rwa [part_of_writes hp]

theorem canonical_parts {terms : List Term} (hterms : ∀ t ∈ terms, ∃ p, t.Writes p) :
    ∀ p ∈ terms.map Term.part, p.Canonical := by
  intro p hp
  obtain ⟨t, ht, rfl⟩ := List.mem_map.mp hp
  exact (Term.writes_part (hterms t ht)).canonical

theorem elements_eq {terms : List Term} (hterms : ∀ t ∈ terms, ∃ p, t.Writes p) :
    terms.map (·.element) = (terms.map Term.part).map Part.text := by
  rw [List.map_map]
  exact List.map_congr_left fun t ht => (Term.writes_part (hterms t ht)).element

def partsOf (damageType : String) (terms : List Term) : List Part :=
  (ofType damageType terms).map Term.part

def Share.ofTerms (terms : List Term) (damageType : String) : Share :=
  ⟨damageType, Part.merged (partsOf damageType terms)⟩

/-- The damage types that are left with something. -/
def shares (baseType : String) (terms : List Term) : List Share :=
  ((groupTerms baseType terms).map fun g => Share.ofTerms terms g.1).filter fun s =>
    !s.parts.isEmpty

section Shares

variable {baseType : String} {terms : List Term}

theorem writes_ofType (hterms : ∀ t ∈ terms, t.Sound) (damageType : String) :
    ∀ t ∈ ofType damageType terms, ∃ p, t.Writes p :=
  fun t ht => (hterms t (List.mem_of_mem_filter ht)).writes

theorem canonical_partsOf (hterms : ∀ t ∈ terms, t.Sound) (damageType : String) :
    ∀ p ∈ partsOf damageType terms, p.Canonical :=
  canonical_parts (writes_ofType hterms damageType)

theorem groupText_eq_ok {damageType : String} {ps : List Part} (hps : ∀ p ∈ ps, p.Canonical)
    {out : List String} (h : groupText (damageType, ps.map Part.text) = .ok out) :
    (∀ p ∈ Part.merged ps, p.Canonical) ∧ out =
      if (Part.merged ps).isEmpty then [] else [Share.text ⟨damageType, Part.merged ps⟩] := by
  obtain ⟨c, hc, h⟩ := Result.bind_eq_ok h
  obtain ⟨hcanonical, rfl⟩ := Part.combine_text hps hc
  refine ⟨hcanonical, ?_⟩
  cases h
  by_cases hnil : Part.merged ps = []
  · rw [if_pos hnil, hnil]
    rfl
  · have hjoined := Part.ofList_joinSigned_ne hcanonical
    rw [if_neg hnil, if_neg (by simpa using hjoined), if_neg (by simpa using hnil)]
    rfl

theorem flatten_shareTexts (ss : List Share) :
    (ss.map fun s => if s.parts.isEmpty then [] else [s.text]).flatten =
      (ss.filter fun s => !s.parts.isEmpty).map Share.text := by
  induction ss with
  | nil => rfl
  | cons s ss ih =>
    rw [List.map_cons, List.flatten_cons, ih]
    by_cases hs : s.parts.isEmpty = true <;> simp [hs]

/-- The texts of the groups, put together, are the formula of the shares. -/
theorem formulaText_shares (baseType : String) (terms : List Term) :
    (let parts := ((groupTerms baseType terms).map fun g =>
        if (Share.ofTerms terms g.1).parts.isEmpty then []
        else [(Share.ofTerms terms g.1).text]).flatten
      if parts.isEmpty then emptyFormula else "+".intercalate parts) =
      formulaText (shares baseType terms) := by
  have hall := flatten_shareTexts ((groupTerms baseType terms).map fun g => Share.ofTerms terms g.1)
  rw [List.map_map, ← shares] at hall
  simp only [Function.comp_def] at hall
  simp only [hall, formulaText, List.isEmpty_map]

theorem group_eq (hterms : ∀ t ∈ terms, t.Sound) {g : String × List String}
    (hg : g ∈ groupTerms baseType terms) : g = (g.1, (partsOf g.1 terms).map Part.text) := by
  rw [partsOf, ← elements_eq (writes_ofType hterms g.1),
    ← (of_mem_groupTerms (Term.damageType_ne_empty hterms) hg).2]

theorem damageFormula_eq_formulaText (hterms : ∀ t ∈ terms, t.Sound) {formula : String}
    (h : damageFormula baseType terms = .ok formula) :
    (∀ s ∈ shares baseType terms, ∀ p ∈ s.parts, p.Canonical) ∧
      formula = formulaText (shares baseType terms) := by
  obtain ⟨parts, hparts, h⟩ := Result.bind_eq_ok h
  have htext : ∀ g ∈ groupTerms baseType terms, ∀ out, groupText g = .ok out →
      (∀ p ∈ (Share.ofTerms terms g.1).parts, p.Canonical) ∧
        out = if (Share.ofTerms terms g.1).parts.isEmpty then []
          else [(Share.ofTerms terms g.1).text] := by
    intro g hg out hout
    rw [group_eq hterms hg] at hout
    exact groupText_eq_ok (canonical_partsOf hterms g.1) hout
  obtain ⟨hcanonical, rfl⟩ := Result.mapM_eq_map htext hparts
  refine ⟨fun s hs => ?_, ?_⟩
  · obtain ⟨g, hg, rfl⟩ := List.mem_map.mp (List.mem_of_mem_filter hs)
    exact hcanonical g hg
  · cases h
    exact formulaText_shares baseType terms

theorem damageFormula_eq_ok (hterms : ∀ t ∈ terms, t.Sound)
    (hplain : ∀ t ∈ terms, Share.Plain t.damageType) {formula : String}
    (h : damageFormula baseType terms = .ok formula) :
    (∀ s ∈ shares baseType terms, s.Sound) ∧ formula = formulaText (shares baseType terms) := by
  obtain ⟨hcanonical, hformula⟩ := damageFormula_eq_formulaText hterms h
  refine ⟨fun s hs => ?_, hformula⟩
  have hparts := hcanonical s hs
  obtain ⟨hs, hne⟩ := List.mem_filter.mp hs
  obtain ⟨g, hg, rfl⟩ := List.mem_map.mp hs
  obtain ⟨t, ht, htype⟩ := (of_mem_groupTerms (Term.damageType_ne_empty hterms) hg).1
  exact ⟨htype ▸ hplain t ht, htype ▸ (hterms t ht).solid, hparts, by simpa using hne⟩

theorem groupText_of_fits (damageType : String) {ps : List Part} (hps : ∀ p ∈ ps, p.Canonical)
    (hfits : ∀ p ∈ Part.merged ps, Numeral.Fits p.net.natAbs) :
    groupText (damageType, ps.map Part.text) = .ok
      (if (Part.merged ps).isEmpty then [] else [Share.text ⟨damageType, Part.merged ps⟩]) := by
  cases hout : groupText (damageType, ps.map Part.text) with
  | ok out => rw [(groupText_eq_ok hps hout).2]
  | error e =>
    rw [groupText, Part.combine_of_ofElements (Tally.ofElements_text hps) hfits] at hout
    cases hout

theorem damageFormula_of_fits (hterms : ∀ t ∈ terms, t.Sound)
    (hfits : ∀ s ∈ shares baseType terms, ∀ p ∈ s.parts, Numeral.Fits p.net.natAbs) :
    damageFormula baseType terms = .ok (formulaText (shares baseType terms)) := by
  have htext : ∀ g ∈ groupTerms baseType terms, groupText g = .ok
      (if (Share.ofTerms terms g.1).parts.isEmpty then []
        else [(Share.ofTerms terms g.1).text]) := by
    intro g hg
    have hgroup := groupText_of_fits g.1 (canonical_partsOf hterms g.1)
      fun p hp => hfits _ (List.mem_filter.mpr ⟨List.mem_map_of_mem hg, by
        simpa [Share.ofTerms] using List.ne_nil_of_mem hp⟩) p hp
    rwa [← group_eq hterms hg] at hgroup
  rw [damageFormula, Result.mapM_eq_ok htext, ← formulaText_shares]
  rfl

end Shares

end Encounter.Pool
