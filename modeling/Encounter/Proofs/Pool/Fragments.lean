import Encounter.Proofs.Pool.Terms

namespace Encounter.Pool

namespace Term

/-- A term whose element is the canonical text of what the term says. -/
inductive Canonical (t : Term) : Prop
  | number (n : Int) (ne_zero : n ≠ 0) (kind : t.kind = .number)
      (element : t.element = Numeral.text n) (value : t.value = .ok n)
  | dice (q : Int) (size : Nat) (ne_zero : q ≠ 0) (size_pos : 1 ≤ size) (kind : t.kind = .dice)
      (element : t.element = diceText q size) (simple : t.isSimpleDice = true)
      (quantity : t.quantity = .ok q) (faces : t.faces = .ok size)

def origin (t : Term) : Origin := ⟨t.name, t.damageType, t.feature⟩

variable {t : Term}

theorem Writes.isCanonical {p : Part} (h : t.Writes p) : t.Canonical := by
  obtain ⟨n, _ | size⟩ := p
  · exact .number n h.canonical.ne_zero h.kind (h.element.trans (Part.text_number n))
      (value_of_writes h)
  · refine .dice n size h.canonical.ne_zero (h.canonical.size_pos size rfl) h.kind h.element ?_
      (quantity_of_writes h) (faces_of_writes h)
    rw [isSimpleDice, diceForm?_of_writes h]
    rfl

theorem origin_term (o : Origin) (element : String) (kind : ElementKind) :
    (o.term element kind).origin.term element kind = o.term element kind := by
  have hname : (o.term element kind).name.isEmpty = false := by
    change (if o.name.isEmpty then "Unknown" else o.name).isEmpty = false
    split
    · decide
    · rename_i h
      exact Bool.eq_false_iff.mpr h
  change Term.mk element kind o.damageType (if (o.term element kind).name.isEmpty then "Unknown"
    else (o.term element kind).name) o.feature = o.term element kind
  rw [hname]
  rfl

end Term

theorem exists_flaw_of_readInteger {negative : Bool} {ds : List Char} {e : Failure}
    (h : readInteger negative ds = .error e) : ∃ flaw, e = .numeral flaw :=
  Result.ofNumeral_eq_error (Result.map_eq_error h)

theorem exists_flaw_of_quantity {f : DiceForm} {e : Failure} (h : f.quantity = .error e) :
    ∃ flaw, e = .numeral flaw := by
  unfold DiceForm.quantity at h
  split at h
  · cases h
  · exact exists_flaw_of_readInteger h

theorem exists_flaw_of_readToken {token : List Char} {e : Failure}
    (h : readToken token = .error e) : ∃ flaw, e = .numeral flaw := by
  unfold readToken at h
  split at h
  · obtain h | ⟨n, -, h⟩ := Result.bind_eq_error h
    · exact exists_flaw_of_readInteger h
    · cases h
  · split at h
    · obtain h | ⟨q, -, h⟩ := Result.bind_eq_error h
      · exact exists_flaw_of_quantity h
      · obtain h | ⟨size, -, h⟩ := Result.bind_eq_error h
        · exact Result.ofNumeral_eq_error h
        · cases h
    · cases h

theorem exists_flaw_of_fragmentTerms {o : Origin} {fragment : String} {e : Failure}
    (h : fragmentTerms o fragment = .error e) : ∃ flaw, e = .numeral flaw := by
  obtain h | ⟨read, -, h⟩ := Result.bind_eq_error h
  · obtain ⟨token, -, h⟩ := Result.exists_of_mapM_eq_error h
    obtain h | ⟨found, -, h⟩ := Result.bind_eq_error h
    · exact exists_flaw_of_readToken h
    · cases found <;> cases h
  · cases h

theorem squeeze_append (a b : String) :
    Text.squeeze (a ++ b) = Text.squeeze a ++ Text.squeeze b := by
  rw [Text.squeeze, String.toList_append, List.filter_append]
  rfl

theorem squeeze_of_blank {w : String} (h : ∀ c ∈ w.toList, Text.isBlank c = true) :
    Text.squeeze w = [] := by
  refine List.filter_eq_nil_iff.mpr fun c hc => ?_
  rw [h c hc]
  decide

theorem fragmentTerms_of_tokens (o : Origin) {a b s : String}
    (h : tokens (Text.squeeze s) = tokens (Text.squeeze a) ++ tokens (Text.squeeze b)) :
    fragmentTerms o s = (do return (← fragmentTerms o a) ++ (← fragmentTerms o b)) := by
  unfold fragmentTerms termsFrom
  rw [h, List.mapM_append]
  simp only [bind_assoc, pure_bind, List.filterMap_append]

/-- Taking a fragment apart goes through signs, blanks do not count in it, and it fails only as
reading an integer fails. Its terms are canonical, and each is the only term of its element. -/
theorem fragmentTerms_canonical (o : Origin) (a b : String) :
    fragmentTerms o (a ++ "+" ++ b) =
        (do return (← fragmentTerms o a) ++ (← fragmentTerms o b)) ∧
      fragmentTerms o (a ++ "-" ++ b) =
        (do return (← fragmentTerms o a) ++ (← fragmentTerms o ("-" ++ b))) ∧
      (∀ w : String, (∀ c ∈ w.toList, Text.isBlank c = true) →
        fragmentTerms o (a ++ w ++ b) = fragmentTerms o (a ++ b)) ∧
      (∀ e, fragmentTerms o a = .error e → e.typeName = "ValueError") ∧
      ∀ ts, fragmentTerms o a = .ok ts → ∀ t ∈ ts, t.Canonical ∧
        (∀ c ∈ t.element.toList, c.isDigit = true ∨ c = '-' ∨ c = 'd') ∧
        fragmentTerms o t.element = .ok [t] ∧ fragmentTerms t.origin t.element = .ok [t] := by
  refine ⟨fragmentTerms_of_tokens o ?_, fragmentTerms_of_tokens o ?_, fun w hw => ?_,
    fun e he => ?_, fun ts hts t ht => ?_⟩
  · simp only [squeeze_append, List.append_assoc]
    exact tokens_append_plus _ _
  · simp only [squeeze_append, List.append_assoc]
    exact tokens_append_minus _ _
  · simp only [fragmentTerms, termsFrom, squeeze_append, squeeze_of_blank hw, List.append_nil]
  · obtain ⟨flaw, rfl⟩ := exists_flaw_of_fragmentTerms he
    rfl
  · obtain ⟨p, hp, rfl⟩ := exists_part_of_fragmentTerms hts t ht
    refine ⟨Term.Writes.isCanonical ⟨hp, rfl, rfl⟩, fun c hc => ?_, fragmentTerms_text hp o, ?_⟩
    · refine Part.mem_chars (p := p) ?_
      rwa [← String.toList_ofList (l := p.chars)]
    · have hown := fragmentTerms_text hp (o.term p.text p.kind).origin
      rwa [Term.origin_term] at hown

/-- Dice and a number behind two signs, with a blank between them. -/
theorem fragmentTerms_canonical_signs :
    (fragmentTerms {} ("2D4 -" ++ "-" ++ "3")).toOption =
        some [⟨"2d4", .dice, "", "Unknown", none⟩, ⟨"-3", .number, "", "Unknown", none⟩] ∧
      Term.Canonical ⟨"2d4", .dice, "", "Unknown", none⟩ := by
  refine ⟨?_, ?_⟩
  · rw [(fragmentTerms_canonical {} "2D4 -" "3").2.1]
    decide
  · exact ((fragmentTerms_canonical {} "2D4" "").2.2.2.2 _ rfl _ List.mem_cons_self).1

end Encounter.Pool
