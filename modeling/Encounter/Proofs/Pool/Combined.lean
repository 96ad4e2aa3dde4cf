import Encounter.Proofs.Pool.Spelling
import Encounter.Proofs.Pool.Terms

namespace Encounter.Pool

namespace Part

variable {ps qs : List Part}

theorem chars_injective : Function.Injective chars := by
  have hnet : ∀ {n m : Int}, decide (n < 0) = decide (m < 0) →
      Numeral.natChars n.natAbs = Numeral.natChars m.natAbs → n = m := by
    intro n m hsign hdigits
    have habs : n.natAbs = m.natAbs := by
      rw [← Numeral.value_natChars n.natAbs, hdigits, Numeral.value_natChars]
    rw [← Numeral.signed_natAbs n, hsign, habs, Numeral.signed_natAbs]
  rintro ⟨n, _ | size⟩ ⟨m, _ | size'⟩ h
  · have hform := congrArg numberForm? h
    rw [numberForm?_chars, numberForm?_chars] at hform
    obtain ⟨hsign, hdigits⟩ := Prod.mk.inj (Option.some.inj hform)
    rw [hnet hsign hdigits]
  · have hform := congrArg numberForm? h
    rw [numberForm?_chars, numberForm?_dice] at hform
    cases hform
  · have hform := congrArg numberForm? h
    rw [numberForm?_chars, numberForm?_dice] at hform
    cases hform
  · have hform := congrArg diceForm? h
    rw [diceForm?_chars, diceForm?_chars] at hform
    obtain ⟨hsign, hdigits, hsize⟩ := DiceForm.mk.inj (Option.some.inj hform)
    rw [hnet hsign hdigits, ← Numeral.value_natChars size, hsize, Numeral.value_natChars]

theorem left_congr (h : ∀ size, netDice ps size = netDice qs size) :
    (Tally.ofParts ps).left = (Tally.ofParts qs).left :=
  (sorted_left ps).eq_of_mem (sorted_left qs) fun e => by rw [mem_left, mem_left, h]

theorem merged_congr (hdice : ∀ size, netDice ps size = netDice qs size)
    (htotal : total ps = total qs) : merged ps = merged qs := by
  rw [merged, merged, left_congr hdice, htotal]

theorem net_left (ps : List Part) (size : Nat) :
    (Tally.ofParts ps).left.net size = netDice ps size := by
  by_cases hzero : netDice ps size = 0
  · rw [hzero]
    refine DiceSum.net_eq_zero fun e he heq => ?_
    exact exists_mem_left.mp ⟨e, he, heq⟩ hzero
  · obtain ⟨e, he, rfl⟩ := exists_mem_left.mpr hzero
    rw [(sorted_left ps).net_of_mem he, (mem_left.mp he).1]

theorem netDice_append (ps qs : List Part) (size : Nat) :
    netDice (ps ++ qs) size = netDice ps size + netDice qs size := by
  rw [netDice, List.map_append, List.sum_append, ← netDice, ← netDice]

theorem netDice_dice (d : DiceSum) (size : Nat) :
    netDice (d.map fun e => ⟨e.2, some e.1⟩) size = d.net size := by
  induction d with
  | nil => rfl
  | cons e d ih =>
    rw [DiceSum.net_cons, ← ih]
    simp [netDice]

theorem netDice_merged (ps : List Part) (size : Nat) :
    netDice (merged ps) size = netDice ps size := by
  rw [merged, netDice_append, netDice_dice, net_left]
  split
  · exact Int.add_zero _
  · exact Int.add_zero _

theorem merged_merged (ps : List Part) : merged (merged ps) = merged ps :=
  merged_congr (netDice_merged ps) (total_merged ps)

/-- Numbers that are within the limit when they are added up. -/
structure Within (ps : List Part) : Prop where
  dice : ∀ size, Numeral.Fits (netDice ps size).natAbs
  total : Numeral.Fits (total ps).natAbs

theorem natAbs_sum_map_le {f : Part → Int} (hf : ∀ p, (f p).natAbs ≤ p.net.natAbs)
    (ps : List Part) : (ps.map f).sum.natAbs ≤ (ps.map fun p => p.net.natAbs).sum := by
  induction ps with
  | nil => exact Nat.le_refl 0
  | cons p ps ih =>
    simp only [List.map_cons, List.sum_cons]
    exact (Int.natAbs_add_le _ _).trans (Nat.add_le_add (hf p) ih)

theorem Within.of_natAbs (h : Numeral.Fits (ps.map fun p => p.net.natAbs).sum) : Within ps := by
  refine ⟨fun size => Nat.lt_of_le_of_lt (natAbs_sum_map_le (fun p => ?_) ps) h,
    Nat.lt_of_le_of_lt (natAbs_sum_map_le (fun p => ?_) ps) h⟩
  · split
    · exact Nat.le_refl _
    · exact Nat.zero_le _
  · unfold constant
    split
    · exact Nat.le_refl _
    · exact Nat.zero_le _

theorem mem_merged {q : Part} (hq : q ∈ merged ps) :
    (∃ e ∈ (Tally.ofParts ps).left, q = ⟨e.2, some e.1⟩) ∨
      total ps ≠ 0 ∧ q = ⟨total ps, none⟩ := by
  obtain hq | hq := List.mem_append.mp hq
  · obtain ⟨e, he, rfl⟩ := List.mem_map.mp hq
    exact .inl ⟨e, he, rfl⟩
  · split at hq
    · cases hq
    · rename_i hne
      exact .inr ⟨hne, List.mem_singleton.mp hq⟩

theorem Within.fits (h : Within ps) : ∀ q ∈ merged ps, Numeral.Fits q.net.natAbs := by
  intro q hq
  obtain ⟨e, he, rfl⟩ | ⟨-, rfl⟩ := mem_merged hq
  · rw [(mem_left.mp he).1]
    exact h.dice e.1
  · exact h.total

theorem Within.canonical (h : Within ps) (hsize : Sized ps) : ∀ q ∈ merged ps, q.Canonical := by
  intro q hq
  have hfits := h.fits q hq
  obtain ⟨e, he, rfl⟩ | ⟨hne, rfl⟩ := mem_merged hq
  · exact canonical_left hsize he hfits
  · exact ⟨hne, hfits, (fun _ h => nomatch h), (fun _ h => nomatch h)⟩

/-- What is written for some parts: what is left of them, or a zero. -/
def written (ps : List Part) : List Part := if merged ps = [] then [⟨0, none⟩] else merged ps

theorem written_ne_nil (ps : List Part) : written ps ≠ [] := by
  unfold written
  split
  · exact List.cons_ne_nil _ _
  · assumption

theorem netDice_written (ps : List Part) (size : Nat) :
    netDice (written ps) size = netDice ps size := by
  unfold written
  split
  · rename_i hnil
    rw [(merged_eq_nil_iff.mp hnil).1]
    rfl
  · exact netDice_merged ps size

theorem total_written (ps : List Part) : total (written ps) = total ps := by
  unfold written
  split
  · rename_i hnil
    rw [(merged_eq_nil_iff.mp hnil).2]
    rfl
  · exact total_merged ps

def formula (ps : List Part) : String := String.ofList (joinSigned ((written ps).map chars))

theorem combine_spells {es : List String} (hes : List.Forall₂ Spells es ps) (h : Within ps) :
    combine es = .ok (formula ps) := by
  have hread : Tally.ofElements es = .ok (Tally.ofParts ps) :=
    Tally.foldlM_addText (hes.imp fun _ _ hs => hs.read) {}
  rw [combine_of_ofElements hread h.fits, formula, written]
  split <;> rfl

theorem formula_eq_iff : formula ps = formula qs ↔
    (∀ size, netDice ps size = netDice qs size) ∧ total ps = total qs := by
  constructor
  · intro h
    have htokens := congrArg tokens (String.ofList_injective h)
    rw [tokens_joinSigned (written_ne_nil ps), tokens_joinSigned (written_ne_nil qs)] at htokens
    have hwritten := List.map_injective_iff.mpr chars_injective htokens
    refine ⟨fun size => ?_, ?_⟩
    · rw [← netDice_written ps, hwritten, netDice_written]
    · rw [← total_written ps, hwritten, total_written]
  · rintro ⟨hdice, htotal⟩
    rw [formula, written, merged_congr hdice htotal, ← written, ← formula]

end Part

/-- Terms for dice, the largest first, and then for at most one number, which add up to what some
parts add up to. -/
structure Term.Sums (ts : List Term) (ps : List Part) (d : DiceSum) (ns : List Int) : Prop where
  writes : List.Forall₂ Term.Writes ts
    (d.map (fun e => ⟨e.2, some e.1⟩) ++ ns.map fun n => ⟨n, none⟩)
  sorted : d.Sorted
  dice_ne_zero : ∀ e ∈ d, e.2 ≠ 0
  net : ∀ size, d.net size = Part.netDice ps size
  length_le : ns.length ≤ 1
  number_ne_zero : ∀ n ∈ ns, n ≠ 0
  sum : ns.sum = Part.total ps

namespace Part

variable {ps : List Part}

theorem sums_merged (hcanonical : ∀ q ∈ merged ps, q.Canonical) (o : Origin) :
    Term.Sums ((merged ps).map fun p => o.term p.text p.kind) ps (Tally.ofParts ps).left
      (if total ps = 0 then [] else [total ps]) := by
  refine ⟨?_, sorted_left ps, fun e he => (mem_left.mp he).2, net_left ps, ?_, ?_, ?_⟩
  · have hmerged : merged ps = (Tally.ofParts ps).left.map (fun e => ⟨e.2, some e.1⟩) ++
        (if total ps = 0 then [] else [total ps]).map fun n => ⟨n, none⟩ := by
      rw [merged]
      split <;> rfl
    rw [← hmerged, List.forall₂_map_left_iff]
    exact List.forall₂_same.mpr fun q hq => ⟨hcanonical q hq, rfl, rfl⟩
  · split
    · exact Nat.zero_le 1
    · exact Nat.le_refl 1
  · intro n hn
    split at hn
    · cases hn
    · rwa [List.mem_singleton.mp hn]
  · split
    · rename_i h
      exact h.symm
    · exact Int.add_zero _

/-- The normal form is read back as what is left, and combined to itself. -/
theorem fragmentTerms_formula (hcanonical : ∀ q ∈ merged ps, q.Canonical) (o : Origin) :
    fragmentTerms o (formula ps) = .ok ((merged ps).map fun p => o.term p.text p.kind) := by
  rw [formula, written]
  split
  · rename_i hnil
    rw [hnil]
    rfl
  · rename_i hne
    exact fragmentTerms_joinSigned hcanonical hne o

theorem combine_merged (hcanonical : ∀ q ∈ merged ps, q.Canonical) :
    combine ((merged ps).map text) = .ok (formula ps) := by
  have hfits : ∀ q ∈ merged (merged ps), Numeral.Fits q.net.natAbs := by
    rw [merged_merged]
    exact fun q hq => (hcanonical q hq).fits
  rw [combine_of_ofElements (Tally.ofElements_text hcanonical) hfits, merged_merged, formula,
    written]
  split <;> rfl

end Part

open Pool.Part in
/-- Combining elements is a normal form: two lists of numbers and dice are combined to one text if
and only if they add up to the same dice of each size and the same number, and the text says just
that. -/
theorem combine_canonical {es es' : List String} {ps ps' : List Part}
    (hes : List.Forall₂ Spells es ps) (hes' : List.Forall₂ Spells es' ps') (hps : Within ps)
    (hps' : Within ps') : ∃ s s', combine es = .ok s ∧ combine es' = .ok s' ∧
      (s = s' ↔ (∀ size, netDice ps size = netDice ps' size) ∧ total ps = total ps') ∧
      ((∀ p ∈ ps, p.size ≠ some 0) → ∀ o, ∃ ts d ns, fragmentTerms o s = .ok ts ∧
        Term.Sums ts ps d ns ∧ combine (ts.map (·.element)) = .ok s) := by
  refine ⟨formula ps, formula ps', combine_spells hes hps, combine_spells hes' hps',
    formula_eq_iff, fun hpos o => ?_⟩
  have hsize : ∀ p ∈ ps, ∀ size ∈ p.size, 0 < size ∧ Numeral.Fits size := by
    intro p hp size hmem
    refine ⟨Nat.pos_of_ne_zero ?_, Spells.forall_size_fits hes p hp size hmem⟩
    rintro rfl
    exact hpos p hp hmem
  have hcanonical := hps.canonical hsize
  refine ⟨_, _, _, fragmentTerms_formula hcanonical o, sums_merged hcanonical o, ?_⟩
  rw [List.map_map]
  exact combine_merged hcanonical

open Pool.Part in
/-- Dice that are split and put in another order. -/
theorem combine_canonical_split :
    ∃ s, combine ["3", "2d6", "-D8", "1d6", "-1"] = .ok s ∧ combine ["+3d6", "-1d8", "2"] = .ok s ∧
      ∃ ts d ns, fragmentTerms {} s = .ok ts ∧
        Term.Sums ts [⟨3, some 6⟩, ⟨-1, some 8⟩, ⟨2, none⟩] d ns ∧
        combine (ts.map (·.element)) = .ok s := by
  have hdigit : ∀ c, Text.isDigit c = true → Digits [c] := fun c hc =>
    ⟨List.cons_ne_nil _ _, List.forall_mem_singleton.mpr hc, Nat.le_of_ble_eq_true rfl⟩
  have hlong : List.Forall₂ Spells ["3", "2d6", "-D8", "1d6", "-1"]
      [⟨3, none⟩, ⟨2, some 6⟩, ⟨-1, some 8⟩, ⟨1, some 6⟩, ⟨-1, none⟩] :=
    .cons (.number .none (hdigit '3' (by decide))) <|
    .cons (.dice .none (hdigit '2' (by decide)) (.inl rfl) (hdigit '6' (by decide))) <|
    .cons (.die .minus (.inr rfl) (hdigit '8' (by decide))) <|
    .cons (.dice .none (hdigit '1' (by decide)) (.inl rfl) (hdigit '6' (by decide))) <|
    .cons (.number .minus (hdigit '1' (by decide))) .nil
  have hshort : List.Forall₂ Spells ["+3d6", "-1d8", "2"]
      [⟨3, some 6⟩, ⟨-1, some 8⟩, ⟨2, none⟩] :=
    .cons (.dice .plus (hdigit '3' (by decide)) (.inl rfl) (hdigit '6' (by decide))) <|
    .cons (.dice .minus (hdigit '1' (by decide)) (.inl rfl) (hdigit '8' (by decide))) <|
    .cons (.number .none (hdigit '2' (by decide))) .nil
  have hfits : Numeral.Fits 8 := @Numeral.fits_of_readDigits ['8'] 8 rfl
  obtain ⟨s, s', hs, hs', hiff, hterms⟩ := combine_canonical hshort hlong
    (.of_natAbs (Nat.lt_of_le_of_lt (by decide) hfits)) (.of_natAbs hfits)
  have heq : s = s' := hiff.mpr ⟨fun size => by grind [netDice], rfl⟩
  subst heq
  exact ⟨s, hs', hs, hterms (by decide) {}⟩

end Encounter.Pool
