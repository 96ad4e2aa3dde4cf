import Encounter.Proofs.Pool.Sum
import Encounter.Proofs.Result

namespace Encounter.Pool

namespace DiceSum

def Sorted (d : DiceSum) : Prop := d.Pairwise fun a b => b.1 < a.1

theorem mem_add {d : DiceSum} {size : Nat} {q : Int} {e : Nat × Int} (h : e ∈ d.add size q) :
    e.1 = size ∨ ∃ e' ∈ d, e'.1 = e.1 := by
  induction d with
  | nil => exact .inl (congrArg Prod.fst (List.mem_singleton.mp h))
  | cons a d ih =>
    unfold add at h
    split at h
    · obtain rfl | h := List.mem_cons.mp h
      · exact .inr ⟨a, List.mem_cons_self, rfl⟩
      · exact .inr ⟨e, List.mem_cons_of_mem a h, rfl⟩
    · split at h
      · obtain rfl | h := List.mem_cons.mp h
        · exact .inl rfl
        · exact .inr ⟨e, h, rfl⟩
      · obtain rfl | h := List.mem_cons.mp h
        · exact .inr ⟨a, List.mem_cons_self, rfl⟩
        · obtain h | ⟨e', he', heq⟩ := ih h
          · exact .inl h
          · exact .inr ⟨e', List.mem_cons_of_mem a he', heq⟩

theorem Sorted.add {d : DiceSum} (hd : d.Sorted) (size : Nat) (q : Int) :
    (d.add size q).Sorted := by
  induction d with
  | nil => exact List.pairwise_singleton _ _
  | cons a d ih =>
    have hcons := List.pairwise_cons.mp hd
    unfold DiceSum.add
    split
    · exact List.pairwise_cons.mpr ⟨hcons.1, hcons.2⟩
    · rename_i hne
      have hne : size ≠ a.1 := by simpa using hne
      split
      · rename_i hlt
        refine List.pairwise_cons.mpr ⟨fun b hb => ?_, hd⟩
        obtain rfl | hb := List.mem_cons.mp hb
        · exact hlt
        · exact Nat.lt_trans (hcons.1 b hb) hlt
      · rename_i hlt
        refine List.pairwise_cons.mpr ⟨fun b hb => ?_, ih hcons.2⟩
        obtain hb | ⟨c, hc, hcb⟩ := mem_add hb
        · change b.1 < a.1
          omega
        · exact hcb ▸ hcons.1 c hc

theorem net_cons (e : Nat × Int) (d : DiceSum) (size : Nat) :
    net (e :: d) size = (if e.1 = size then e.2 else 0) + net d size := by
  by_cases h : e.1 = size <;> simp [net, h]

theorem net_eq_zero {d : DiceSum} {size : Nat} (h : ∀ e ∈ d, e.1 ≠ size) : d.net size = 0 := by
  induction d with
  | nil => rfl
  | cons a d ih =>
    rw [net_cons, if_neg (h a List.mem_cons_self), Int.zero_add]
    exact ih fun e he => h e (List.mem_cons_of_mem a he)

theorem Sorted.net_of_mem {d : DiceSum} (hd : d.Sorted) {e : Nat × Int} (h : e ∈ d) :
    d.net e.1 = e.2 := by
  induction d with
  | nil => cases h
  | cons a d ih =>
    have hcons := List.pairwise_cons.mp hd
    rw [net_cons]
    obtain rfl | h := List.mem_cons.mp h
    · rw [if_pos rfl, net_eq_zero fun b hb => Nat.ne_of_lt (hcons.1 b hb), Int.add_zero]
    · rw [if_neg (Nat.ne_of_gt (hcons.1 e h)), Int.zero_add]
      exact ih hcons.2 h

theorem Sorted.mem_net {d : DiceSum} (hd : d.Sorted) {size : Nat} (h : d.net size ≠ 0) :
    (size, d.net size) ∈ d := by
  by_contra hmem
  refine h (net_eq_zero fun e he heq => hmem ?_)
  rwa [← heq, hd.net_of_mem he]

theorem Sorted.nodup {d : DiceSum} (h : d.Sorted) : d.Nodup :=
  List.Pairwise.imp (fun hlt heq => Nat.ne_of_gt hlt (congrArg Prod.fst heq)) h

theorem Sorted.eq_of_mem {d d' : DiceSum} (h : d.Sorted) (h' : d'.Sorted)
    (hmem : ∀ e, e ∈ d ↔ e ∈ d') : d = d' :=
  ((List.perm_ext_iff_of_nodup h.nodup h'.nodup).mpr hmem).eq_of_pairwise
    (fun _ _ _ _ hab hba => absurd hab (Nat.lt_asymm hba)) h h'

end DiceSum

namespace Part

def netDice (ps : List Part) (size : Nat) : Int :=
  (ps.map fun p => if p.size = some size then p.net else 0).sum

def total (ps : List Part) : Int := (ps.map constant).sum

end Part

namespace Tally

def ofParts (ps : List Part) : Tally := ps.foldl (fun t p => t.add p.element) {}

theorem foldlM_addText {es : List String} {ps : List Part}
    (h : List.Forall₂ (fun s p => Element.read s = .ok p.element) es ps) (t : Tally) :
    es.foldlM addText t = .ok (ps.foldl (fun t p => t.add p.element) t) := by
  induction h generalizing t with
  | nil => rfl
  | @cons s p es ps hread _ ih =>
    have hadd : t.addText s = .ok (t.add p.element) := by
      rw [addText, hread]
      rfl
    rw [List.foldlM_cons, hadd]
    exact ih (t.add p.element)

theorem foldlM_addText_text {ps : List Part} (hps : ∀ p ∈ ps, p.Canonical) (t : Tally) :
    (ps.map Part.text).foldlM addText t = .ok (ps.foldl (fun t p => t.add p.element) t) :=
  foldlM_addText (List.forall₂_map_left_iff.mpr
    (List.forall₂_same.mpr fun p hp => Part.read_text (hps p hp))) t

theorem ofElements_text {ps : List Part} (hps : ∀ p ∈ ps, p.Canonical) :
    ofElements (ps.map Part.text) = .ok (ofParts ps) := foldlM_addText_text hps {}

/-- What the parts so far amount to. -/
structure Merges (t : Tally) (ps : List Part) : Prop where
  verbatim : t.verbatim = []
  sorted : t.dice.Sorted
  net : ∀ size, t.dice.net size = Part.netDice ps size
  size : ∀ e ∈ t.dice, ∃ p ∈ ps, p.size = some e.1
  constant : t.constant = Part.total ps

theorem Merges.add {t : Tally} {ps : List Part} (h : t.Merges ps) (p : Part) :
    (t.add p.element).Merges (ps ++ [p]) := by
  have hmem : ∀ e ∈ t.dice, ∃ q ∈ ps ++ [p], q.size = some e.1 := by
    intro e he
    obtain ⟨q, hq, hsize⟩ := h.size e he
    exact ⟨q, List.mem_append_left _ hq, hsize⟩
  obtain ⟨n, _ | size⟩ := p
  · refine ⟨h.verbatim, h.sorted, fun s => ?_, hmem, ?_⟩
    · rw [Part.netDice, List.map_append, List.sum_append, ← Part.netDice, ← h.net]
      exact (Int.add_zero _).symm
    · change t.constant + n = _
      simp [h.constant, Part.total, Part.constant]
  · refine ⟨h.verbatim, h.sorted.add size n, fun s => ?_, fun e he => ?_, ?_⟩
    · change (t.dice.add size n).net s = _
      rw [DiceSum.net_add, h.net]
      simp [Part.netDice]
    · obtain he | ⟨e', he', heq⟩ := DiceSum.mem_add he
      · exact ⟨⟨n, some size⟩, List.mem_append_right _ (List.mem_singleton_self _), by rw [he]⟩
      · exact heq ▸ hmem e' he'
    · change t.constant = _
      simp [h.constant, Part.total, Part.constant]

theorem merges_ofParts (ps : List Part) : (ofParts ps).Merges ps := by
  induction ps using List.reverseRecOn with
  | nil =>
    exact ⟨rfl, List.Pairwise.nil, fun _ => rfl, (fun _ h => nomatch h), rfl⟩
  | append_singleton ps p ih =>
    rw [ofParts, List.foldl_append]
    exact ih.add p

/-- The dice that are left, by size. -/
def left (t : Tally) : DiceSum := t.dice.filter fun e => e.2 != 0

end Tally

namespace Part

/-- The parts that are left when some parts are merged. -/
def merged (ps : List Part) : List Part :=
  (Tally.ofParts ps).left.map (fun e => ⟨e.2, some e.1⟩) ++
    if total ps = 0 then [] else [⟨total ps, none⟩]

variable {ps : List Part}

theorem mem_left {e : Nat × Int} :
    e ∈ (Tally.ofParts ps).left ↔ e.2 = netDice ps e.1 ∧ e.2 ≠ 0 := by
  have hm := Tally.merges_ofParts ps
  rw [Tally.left, List.mem_filter, bne_iff_ne]
  constructor
  · rintro ⟨he, hne⟩
    exact ⟨by rw [← hm.net, hm.sorted.net_of_mem he], hne⟩
  · rintro ⟨hnet, hne⟩
    rw [← hm.net] at hnet
    have he : (e.1, (Tally.ofParts ps).dice.net e.1) ∈ (Tally.ofParts ps).dice :=
      hm.sorted.mem_net (hnet ▸ hne)
    rw [← hnet] at he
    exact ⟨he, hne⟩

theorem exists_mem_left {size : Nat} :
    (∃ e ∈ (Tally.ofParts ps).left, e.1 = size) ↔ netDice ps size ≠ 0 := by
  constructor
  · rintro ⟨e, he, rfl⟩
    obtain ⟨hnet, hne⟩ := mem_left.mp he
    rwa [← hnet]
  · exact fun hne => ⟨(size, netDice ps size), mem_left.mpr ⟨rfl, hne⟩, rfl⟩

theorem sorted_left (ps : List Part) : (Tally.ofParts ps).left.Sorted :=
  List.Pairwise.filter _ (Tally.merges_ofParts ps).sorted

theorem merged_eq_nil_iff : merged ps = [] ↔ (∀ size, netDice ps size = 0) ∧ total ps = 0 := by
  rw [merged, List.append_eq_nil_iff, List.map_eq_nil_iff, List.eq_nil_iff_forall_not_mem]
  refine and_congr ⟨fun h size => ?_, fun h e he => ?_⟩ ?_
  · by_contra hne
    obtain ⟨e, he, -⟩ := exists_mem_left.mpr hne
    exact h e he
  · exact exists_mem_left.mp ⟨e, he, rfl⟩ (h e.1)
  · by_cases h : total ps = 0 <;> simp [h]

theorem lots_merged (damageType : String) (ps : List Part) :
    (merged ps).flatMap (lots damageType) =
      (Tally.ofParts ps).left.map fun e => ⟨damageType, e.1, e.2⟩ := by
  rw [merged, List.flatMap_append, List.flatMap_map]
  have hdice : (Tally.ofParts ps).left.flatMap (fun e => lots damageType ⟨e.2, some e.1⟩) =
      (Tally.ofParts ps).left.map fun e => ⟨damageType, e.1, e.2⟩ := by
    induction (Tally.ofParts ps).left with
    | nil => rfl
    | cons e d ih => exact congrArg _ ih
  rw [hdice]
  split
  · exact List.append_nil _
  · exact List.append_nil _

theorem total_merged (ps : List Part) : total (merged ps) = total ps := by
  have hdice : ∀ d : DiceSum, total (d.map fun e => ⟨e.2, some e.1⟩) = 0 := by
    intro d
    induction d with
    | nil => rfl
    | cons e d ih => exact (Int.zero_add _).trans ih
  rw [merged, total, List.map_append, List.sum_append, ← total, hdice, Int.zero_add]
  split
  · rename_i h
    exact h.symm
  · exact Int.add_zero _

theorem writeDice_eq_ok {e : Nat × Int} {cs : List Char} (h : writeDice e = .ok cs) :
    Numeral.Fits e.2.natAbs ∧ cs = chars ⟨e.2, some e.1⟩ := by
  obtain ⟨q, hq, h⟩ := Result.bind_eq_ok h
  obtain ⟨hfits, rfl⟩ := Numeral.write_eq_ok (Result.ofNumeral_eq_ok hq)
  cases h
  refine ⟨hfits, ?_⟩
  rw [Numeral.text, String.toList_ofList]
  rfl

/-- All dice have sides, whose numerals are within the limit. -/
def Sized (ps : List Part) : Prop := ∀ p ∈ ps, ∀ size ∈ p.size, 0 < size ∧ Numeral.Fits size

theorem sized_of_canonical (hps : ∀ p ∈ ps, p.Canonical) : Sized ps := by
  intro p hp size hs
  exact ⟨(hps p hp).size_pos size hs, (hps p hp).size_fits size hs⟩

theorem canonical_left (hsize : Sized ps) {e : Nat × Int} (he : e ∈ (Tally.ofParts ps).left)
    (hfits : Numeral.Fits e.2.natAbs) : Canonical ⟨e.2, some e.1⟩ := by
  obtain ⟨p, hp, hp'⟩ := (Tally.merges_ofParts ps).size e (List.mem_of_mem_filter he)
  refine ⟨(mem_left.mp he).2, hfits, fun size h => ?_, fun size h => ?_⟩
  · cases h
    exact (hsize p hp e.1 hp').1
  · cases h
    exact (hsize p hp e.1 hp').2

theorem parts_ofParts (hps : Sized ps) {vs : List String} {parts : List (List Char)}
    (h : Tally.parts { Tally.ofParts ps with verbatim := vs } = .ok parts) :
    (∀ p ∈ merged ps, p.Canonical) ∧ parts = vs.map String.toList ++ (merged ps).map chars := by
  have hm := Tally.merges_ofParts ps
  obtain ⟨dice, hdice, h⟩ := Result.bind_eq_ok h
  obtain ⟨hfits, rfl⟩ := Result.mapM_eq_map (fun _ _ _ => writeDice_eq_ok) hdice
  have hleft : ∀ p ∈ (Tally.ofParts ps).left.map fun e => (⟨e.2, some e.1⟩ : Part),
      p.Canonical := by
    intro p hp
    obtain ⟨e, he, rfl⟩ := List.mem_map.mp hp
    exact canonical_left hps he (hfits e he)
  rw [hm.constant] at h
  unfold merged
  by_cases hzero : total ps = 0
  · rw [if_pos (by simpa using hzero)] at h
    cases h
    rw [if_pos hzero, List.append_nil, List.map_map]
    exact ⟨hleft, List.append_nil _⟩
  · rw [if_neg (by simpa using hzero)] at h
    obtain ⟨constant, hconstant, h⟩ := Result.bind_eq_ok h
    obtain ⟨s, hs, rfl⟩ := Result.map_eq_ok hconstant
    obtain ⟨hfits, rfl⟩ := Numeral.write_eq_ok (Result.ofNumeral_eq_ok hs)
    cases h
    rw [if_neg hzero, List.map_append, List.map_map]
    refine ⟨fun p hp => ?_, ?_⟩
    · obtain hp | hp := List.mem_append.mp hp
      · exact hleft p hp
      · obtain rfl := List.mem_singleton.mp hp
        exact ⟨hzero, hfits, (fun _ h => nomatch h), (fun _ h => nomatch h)⟩
    · simp [Numeral.text, chars, sizeChars, Tally.left, Function.comp_def]

theorem combine_eq_ok {es : List String} (hes : Tally.ofElements es = .ok (Tally.ofParts ps))
    (hps : Sized ps) {c : String} (h : combine es = .ok c) : (∀ p ∈ merged ps, p.Canonical) ∧
      c = if merged ps = [] then emptyFormula
        else String.ofList (joinSigned ((merged ps).map chars)) := by
  obtain ⟨t, ht, h⟩ := Result.bind_eq_ok h
  obtain rfl := Except.ok.inj (hes.symm.trans ht)
  obtain ⟨parts, hparts, h⟩ := Result.bind_eq_ok h
  have hnone : Tally.parts { Tally.ofParts ps with verbatim := [] } = .ok parts := by
    rw [← (Tally.merges_ofParts ps).verbatim]
    exact hparts
  obtain ⟨hcanonical, rfl⟩ := parts_ofParts hps hnone
  refine ⟨hcanonical, ?_⟩
  cases h
  by_cases hnil : merged ps = []
  · rw [if_pos hnil, hnil]
    rfl
  · rw [if_neg hnil, if_neg (by simpa using joinSigned_ne_nil hnil)]
    rfl

theorem combine_text (hps : ∀ p ∈ ps, p.Canonical) {c : String}
    (h : combine (ps.map text) = .ok c) : (∀ p ∈ merged ps, p.Canonical) ∧
      c = if merged ps = [] then emptyFormula
        else String.ofList (joinSigned ((merged ps).map chars)) :=
  combine_eq_ok (Tally.ofElements_text hps) (sized_of_canonical hps) h

theorem writeDice_of_fits {e : Nat × Int} (h : Numeral.Fits e.2.natAbs) :
    writeDice e = .ok (chars ⟨e.2, some e.1⟩) := by
  rw [writeDice, Numeral.write_of_fits h]
  change Except.ok ((Numeral.text e.2).toList ++ _) = _
  rw [Numeral.text, String.toList_ofList]
  rfl

theorem parts_of_fits (hfits : ∀ q ∈ merged ps, Numeral.Fits q.net.natAbs) :
    (Tally.ofParts ps).parts = .ok ((merged ps).map chars) := by
  have hm := Tally.merges_ofParts ps
  have hdice : (Tally.ofParts ps).left.mapM writeDice =
      .ok ((Tally.ofParts ps).left.map fun e => chars ⟨e.2, some e.1⟩) :=
    Result.mapM_eq_ok fun e he => writeDice_of_fits
      (hfits ⟨e.2, some e.1⟩ (List.mem_append_left _ (List.mem_map_of_mem he)))
  rw [Tally.parts, hm.verbatim, hm.constant]
  change ((Tally.ofParts ps).left.mapM writeDice >>= _) = _
  rw [hdice]
  change (if (total ps == 0) = true then _ else _) = _
  by_cases hzero : total ps = 0
  · rw [if_pos (by simpa using hzero), merged, if_pos hzero, List.append_nil, List.map_map]
    exact congrArg Except.ok (List.append_nil _)
  · have htotal := hfits ⟨total ps, none⟩ (List.mem_append_right _ (by simp [hzero]))
    rw [if_neg (by simpa using hzero), merged, if_neg hzero, Numeral.write_of_fits htotal,
      List.map_append, List.map_map]
    have htext : (Numeral.text (total ps)).toList = chars ⟨total ps, none⟩ := by
      rw [← text_number, text, String.toList_ofList]
    exact congrArg (fun cs => Except.ok (_ ++ [cs])) htext

theorem combine_of_ofElements {es : List String}
    (hes : Tally.ofElements es = .ok (Tally.ofParts ps))
    (hfits : ∀ q ∈ merged ps, Numeral.Fits q.net.natAbs) :
    combine es = .ok (if merged ps = [] then emptyFormula
      else String.ofList (joinSigned ((merged ps).map chars))) := by
  rw [combine, hes]
  change (Tally.parts _ >>= _) = _
  rw [parts_of_fits hfits]
  refine congrArg Except.ok ?_
  by_cases hnil : merged ps = []
  · rw [if_pos hnil, hnil]
    rfl
  · rw [if_neg hnil]
    exact if_neg (by simpa using joinSigned_ne_nil hnil)

theorem combine_of_fits (hps : ∀ p ∈ ps, p.Canonical) {qs : List Part} (hmerged : merged ps = qs)
    (hfits : ∀ q ∈ qs, Numeral.Fits q.net.natAbs) (hne : qs ≠ []) :
    combine (ps.map text) = .ok (String.ofList (joinSigned (qs.map chars))) := by
  subst hmerged
  rw [combine_of_ofElements (Tally.ofElements_text hps) hfits, if_neg hne]

end Part
end Encounter.Pool
