import Encounter.Check.Resolution

namespace Encounter.Check

namespace CriticalRange

variable {c c' r s : CriticalRange} {rs rs' : List CriticalRange}

theorem eq_of_bounds (hlow : r.low = s.low) (hhigh : r.high = s.high) : r = s := by
  obtain ⟨l, h, hr⟩ := r
  obtain ⟨l', h', hs⟩ := s
  cases hlow
  cases hhigh
  rfl

theorem make_bounds (r : CriticalRange) : make r.low r.high = .ok r := dif_pos r.bounds

/-- A range that reaches from the least lower bound to the greatest upper bound of some ranges. -/
structure Spans (c : CriticalRange) (rs : List CriticalRange) : Prop where
  low : (rs.map CriticalRange.low).min? = some c.low
  high : (rs.map CriticalRange.high).max? = some c.high

structure Holds (c r : CriticalRange) : Prop where
  low : c.low ≤ r.low
  high : r.high ≤ c.high

theorem Spans.holds (h : c.Spans rs) (hr : r ∈ rs) : c.Holds r where
  low := (List.min?_eq_some_iff.mp h.low).2 r.low (List.mem_map_of_mem hr)
  high := (List.max?_eq_some_iff.mp h.high).2 r.high (List.mem_map_of_mem hr)

theorem Spans.mono (h : c.Spans rs) (h' : c'.Spans rs') (hsub : rs ⊆ rs') : c'.Holds c := by
  obtain ⟨l, hl, hlow⟩ := List.mem_map.mp (List.min?_eq_some_iff.mp h.low).1
  obtain ⟨u, hu, hhigh⟩ := List.mem_map.mp (List.max?_eq_some_iff.mp h.high).1
  exact ⟨hlow ▸ (h'.holds (hsub hl)).low, hhigh ▸ (h'.holds (hsub hu)).high⟩

theorem Holds.antisymm (h : c.Holds r) (h' : r.Holds c) : c = r :=
  eq_of_bounds (Int.le_antisymm h.low h'.low) (Int.le_antisymm h'.high h.high)

theorem Spans.unique (h : c.Spans rs) (h' : c'.Spans rs') (hmem : ∀ r, r ∈ rs ↔ r ∈ rs') :
    c = c' :=
  (h'.mono h fun r hr => (hmem r).mpr hr).antisymm (h.mono h' fun r hr => (hmem r).mp hr)

theorem low_foldl_union (base : CriticalRange) (rs : List CriticalRange) :
    (rs.foldl union base).low = (rs.map CriticalRange.low).foldl min base.low := by
  induction rs generalizing base with
  | nil => rfl
  | cons r rs ih => exact ih (base.union r)

theorem high_foldl_union (base : CriticalRange) (rs : List CriticalRange) :
    (rs.foldl union base).high = (rs.map CriticalRange.high).foldl max base.high := by
  induction rs generalizing base with
  | nil => rfl
  | cons r rs ih => exact ih (base.union r)

theorem spans_foldl_union (base : CriticalRange) (rs : List CriticalRange) :
    (rs.foldl union base).Spans (base :: rs) where
  low := by rw [low_foldl_union, List.map_cons, List.min?_cons']
  high := by rw [high_foldl_union, List.map_cons, List.max?_cons']

/-- The union of two ranges, with the check of its bounds. -/
def checkedUnion (r s : CriticalRange) : Except Fault CriticalRange :=
  make (min r.low s.low) (max r.high s.high)

theorem checkedUnion_eq (r s : CriticalRange) : r.checkedUnion s = .ok (r.union s) :=
  make_bounds (r.union s)

end CriticalRange

def rangesFor (change : Change) (side : Side) (ms : List RangeModification) : List CriticalRange :=
  (ms.filter fun m => m.side == side && m.change == change).map (·.range)

section Fold

variable {side : Side} {m : RangeModification} {ms : List RangeModification}

theorem rangesFor_cons_of_other (hside : m.side ≠ side) (change : Change) :
    rangesFor change side (m :: ms) = rangesFor change side ms := by
  rw [rangesFor, List.filter_cons_of_neg (by simp [hside]), ← rangesFor]

theorem rangesFor_cons_of_ne {change : Change} (hchange : m.change ≠ change) :
    rangesFor change side (m :: ms) = rangesFor change side ms := by
  rw [rangesFor, List.filter_cons_of_neg (by simp [hchange]), ← rangesFor]

theorem rangesFor_cons_of_eq {change : Change} (hside : m.side = side)
    (hchange : m.change = change) :
    rangesFor change side (m :: ms) = m.range :: rangesFor change side ms := by
  rw [rangesFor, List.filter_cons_of_pos (by simp [hside, hchange]), List.map_cons, ← rangesFor]

theorem foldl_apply (side : Side) (a : Adjusted) (ms : List RangeModification) :
    ms.foldl (Adjusted.apply side) a =
      ⟨(rangesFor .expand side ms).foldl .union a.expanded,
        (rangesFor .replace side ms).getLast?.or a.replacement⟩ := by
  induction ms generalizing a with
  | nil => rfl
  | cons m ms ih =>
    rw [List.foldl_cons, ih, Adjusted.apply]
    by_cases hside : m.side = side
    · rw [if_pos (by simpa using hside)]
      cases hchange : m.change with
      | expand =>
        rw [rangesFor_cons_of_eq hside hchange, rangesFor_cons_of_ne (by simp [hchange])]
        rfl
      | replace =>
        rw [rangesFor_cons_of_eq hside hchange, rangesFor_cons_of_ne (by simp [hchange]),
          List.getLast?_cons]
        cases (rangesFor .replace side ms).getLast? <;> rfl
    · rw [if_neg (by simpa using hside), rangesFor_cons_of_other hside,
        rangesFor_cons_of_other hside]

theorem effectiveRange_eq (base : CriticalRange) (side : Side) (ms : List RangeModification) :
    effectiveRange base side ms =
      (rangesFor .replace side ms).getLast?.getD
        ((rangesFor .expand side ms).foldl .union base) := by
  rw [effectiveRange, foldl_apply, Option.or_none]

end Fold

def Adjusted.applyChecked (side : Side) (a : Adjusted) (m : RangeModification) :
    Except Fault Adjusted :=
  if m.side == side then
    match m.change with
    | .expand => (a.expanded.checkedUnion m.range).map fun r => { a with expanded := r }
    | .replace => .ok { a with replacement := some m.range }
  else .ok a

/-- The range in force, or the fault of the first bounds that do not pass their check. -/
def checkedRange (base : CriticalRange) (side : Side) (ms : List RangeModification) :
    Except Fault CriticalRange :=
  (ms.foldlM (Adjusted.applyChecked side) ⟨base, none⟩).map fun a =>
    a.replacement.getD a.expanded

theorem Adjusted.applyChecked_eq (side : Side) (a : Adjusted) (m : RangeModification) :
    a.applyChecked side m = .ok (a.apply side m) := by
  unfold applyChecked apply
  split
  · cases m.change with
    | expand => exact congrArg (Except.map _) (a.expanded.checkedUnion_eq m.range)
    | replace => rfl
  · rfl

theorem checkedRange_eq (base : CriticalRange) (side : Side) (ms : List RangeModification) :
    checkedRange base side ms = .ok (effectiveRange base side ms) := by
  have hstep : Adjusted.applyChecked side = fun a m => pure (a.apply side m) :=
    funext fun a => funext fun m => a.applyChecked_eq side m
  rw [checkedRange, hstep, List.foldlM_pure]
  rfl

/-- What the range in force is: no check of bounds fails on the way, the last replacement wins, and
without one it spans the base and the expansions. -/
structure InForce (base : CriticalRange) (side : Side) (ms : List RangeModification)
    (c : CriticalRange) : Prop where
  checked : checkedRange base side ms = .ok c
  bounds : 1 ≤ c.low ∧ c.low ≤ c.high ∧ c.high ≤ 20
  replaced : ∀ r, (rangesFor .replace side ms).getLast? = some r → c = r
  spans : rangesFor .replace side ms = [] → c.Spans (base :: rangesFor .expand side ms)

/-- Lists of modifications that differ in what does not count for a side: an expansion may move past
its neighbour, and modifications for the other side may come and go. -/
inductive Rearranged (side : Side) : List RangeModification → List RangeModification → Prop
  | move {m : RangeModification} (h : m.change = .expand) (xs : List RangeModification)
    (n : RangeModification) (ys : List RangeModification) :
    Rearranged side (xs ++ m :: n :: ys) (xs ++ n :: m :: ys)
  | drop {m : RangeModification} (h : m.side ≠ side) (xs ys : List RangeModification) :
    Rearranged side (xs ++ m :: ys) (xs ++ ys)
  | symm {ms ms' : List RangeModification} (h : Rearranged side ms ms') : Rearranged side ms' ms
  | trans {ms ms' ms'' : List RangeModification} (h : Rearranged side ms ms')
    (h' : Rearranged side ms' ms'') : Rearranged side ms ms''

section InForce

variable {base : CriticalRange} {side : Side} {ms ms' : List RangeModification}

theorem inForce_effectiveRange (base : CriticalRange) (side : Side) (ms : List RangeModification) :
    InForce base side ms (effectiveRange base side ms) where
  checked := checkedRange_eq base side ms
  bounds := (effectiveRange base side ms).bounds
  replaced r h := by rw [effectiveRange_eq, h, Option.getD_some]
  spans h := by
    rw [effectiveRange_eq, h, List.getLast?_nil, Option.getD_none]
    exact CriticalRange.spans_foldl_union base _

theorem Rearranged.replacements (h : Rearranged side ms ms') :
    rangesFor .replace side ms = rangesFor .replace side ms' := by
  induction h with
  | move hm xs n ys => simp [rangesFor, List.filter_cons, hm]
  | drop hm xs ys => simp [rangesFor, hm]
  | symm _ ih => exact ih.symm
  | trans _ _ ih ih' => exact ih.trans ih'

theorem Rearranged.expansions (h : Rearranged side ms ms') :
    (rangesFor .expand side ms).Perm (rangesFor .expand side ms') := by
  induction h with
  | move _ xs n ys => exact (((List.Perm.swap n _ ys).append_left xs).filter _).map _
  | drop hm xs ys => simp [rangesFor, hm]
  | symm _ ih => exact ih.symm
  | trans _ _ ih ih' => exact ih.trans ih'

theorem effectiveRange_rearranged (base : CriticalRange) (h : Rearranged side ms ms') :
    effectiveRange base side ms = effectiveRange base side ms' := by
  have hunion := (CriticalRange.spans_foldl_union base (rangesFor .expand side ms)).unique
    (CriticalRange.spans_foldl_union base (rangesFor .expand side ms'))
    fun r => (h.expansions.cons base).mem_iff
  rw [effectiveRange_eq, effectiveRange_eq, h.replacements, hunion]

theorem holds_of_expand {xs ys : List RangeModification} {m : RangeModification}
    (hchange : m.change = .expand) (hnone : rangesFor .replace side (xs ++ ys) = []) :
    (effectiveRange base side (xs ++ m :: ys)).Holds (effectiveRange base side (xs ++ ys)) := by
  have hreplace : rangesFor .replace side (xs ++ m :: ys) = [] := by
    rw [← hnone]
    simp [rangesFor, hchange]
  have hexpand : rangesFor .expand side (xs ++ ys) ⊆ rangesFor .expand side (xs ++ m :: ys) :=
    List.map_subset _ (List.Sublist.subset
      (((List.sublist_cons_self m ys).append_left xs).filter _))
  exact ((inForce_effectiveRange base side _).spans hnone).mono
    ((inForce_effectiveRange base side _).spans hreplace) (List.cons_subset_cons base hexpand)

end InForce

/-- The range in force for a check: where it comes from, that it does not depend on the order of
the expansions or on modifications for the other side, and that expansions only widen it. -/
theorem Engine.effectiveRange_inForce (e : Engine) (kind : Kind) (override : Option CriticalRange)
    (side : Side) (ms : List RangeModification) :
    InForce (override.getD (e.defaultRange side kind)) side ms
        (e.effectiveRange kind override ms side) ∧
      (∀ ms', Rearranged side ms ms' →
        e.effectiveRange kind override ms side = e.effectiveRange kind override ms' side) ∧
      ∀ xs ys m, ms = xs ++ ys → m.change = .expand → rangesFor .replace side ms = [] →
        (e.effectiveRange kind override (xs ++ m :: ys) side).Holds
          (e.effectiveRange kind override ms side) := by
  refine ⟨inForce_effectiveRange _ side ms, fun ms' h => effectiveRange_rearranged _ h, ?_⟩
  rintro xs ys m rfl hchange hnone
  exact holds_of_expand hchange hnone

/-- Two expansions and a replacement for the other side, in two orders, and one expansion more. -/
theorem Engine.effectiveRange_inForce_attack :
    let wide : RangeModification := ⟨.expand, ⟨18, 19, by decide⟩, .success, none⟩
    let wider : RangeModification := ⟨.expand, ⟨17, 17, by decide⟩, .success, none⟩
    let fumble : RangeModification := ⟨.replace, ⟨1, 3, by decide⟩, .failure, none⟩
    let e : Engine := {}
    (Rearranged .success [wide, fumble, wider] [wider, wide] ∧
      e.effectiveRange .attack none [wide, fumble, wider] .success =
        e.effectiveRange .attack none [wider, wide] .success) ∧
      (rangesFor .replace .success [wide, fumble] = [] ∧
        (e.effectiveRange .attack none [wide, fumble, wider] .success).Holds
          (e.effectiveRange .attack none [wide, fumble] .success)) ∧
      (rangesFor .replace .failure [wide, fumble]).getLast? = some ⟨1, 3, by decide⟩ ∧
        e.effectiveRange .attack none [wide, fumble] .failure = ⟨1, 3, by decide⟩ := by
  intro wide wider fumble e
  have hrearranged : Rearranged .success [wide, fumble, wider] [wider, wide] :=
    .trans (.drop (m := fumble) (by decide) [wide] [wider]) (.move rfl [] wider [])
  exact ⟨⟨hrearranged, (e.effectiveRange_inForce .attack none .success _).2.1 _ hrearranged⟩,
    ⟨rfl, (e.effectiveRange_inForce .attack none .success [wide, fumble]).2.2 [wide, fumble] []
      wider rfl rfl rfl⟩,
    rfl, (e.effectiveRange_inForce .attack none .failure [wide, fumble]).1.replaced _ rfl⟩

end Encounter.Check
