import Encounter.Proofs.Pool.Formula
import Mathlib.Algebra.BigOperators.Group.List.Basic

namespace Encounter.Pool

open Dice (Faces Lot Annotated Rolls evaluate invalidRoll)

namespace Term

def diceOf (t : Term) (size : Nat) : Int :=
  match t.faces, t.quantity with
  | .ok s, .ok q => if s = size then q else 0
  | _, _ => 0

def constant (t : Term) : Int :=
  match t.value with
  | .ok n => n
  | .error _ => 0

variable {t : Term}

theorem diceOf_of_writes {p : Part} (h : t.Writes p) (size : Nat) :
    t.diceOf size = if p.size = some size then p.net else 0 := by
  obtain ⟨n, _ | s⟩ := p
  · have hfaces : t.faces = .ok 0 := by
      rw [faces, diceForm?_of_writes h]
      rfl
    have hquantity : t.quantity = .ok 0 := by
      rw [quantity, diceForm?_of_writes h]
      rfl
    simp [diceOf, hfaces, hquantity]
  · simp [diceOf, faces_of_writes h, quantity_of_writes h]

theorem constant_of_writes {p : Part} (h : t.Writes p) : t.constant = p.constant := by
  rw [constant, value_of_writes h]

end Term

def netDice (terms : List Term) (damageType : String) (size : Nat) : Int :=
  ((ofType damageType terms).map fun t => t.diceOf size).sum

def constantSum (terms : List Term) (damageType : String) : Int :=
  ((ofType damageType terms).map Term.constant).sum

/-- The order in which the dice of a pool are rolled. -/
def LotBefore (baseType : String) (a b : Lot) : Prop :=
  TypeBefore baseType a.damageType b.damageType ∨ a.damageType = b.damageType ∧ b.size < a.size

/-- The dice that are left when terms are merged by damage type and size, in their order. -/
structure Leaves (baseType : String) (terms : List Term) (ls : List Lot) : Prop where
  mem : ∀ l, l ∈ ls ↔ l.net = netDice terms l.damageType l.size ∧ l.net ≠ 0
  ordered : ls.Pairwise (LotBefore baseType)

/-- What a pool makes of dealt dice: for each damage type the faces of its dice, with their sign,
and its constants. -/
def DicePool.total (p : DicePool) (dealt : List (Lot × List Nat)) : Int :=
  (p.damageTypes.map fun damageType =>
    ((dealt.filter fun d => d.1.damageType == damageType).map Lot.signedSum).sum +
      constantSum p.terms damageType).sum

/-- How the formula of a pool evaluates, given the dice that are left. It rolls them in their order,
and the totals by damage type hold all of the total. -/
structure DicePool.EvaluatesTo (p : DicePool) (ls : List Lot) (faces : Faces) : Prop where
  tooMany : (evaluate p.formula faces).1 = .error
    (invalidRoll "Invalid dice expression: Too many dice rolled." p.formula) ↔ 1000 < Lot.dice ls
  rolled : Lot.dice ls ≤ 1000 → Numeral.Fits (p.total (Lot.deal ls faces)).natAbs →
    ∃ o, (evaluate p.formula faces).1 = .ok o ∧ o.dice = (Lot.deal ls faces).flatMap (·.2) ∧
      o.total = p.total (Lot.deal ls faces) ∧
      Entries.total o.totalsByType = p.total (Lot.deal ls faces)
  refused : Lot.dice ls ≤ 1000 → ¬ Numeral.Fits (p.total (Lot.deal ls faces)).natAbs →
    (evaluate p.formula faces).1 = .error (.numeral .tooLargeToWrite)

theorem netDice_parts {terms : List Term} (hterms : ∀ t ∈ terms, ∃ p, t.Writes p) (size : Nat) :
    Part.netDice (terms.map Term.part) size = (terms.map fun t => t.diceOf size).sum := by
  rw [Part.netDice, List.map_map]
  refine congrArg List.sum (List.map_congr_left fun t ht => ?_)
  exact (Term.diceOf_of_writes (Term.writes_part (hterms t ht)) size).symm

theorem total_parts {terms : List Term} (hterms : ∀ t ∈ terms, ∃ p, t.Writes p) :
    Part.total (terms.map Term.part) = (terms.map Term.constant).sum := by
  rw [Part.total, List.map_map]
  refine congrArg List.sum (List.map_congr_left fun t ht => ?_)
  exact (Term.constant_of_writes (Term.writes_part (hterms t ht))).symm

section Merged

variable {baseType : String} {terms : List Term}

theorem netDice_partsOf (hterms : ∀ t ∈ terms, t.Sound) (damageType : String) (size : Nat) :
    Part.netDice (partsOf damageType terms) size = netDice terms damageType size :=
  netDice_parts (writes_ofType hterms damageType) size

theorem exists_of_netDice {damageType : String} {size : Nat}
    (h : netDice terms damageType size ≠ 0) : ∃ t ∈ terms, t.damageType = damageType := by
  refine exists_of_ofType_ne_nil fun hnil => h ?_
  rw [netDice, hnil]
  rfl

theorem total_partsOf (hterms : ∀ t ∈ terms, t.Sound) (damageType : String) :
    Part.total (partsOf damageType terms) = constantSum terms damageType :=
  total_parts (writes_ofType hterms damageType)

theorem mem_lots (hterms : ∀ t ∈ terms, t.Sound) {damageType : String} {l : Lot} :
    l ∈ (Share.ofTerms terms damageType).lots ↔ l.damageType = damageType ∧
      l.net = netDice terms damageType l.size ∧ l.net ≠ 0 := by
  rw [Share.lots, Share.ofTerms, Part.lots_merged, List.mem_map, ← netDice_partsOf hterms]
  constructor
  · rintro ⟨e, he, rfl⟩
    exact ⟨rfl, Part.mem_left.mp he⟩
  · rintro ⟨rfl, hnet⟩
    exact ⟨(l.size, l.net), Part.mem_left.mpr hnet, rfl⟩

theorem lots_filter (ss : List Share) :
    (ss.filter fun s => !s.parts.isEmpty).flatMap Share.lots = ss.flatMap Share.lots := by
  induction ss with
  | nil => rfl
  | cons s ss ih =>
    by_cases hs : s.parts = []
    · simp [hs, ih, Share.lots]
    · simp [hs, ih]

theorem total_filter (ss : List Share) :
    ((ss.filter fun s => !s.parts.isEmpty).map fun s => Part.total s.parts).sum =
      (ss.map fun s => Part.total s.parts).sum := by
  induction ss with
  | nil => rfl
  | cons s ss ih =>
    by_cases hs : s.parts = []
    · have hzero : Part.total [] = 0 := rfl
      simp [hs, ih, hzero]
    · simp [hs, ih]

def leftLots (baseType : String) (terms : List Term) : List Lot :=
  (shares baseType terms).flatMap Share.lots

theorem leftLots_eq (baseType : String) (terms : List Term) : leftLots baseType terms =
    (groupTerms baseType terms).flatMap fun g => (Share.ofTerms terms g.1).lots := by
  rw [leftLots, shares, lots_filter, List.flatMap_map]

theorem total_shares (baseType : String) (hterms : ∀ t ∈ terms, t.Sound) :
    ((shares baseType terms).map fun s => Part.total s.parts).sum =
      ((groupTerms baseType terms).map fun g => constantSum terms g.1).sum := by
  rw [shares, total_filter, List.map_map]
  refine congrArg List.sum (List.map_congr_left fun g _ => ?_)
  exact (Part.total_merged _).trans (total_partsOf hterms g.1)

theorem leaves_leftLots (baseType : String) (hterms : ∀ t ∈ terms, t.Sound) :
    Leaves baseType terms (leftLots baseType terms) := by
  have hne := Term.damageType_ne_empty hterms
  rw [leftLots_eq]
  refine ⟨fun l => ?_, ?_⟩
  · rw [List.mem_flatMap]
    constructor
    · rintro ⟨g, -, hl⟩
      obtain ⟨htype, hnet⟩ := (mem_lots hterms).mp hl
      rwa [htype]
    · rintro ⟨hnet, hzero⟩
      obtain ⟨t, ht, htype⟩ := exists_of_netDice (hnet ▸ hzero)
      obtain ⟨g, hg, hkey⟩ := exists_mem_groupTerms hne ht
      refine ⟨g, hg, (mem_lots hterms).mpr ?_⟩
      rw [hkey, htype]
      exact ⟨rfl, hnet, hzero⟩
  · refine List.pairwise_flatMap.mpr ⟨fun g _ => ?_, ?_⟩
    · rw [Share.lots, Share.ofTerms, Part.lots_merged]
      refine List.pairwise_map.mpr ((Part.sorted_left _).imp fun h => .inr ⟨rfl, h⟩)
    · refine (sorted_groupTerms baseType terms).imp fun hbefore a ha b hb => .inl ?_
      rwa [((mem_lots hterms).mp ha).1, ((mem_lots hterms).mp hb).1]

end Merged

section DamageTypes

def seenWith (seen : List String) (t : String) : List String :=
  if t.isEmpty || seen.contains t then seen else seen ++ [t]

theorem mem_seenWith {seen : List String} {t k : String} :
    k ∈ seenWith seen t ↔ k ∈ seen ∨ k ≠ "" ∧ k = t := by
  unfold seenWith
  split
  · rename_i h
    rw [Bool.or_eq_true, String.isEmpty_iff, List.contains_iff_mem] at h
    constructor
    · exact .inl
    · rintro (hk | ⟨hk, rfl⟩)
      · exact hk
      · exact h.resolve_left hk
  · rename_i h
    rw [Bool.or_eq_true, String.isEmpty_iff, List.contains_iff_mem, not_or] at h
    rw [List.mem_append, List.mem_singleton]
    exact or_congr_right ⟨fun hk => ⟨hk ▸ h.1, hk⟩, fun hk => hk.2⟩

theorem nodup_seenWith {seen : List String} (h : seen.Nodup) (t : String) :
    (seenWith seen t).Nodup := by
  unfold seenWith
  split
  · exact h
  · rename_i hnew
    rw [Bool.or_eq_true, List.contains_iff_mem, not_or] at hnew
    refine List.nodup_append.mpr ⟨h, List.pairwise_singleton _ _, fun a ha b hb heq => hnew.2 ?_⟩
    rwa [← List.mem_singleton.mp hb, ← heq]

theorem damageTypes_eq (p : DicePool) :
    p.damageTypes = (p.terms.map (·.damageType)).foldl seenWith [] := rfl

theorem mem_damageTypes {p : DicePool} {k : String} :
    k ∈ p.damageTypes ↔ k ≠ "" ∧ ∃ t ∈ p.terms, t.damageType = k := by
  have hfold : ∀ (types seen : List String),
      k ∈ types.foldl seenWith seen ↔ k ∈ seen ∨ k ≠ "" ∧ k ∈ types := by
    intro types
    induction types with
    | nil => simp
    | cons t types ih =>
      intro seen
      rw [List.foldl_cons, ih, mem_seenWith, List.mem_cons, or_assoc, ← and_or_left]
  rw [damageTypes_eq, hfold, List.mem_map]
  simp

theorem nodup_damageTypes (p : DicePool) : p.damageTypes.Nodup := by
  have hfold : ∀ types seen : List String, seen.Nodup → (types.foldl seenWith seen).Nodup := by
    intro types
    induction types with
    | nil => exact fun _ h => h
    | cons t types ih => exact fun seen h => ih _ (nodup_seenWith h t)
  exact hfold _ [] List.nodup_nil

/-- A sum over items is the sum over their keys of the items with that key. -/
theorem sum_by_key {α : Type} (key : α → String) (f : α → Int) {keys : List String}
    (hkeys : keys.Nodup) {xs : List α} (hxs : ∀ x ∈ xs, key x ∈ keys) :
    (keys.map fun k => ((xs.filter fun x => key x == k).map f).sum).sum = (xs.map f).sum := by
  induction xs with
  | nil => simp
  | cons x xs ih =>
    have hsplit : ∀ k, (((x :: xs).filter fun x => key x == k).map f).sum =
        (if k = key x then f x else 0) + ((xs.filter fun x => key x == k).map f).sum := by
      intro k
      by_cases hk : k = key x
      · simp [hk]
      · simp [hk, Ne.symm hk]
    have hcount : keys.count (key x) = 1 := by
      rw [hkeys.count, if_pos (hxs x List.mem_cons_self)]
    rw [List.map_congr_left fun k _ => hsplit k, List.sum_map_add, List.sum_map_ite_eq, hcount,
      ih fun y hy => hxs y (List.mem_cons_of_mem x hy)]
    simp

theorem damageTypes_perm (baseType : String) {p : DicePool} (hterms : ∀ t ∈ p.terms, t.Sound) :
    p.damageTypes.Perm ((groupTerms baseType p.terms).map (·.1)) := by
  have hne := Term.damageType_ne_empty hterms
  refine (List.perm_ext_iff_of_nodup (nodup_damageTypes p)
    (nodup_groupTerms baseType p.terms)).mpr fun k => ?_
  rw [mem_damageTypes, List.mem_map]
  constructor
  · rintro ⟨-, t, ht, rfl⟩
    exact exists_mem_groupTerms hne ht
  · rintro ⟨g, hg, rfl⟩
    obtain ⟨t, ht, htype⟩ := (of_mem_groupTerms hne hg).1
    exact ⟨htype ▸ hne t ht, t, ht, htype⟩

end DamageTypes

section Agreement

variable {baseType : String} {p : DicePool}

theorem total_deal (baseType : String) (hterms : ∀ t ∈ p.terms, t.Sound) (faces : Faces) :
    p.total (Lot.deal (leftLots baseType p.terms) faces) =
      ((Lot.deal (leftLots baseType p.terms) faces).map Lot.signedSum).sum +
        ((shares baseType p.terms).map fun s => Part.total s.parts).sum := by
  have hkeys : ∀ d ∈ Lot.deal (leftLots baseType p.terms) faces,
      d.1.damageType ∈ p.damageTypes := by
    intro d hd
    have hleft := (leaves_leftLots baseType hterms).mem d.1
    obtain ⟨hnet, hzero⟩ := hleft.mp (Lot.mem_of_mem_deal hd)
    obtain ⟨t, ht, htype⟩ := exists_of_netDice (hnet ▸ hzero)
    exact mem_damageTypes.mpr ⟨htype ▸ Term.damageType_ne_empty hterms t ht, t, ht, htype⟩
  have hconstants : (p.damageTypes.map (constantSum p.terms)).sum =
      ((groupTerms baseType p.terms).map fun g => constantSum p.terms g.1).sum := by
    rw [((damageTypes_perm baseType hterms).map _).sum_eq, List.map_map]
    rfl
  rw [DicePool.total, List.sum_map_add, sum_by_key (fun d => d.1.damageType) Lot.signedSum
    (nodup_damageTypes p) hkeys, total_shares baseType hterms, ← hconstants]

/-- The formula of a damage pool that is rolled once always evaluates, unless more than a thousand
dice are left or the total is too large to write. -/
theorem evaluate_build (registry : Option Registry) (baseType : String) {r : Request}
    (haction : r.action = .damage) (hflags : r.advantage = r.disadvantage)
    (hbuild : (Builder.make registry baseType).build r = .ok p)
    (hplain : ∀ damageType ∈ p.damageTypes, Share.Plain damageType) :
    ∃ ls, Leaves (Builder.make registry baseType).baseType p.terms ls ∧
      ∀ faces, p.EvaluatesTo ls faces := by
  have hsolid := Builder.solid_baseType registry baseType
  generalize Builder.make registry baseType = b at hbuild hsolid ⊢
  obtain ⟨hterms, hformula⟩ := Builder.build_damage hsolid haction hflags hbuild
  have hterms_plain : ∀ t ∈ p.terms, Share.Plain t.damageType := fun t ht =>
    hplain _ (mem_damageTypes.mpr ⟨(hterms t ht).solid.ne_empty, t, ht, rfl⟩)
  obtain ⟨hsound, heq⟩ := damageFormula_eq_ok hterms hterms_plain hformula
  obtain ⟨e, hread, hannotated, hrolls⟩ := readFormula_formulaText hsound
  rw [← heq] at hread
  refine ⟨_, leaves_leftLots b.baseType hterms, fun faces => ?_⟩
  have hwithin := fun hcount => Dice.evaluate_rolls hread hannotated hrolls hcount faces
    (total_deal b.baseType hterms faces)
  refine ⟨⟨fun herror => ?_, fun hover => ?_⟩, fun h => (hwithin h).1, fun h => (hwithin h).2⟩
  · by_contra hcount
    obtain ⟨hok, hrefused⟩ := hwithin (Nat.le_of_not_lt hcount)
    by_cases hfits : Numeral.Fits (p.total (Lot.deal (leftLots b.baseType p.terms) faces)).natAbs
    · obtain ⟨o, ho, -⟩ := hok hfits
      cases herror.symm.trans ho
    · cases herror.symm.trans (hrefused hfits)
  · have hover : Dice.diceLimit < e.diceCount := by rwa [hrolls.count]
    exact Dice.evaluate_beyond hread hrolls.sides hover faces

end Agreement

def flames : Request :=
  { action := .damage, critical := true,
    modifiers := [{ fragment := "1d6+3", damageType := " Fire " }, { fragment := "2d8-1d4-1" },
      { fragment := "-1d8", damageType := "Kinetic" }] }

def flamePool : DicePool where
  action := .damage
  terms := [⟨"2d6", .dice, "fire", "Unknown", none⟩, ⟨"3", .number, "fire", "Unknown", none⟩,
    ⟨"4d8", .dice, "kinetic", "Unknown", none⟩, ⟨"-2d4", .dice, "kinetic", "Unknown", none⟩,
    ⟨"-1", .number, "kinetic", "Unknown", none⟩, ⟨"-2d8", .dice, "kinetic", "Unknown", none⟩]
  formula := "(2d8-2d4-1)[kinetic]+(2d6+3)[fire]"
  critical := true

theorem evaluate_build_flames : (Builder.make none "kinetic").build flames = .ok flamePool ∧
    (∀ damageType ∈ flamePool.damageTypes, Share.Plain damageType) ∧
    ∃ ls, Leaves "kinetic" flamePool.terms ls ∧ ∀ faces, flamePool.EvaluatesTo ls faces := by
  have hbuild : (Builder.make none "kinetic").build flames = .ok flamePool :=
    Result.eq_ok_of_toOption (by decide +kernel)
  have hplain : ∀ damageType ∈ flamePool.damageTypes, Share.Plain damageType := by decide +kernel
  exact ⟨hbuild, hplain, evaluate_build none "kinetic" rfl rfl hbuild hplain⟩

end Encounter.Pool
