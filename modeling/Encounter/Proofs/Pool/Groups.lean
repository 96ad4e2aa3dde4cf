import Encounter.Entries
import Encounter.Pool.Builder
import Mathlib.Data.List.Induction

namespace Encounter.Pool

/-- The base type comes first, the others in alphabetical order. -/
def TypeBefore (baseType a b : String) : Prop := b ≠ baseType ∧ (a = baseType ∨ a < b)

section TypeBefore

variable {baseType a b c : String}

theorem comesBefore_iff : comesBefore baseType a b = true ↔ TypeBefore baseType a b := by
  unfold comesBefore TypeBefore
  by_cases ha : a = baseType <;> simp [ha]

theorem TypeBefore.ne (h : TypeBefore baseType a b) : a ≠ b := by
  obtain ⟨hb, ha | hlt⟩ := h
  · exact fun heq => hb (heq ▸ ha)
  · exact String.ne_of_lt hlt

theorem TypeBefore.trans (hab : TypeBefore baseType a b) (hbc : TypeBefore baseType b c) :
    TypeBefore baseType a c := by
  obtain ⟨hb, ha⟩ := hab
  obtain ⟨hc, hlt⟩ := hbc
  have hlt := hlt.resolve_left hb
  exact ⟨hc, ha.imp_right fun h => String.lt_trans h hlt⟩

theorem TypeBefore.of_not (hne : a ≠ b) (h : ¬ TypeBefore baseType a b) :
    TypeBefore baseType b a := by
  by_cases ha : a = baseType
  · exact absurd ⟨fun hb => hne (ha.trans hb.symm), .inl ha⟩ h
  · refine ⟨ha, ?_⟩
    by_cases hb : b = baseType
    · exact .inl hb
    · have hle : b ≤ a := String.not_lt.mp fun hlt => h ⟨hb, .inr hlt⟩
      refine .inr (String.not_le.mp fun hle' => hne (String.le_antisymm hle' hle))

end TypeBefore

namespace Groups

variable {baseType : String} {gs : Groups}

def Sorted (baseType : String) (gs : Groups) : Prop :=
  gs.Pairwise fun a b => TypeBefore baseType a.1 b.1

theorem get?_eq_none {k : String} (h : ∀ g ∈ gs, g.1 ≠ k) : Entries.get? gs k = none := by
  cases hget : Entries.get? gs k with
  | none => rfl
  | some es => exact absurd rfl (h _ (Entries.mem_of_get? hget))

theorem key_of_mem_add {damageType element : String} {g : String × List String}
    (h : g ∈ add baseType damageType element gs) :
    g.1 = damageType ∨ ∃ g' ∈ gs, g'.1 = g.1 := by
  induction gs with
  | nil => exact .inl (congrArg Prod.fst (List.mem_singleton.mp h))
  | cons a gs ih =>
    unfold add at h
    split at h
    · obtain rfl | h := List.mem_cons.mp h
      · exact .inr ⟨a, List.mem_cons_self, rfl⟩
      · exact .inr ⟨g, List.mem_cons_of_mem a h, rfl⟩
    · split at h
      · obtain rfl | h := List.mem_cons.mp h
        · exact .inl rfl
        · exact .inr ⟨g, h, rfl⟩
      · obtain rfl | h := List.mem_cons.mp h
        · exact .inr ⟨a, List.mem_cons_self, rfl⟩
        · obtain h | ⟨g', hg', heq⟩ := ih h
          · exact .inl h
          · exact .inr ⟨g', List.mem_cons_of_mem a hg', heq⟩

theorem Sorted.add (hgs : gs.Sorted baseType) (damageType element : String) :
    (Groups.add baseType damageType element gs).Sorted baseType := by
  induction gs with
  | nil => exact List.pairwise_singleton _ _
  | cons a gs ih =>
    have hcons := List.pairwise_cons.mp hgs
    unfold Groups.add
    split
    · exact List.pairwise_cons.mpr ⟨hcons.1, hcons.2⟩
    · rename_i hne
      have hne : damageType ≠ a.1 := by simpa using hne
      split
      · rename_i hbefore
        have hbefore := comesBefore_iff.mp hbefore
        refine List.pairwise_cons.mpr ⟨fun g hg => ?_, hgs⟩
        obtain rfl | hg := List.mem_cons.mp hg
        · exact hbefore
        · exact hbefore.trans (hcons.1 g hg)
      · rename_i hbefore
        have hafter := TypeBefore.of_not hne fun h => hbefore (comesBefore_iff.mpr h)
        refine List.pairwise_cons.mpr ⟨fun g hg => ?_, ih hcons.2⟩
        obtain hg | ⟨g', hg', heq⟩ := key_of_mem_add hg
        · exact hg ▸ hafter
        · exact heq ▸ hcons.1 g' hg'

theorem Sorted.get?_add (hgs : gs.Sorted baseType) (damageType element k : String) :
    Entries.get? (Groups.add baseType damageType element gs) k =
      if k = damageType then some ((Entries.get? gs k).getD [] ++ [element])
      else Entries.get? gs k := by
  induction gs with
  | nil =>
    rw [Groups.add, Entries.get?_cons]
    by_cases hk : k = damageType
    · simp [hk]
    · rw [if_neg (Ne.symm hk), if_neg hk]
  | cons a gs ih =>
    have hcons := List.pairwise_cons.mp hgs
    unfold Groups.add
    split
    · rename_i heq
      obtain rfl : damageType = a.1 := by simpa using heq
      rw [Entries.get?_cons, Entries.get?_cons]
      by_cases hk : k = a.1
      · simp [hk]
      · rw [if_neg (Ne.symm hk), if_neg (Ne.symm hk), if_neg hk]
    · rename_i hne
      have hne : damageType ≠ a.1 := by simpa using hne
      split
      · rename_i hbefore
        have hbefore := comesBefore_iff.mp hbefore
        rw [Entries.get?_cons]
        by_cases hk : k = damageType
        · -- a later group of this type would stand before its own type
          have hnone : Entries.get? (a :: gs) k = none := by
            refine get?_eq_none fun g hg => ?_
            obtain rfl | hg := List.mem_cons.mp hg
            · exact hk ▸ hne.symm
            · exact hk ▸ (hbefore.trans (hcons.1 g hg)).ne.symm
          rw [if_pos hk.symm, if_pos hk, hnone]
          rfl
        · rw [if_neg (Ne.symm hk), if_neg hk]
      · rw [Entries.get?_cons, ih hcons.2, Entries.get?_cons]
        by_cases hk : k = damageType
        · rw [if_pos hk, if_pos hk, if_neg (by rw [hk]; exact hne.symm),
            if_neg (by rw [hk]; exact hne.symm)]
        · rw [if_neg hk, if_neg hk]

theorem Sorted.get?_of_mem (hgs : gs.Sorted baseType) {g : String × List String} (hg : g ∈ gs) :
    Entries.get? gs g.1 = some g.2 := by
  induction gs with
  | nil => cases hg
  | cons a gs ih =>
    have hcons := List.pairwise_cons.mp hgs
    rw [Entries.get?_cons]
    obtain rfl | hg := List.mem_cons.mp hg
    · exact if_pos rfl
    · rw [if_neg (hcons.1 g hg).ne]
      exact ih hcons.2 hg

end Groups

def ofType (damageType : String) (terms : List Term) : List Term :=
  terms.filter fun t => t.damageType == damageType

variable {baseType : String} {terms : List Term}

theorem exists_of_ofType_ne_nil {k : String} (h : ofType k terms ≠ []) :
    ∃ t ∈ terms, t.damageType = k := by
  obtain ⟨t, ht⟩ := List.exists_mem_of_ne_nil _ h
  obtain ⟨ht, htype⟩ := List.mem_filter.mp ht
  exact ⟨t, ht, beq_iff_eq.mp htype⟩

theorem sorted_groupTerms (baseType : String) (terms : List Term) :
    (groupTerms baseType terms).Sorted baseType := by
  have hfold : ∀ gs : Groups, gs.Sorted baseType → (terms.foldl (fun gs t =>
      gs.add baseType (if t.damageType.isEmpty then baseType else t.damageType) t.element)
      gs).Sorted baseType := by
    induction terms with
    | nil => exact fun _ h => h
    | cons t terms ih => exact fun gs h => ih _ (h.add _ _)
  exact hfold [] List.Pairwise.nil

theorem ordered_types (baseType : String) (terms : List Term) :
    ((groupTerms baseType terms).map (·.1)).Pairwise (TypeBefore baseType) :=
  List.pairwise_map.mpr (sorted_groupTerms baseType terms)

theorem nodup_groupTerms (baseType : String) (terms : List Term) :
    ((groupTerms baseType terms).map (·.1)).Nodup :=
  (ordered_types baseType terms).imp TypeBefore.ne

def Term.typeIn (baseType : String) (t : Term) : String :=
  if t.damageType.isEmpty then baseType else t.damageType

def groupedAs (baseType damageType : String) (terms : List Term) : List Term :=
  terms.filter fun t => t.typeIn baseType == damageType

theorem groupedAs_eq_ofType (baseType : String) (hterms : ∀ t ∈ terms, t.damageType ≠ "")
    (k : String) : groupedAs baseType k terms = ofType k terms := by
  refine List.filter_congr fun t ht => ?_
  rw [Term.typeIn, if_neg (by simpa using hterms t ht)]

theorem groupTerms_append (baseType : String) (terms : List Term) (t : Term) :
    groupTerms baseType (terms ++ [t]) =
      (groupTerms baseType terms).add baseType (t.typeIn baseType) t.element := by
  rw [groupTerms, List.foldl_append]
  rfl

theorem groupedAs_append (baseType k : String) (terms : List Term) (t : Term) :
    groupedAs baseType k (terms ++ [t]) =
      groupedAs baseType k terms ++ if t.typeIn baseType = k then [t] else [] := by
  rw [groupedAs, List.filter_append, ← groupedAs]
  by_cases hk : t.typeIn baseType = k <;> simp [hk]

theorem get?_groupTerms (baseType k : String) (terms : List Term) :
    Entries.get? (groupTerms baseType terms) k =
      if groupedAs baseType k terms = [] then none
      else some ((groupedAs baseType k terms).map (·.element)) := by
  induction terms using List.reverseRecOn with
  | nil => rfl
  | append_singleton terms t ih =>
    rw [groupTerms_append, (sorted_groupTerms baseType terms).get?_add, ih, groupedAs_append]
    by_cases hk : t.typeIn baseType = k
    · rw [if_pos hk.symm, if_pos hk,
        if_neg (List.append_ne_nil_of_right_ne_nil _ (List.cons_ne_nil t []))]
      by_cases hnil : groupedAs baseType k terms = [] <;> simp [hnil]
    · rw [if_neg (Ne.symm hk), if_neg hk, List.append_nil]

theorem grouped_of_mem {g : String × List String} (hg : g ∈ groupTerms baseType terms) :
    groupedAs baseType g.1 terms ≠ [] ∧ g.2 = (groupedAs baseType g.1 terms).map (·.element) := by
  have hget := (sorted_groupTerms baseType terms).get?_of_mem hg
  rw [get?_groupTerms] at hget
  split at hget
  · cases hget
  · rename_i hsome
    exact ⟨hsome, (Option.some.inj hget).symm⟩

theorem of_mem_groupTerms (hterms : ∀ t ∈ terms, t.damageType ≠ "") {g : String × List String}
    (hg : g ∈ groupTerms baseType terms) : (∃ t ∈ terms, t.damageType = g.1) ∧
      g.2 = (ofType g.1 terms).map (·.element) := by
  obtain ⟨hsome, helements⟩ := grouped_of_mem hg
  rw [groupedAs_eq_ofType baseType hterms] at hsome helements
  exact ⟨exists_of_ofType_ne_nil hsome, helements⟩

theorem mem_types_groupTerms {k : String} : k ∈ (groupTerms baseType terms).map (·.1) ↔
    groupedAs baseType k terms ≠ [] := by
  constructor
  · intro h
    obtain ⟨g, hg, rfl⟩ := List.mem_map.mp h
    exact (grouped_of_mem hg).1
  · intro h
    have hget := get?_groupTerms baseType k terms
    rw [if_neg h] at hget
    exact List.mem_map.mpr ⟨_, Entries.mem_of_get? hget, rfl⟩

theorem exists_mem_groupTerms (hterms : ∀ t ∈ terms, t.damageType ≠ "") {t : Term}
    (ht : t ∈ terms) : ∃ g ∈ groupTerms baseType terms, g.1 = t.damageType := by
  have hmem : t ∈ ofType t.damageType terms := List.mem_filter.mpr ⟨ht, beq_self_eq_true _⟩
  refine List.mem_map.mp (mem_types_groupTerms.mpr ?_)
  rw [groupedAs_eq_ofType baseType hterms]
  exact List.ne_nil_of_mem hmem

/-- The damage types of terms come in an order of their own, so terms have the same types in the
same order if they have them at all. -/
theorem types_groupTerms_congr {us : List Term}
    (h : ∀ k, groupedAs baseType k terms = [] ↔ groupedAs baseType k us = []) :
    (groupTerms baseType terms).map (·.1) = (groupTerms baseType us).map (·.1) := by
  have hmem (k : String) : k ∈ (groupTerms baseType terms).map (·.1) ↔
      k ∈ (groupTerms baseType us).map (·.1) := by
    rw [mem_types_groupTerms, mem_types_groupTerms, ne_eq, ne_eq, h]
  have hperm := (List.perm_ext_iff_of_nodup (nodup_groupTerms baseType terms)
    (nodup_groupTerms baseType us)).mpr hmem
  exact hperm.eq_of_pairwise (fun _ _ _ _ hk hk' => absurd rfl (hk.trans hk').ne)
    (ordered_types baseType terms) (ordered_types baseType us)

end Encounter.Pool
