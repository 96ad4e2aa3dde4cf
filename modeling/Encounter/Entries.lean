namespace Encounter.Entries

variable {α : Type}

def get? (xs : List (String × α)) (k : String) : Option α := (xs.find? fun e => e.1 == k).map (·.2)

def has (xs : List (String × α)) (k : String) : Bool := xs.any fun e => e.1 == k

/-- A key that is there keeps its place. -/
def put (xs : List (String × α)) (k : String) (a : α) : List (String × α) :=
  if has xs k then xs.map fun e => if e.1 == k then (k, a) else e else xs ++ [(k, a)]

def merge (xs ys : List (String × α)) : List (String × α) :=
  ys.foldl (fun acc e => put acc e.1 e.2) xs

def ofList (xs : List (String × α)) : List (String × α) := merge [] xs

def erase (xs : List (String × α)) (k : String) : List (String × α) := xs.filter fun e => e.1 != k

def mapValues {β : Type} (f : α → β) (xs : List (String × α)) : List (String × β) :=
  xs.map fun e => (e.1, f e.2)

def total (xs : List (String × Int)) : Int := xs.foldr (fun e acc => e.2 + acc) 0

@[simp] theorem get?_nil (k : String) : get? ([] : List (String × α)) k = none := rfl

theorem get?_cons (e : String × α) (xs : List (String × α)) (k : String) :
    get? (e :: xs) k = if e.1 = k then some e.2 else get? xs k := by
  by_cases h : e.1 = k <;> simp [get?, h]

theorem get?_append (xs ys : List (String × α)) (k : String) :
    get? (xs ++ ys) k = (get? xs k).or (get? ys k) := by
  induction xs with
  | nil => rfl
  | cons e xs ih => by_cases h : e.1 = k <;> simp [get?_cons, h, ih]

theorem mem_of_get? {xs : List (String × α)} {k : String} {a : α} (h : get? xs k = some a) :
    (k, a) ∈ xs := by
  obtain ⟨e, he, rfl⟩ := Option.map_eq_some_iff.mp h
  have hk : e.1 = k := by simpa using List.find?_some he
  exact hk ▸ List.mem_of_find?_eq_some he

theorem has_eq_isSome (xs : List (String × α)) (k : String) : has xs k = (get? xs k).isSome := by
  induction xs with
  | nil => rfl
  | cons e xs ih => by_cases h : e.1 = k <;> simp_all [get?_cons, has]

theorem mem_keys_iff {xs : List (String × α)} {k : String} :
    k ∈ xs.map (·.1) ↔ (get? xs k).isSome = true := by
  rw [← has_eq_isSome, has, List.any_eq_true, List.mem_map]
  exact exists_congr fun e => and_congr_right fun _ => beq_iff_eq.symm

theorem get?_replace (xs : List (String × α)) (j k : String) (a : α) :
    get? (xs.map fun e => if e.1 == k then (k, a) else e) j =
      if j = k then (get? xs k).map fun _ => a else get? xs j := by
  induction xs with
  | nil => simp
  | cons e xs ih => by_cases he : e.1 = k <;> by_cases hj : j = k <;> grind [get?_cons]

theorem get?_put (xs : List (String × α)) (j k : String) (a : α) :
    get? (put xs k a) j = if j = k then some a else get? xs j := by
  have hk := has_eq_isSome xs k
  unfold put
  split
  · rw [get?_replace]
    cases hg : get? xs k <;> simp_all
  · rw [get?_append, get?_cons, get?_nil]
    by_cases hj : j = k
    · subst hj
      cases hg : get? xs j <;> simp_all
    · simp [hj, Ne.symm hj]

theorem get?_merge {ys : List (String × α)} (hys : (ys.map (·.1)).Nodup) (xs : List (String × α))
    (k : String) : get? (merge xs ys) k = (get? ys k).or (get? xs k) := by
  induction ys generalizing xs with
  | nil => rfl
  | cons e ys ih =>
    obtain ⟨he, hys⟩ := List.nodup_cons.mp hys
    have hcons : merge xs (e :: ys) = merge (put xs e.1 e.2) ys := rfl
    rw [hcons, ih hys, get?_put, get?_cons]
    by_cases hk : e.1 = k
    · subst hk
      have hnone : get? ys e.1 = none := by
        rw [← Option.not_isSome_iff_eq_none, ← mem_keys_iff]
        exact he
      rw [hnone, if_pos rfl, if_pos rfl]
      rfl
    · rw [if_neg (Ne.symm hk), if_neg hk]

theorem get?_ofList {xs : List (String × α)} (hxs : (xs.map (·.1)).Nodup) (k : String) :
    get? (ofList xs) k = get? xs k := by
  rw [ofList, get?_merge hxs, get?_nil, Option.or_none]

theorem mem_put {xs : List (String × α)} {k : String} {a : α} {e : String × α}
    (h : e ∈ put xs k a) : e = (k, a) ∨ e ∈ xs := by
  unfold put at h
  split at h
  · obtain ⟨e', he', rfl⟩ := List.mem_map.mp h
    split
    · exact .inl rfl
    · exact .inr he'
  · obtain he | he := List.mem_append.mp h
    · exact .inr he
    · exact .inl (List.mem_singleton.mp he)

theorem put_put (xs : List (String × α)) (k : String) (a b : α) :
    put (put xs k a) k b = put xs k b := by
  unfold put
  cases hk : has xs k with
  | true =>
    have hm : has (xs.map fun e => if e.1 == k then (k, a) else e) k = true := by
      obtain ⟨e, he, hek⟩ := List.any_eq_true.mp hk
      exact List.any_eq_true.mpr ⟨(k, a), List.mem_map.mpr ⟨e, he, by simp [hek]⟩, by simp⟩
    simp only [if_true, hm, List.map_map]
    refine List.map_congr_left fun e _ => ?_
    by_cases h : e.1 = k <;> simp [h]
  | false =>
    have ha : has (xs ++ [(k, a)]) k = true := by simp [has]
    have hm : xs.map (fun e => if e.1 == k then (k, b) else e) = xs := by
      refine (List.map_congr_left fun e he => ?_).trans (List.map_id xs)
      have hne : (e.1 == k) = false := by
        simpa using List.any_eq_false.mp hk e he
      simp [hne]
    simp only [if_false, if_true, Bool.false_eq_true, ha, List.map_append, hm]
    simp

theorem keys_put (xs : List (String × α)) (k : String) (a : α) :
    (put xs k a).map (·.1) = if has xs k then xs.map (·.1) else xs.map (·.1) ++ [k] := by
  unfold put
  split
  · rw [List.map_map]
    refine List.map_congr_left fun e _ => ?_
    by_cases h : e.1 = k <;> simp [h]
  · simp

theorem put_ne_nil (xs : List (String × α)) (k : String) (a : α) : put xs k a ≠ [] := by
  intro h
  have hg := get?_put xs k k a
  rw [h, if_pos rfl] at hg
  cases hg

theorem merge_ne_nil {xs : List (String × α)} (h : xs ≠ []) (ys : List (String × α)) :
    merge xs ys ≠ [] := by
  induction ys generalizing xs with
  | nil => exact h
  | cons e ys ih => exact ih (put_ne_nil xs e.1 e.2)

@[simp] theorem isEmpty_ofList (xs : List (String × α)) : (ofList xs).isEmpty = xs.isEmpty := by
  cases xs with
  | nil => rfl
  | cons e xs => exact List.isEmpty_eq_false_iff.mpr (merge_ne_nil (put_ne_nil [] e.1 e.2) xs)

theorem get?_mapValues {β : Type} (f : α → β) (xs : List (String × α)) (k : String) :
    get? (mapValues f xs) k = (get? xs k).map f := by
  induction xs with
  | nil => rfl
  | cons e xs ih =>
    rw [mapValues, List.map_cons, get?_cons, get?_cons, ← mapValues, ih]
    split <;> rfl

end Encounter.Entries
