import Encounter.Proofs.Dice.Parts

namespace Encounter.Dice

namespace Expr

mutual

/-- The sizes of the dice of an expression, in the order in which they are rolled. -/
def sizes : Expr → List Nat
  | number _ => []
  | dice count size => List.replicate count size
  | unary _ e => e.sizes
  | binary _ l r => l.sizes ++ r.sizes
  | group _ ms => membersSizes ms
  | labelled _ e => e.sizes

def membersSizes : List Expr → List Nat
  | [] => []
  | e :: rest => e.sizes ++ membersSizes rest

end

mutual

theorem length_sizes : ∀ e : Expr, e.sizes.length = e.diceCount
  | number _ => rfl
  | dice _ _ => List.length_replicate
  | unary _ e => length_sizes e
  | binary _ l r => List.length_append.trans (congrArg₂ (· + ·) (length_sizes l) (length_sizes r))
  | group _ ms => length_membersSizes ms
  | labelled _ e => length_sizes e

theorem length_membersSizes : ∀ ms : List Expr, (membersSizes ms).length = membersCount ms
  | [] => rfl
  | e :: rest =>
    List.length_append.trans (congrArg₂ (· + ·) (length_sizes e) (length_membersSizes rest))

end

mutual

theorem pos_of_mem_sizes : ∀ {e : Expr}, e.HasSides → ∀ size ∈ e.sizes, 0 < size
  | number _, _ => fun _ h => nomatch h
  | dice _ _, hsides => fun _ h => by
    obtain ⟨hcount, rfl⟩ := List.mem_replicate.mp h
    exact hsides (Nat.pos_of_ne_zero hcount)
  | unary _ e, hsides => pos_of_mem_sizes (e := e) hsides
  | binary _ _ _, hsides =>
    List.forall_mem_append.mpr ⟨pos_of_mem_sizes hsides.1, pos_of_mem_sizes hsides.2⟩
  | group _ ms, hsides => pos_of_mem_membersSizes (hsides : MembersHaveSides ms)
  | labelled _ e, hsides => pos_of_mem_sizes (e := e) hsides

theorem pos_of_mem_membersSizes : ∀ {ms : List Expr}, MembersHaveSides ms →
    ∀ size ∈ membersSizes ms, 0 < size
  | [], _ => fun _ h => nomatch h
  | _ :: _, hsides =>
    List.forall_mem_append.mpr ⟨pos_of_mem_sizes hsides.1, pos_of_mem_membersSizes hsides.2⟩

end

end Expr

namespace Faces

def thrown : List Nat → Faces → List (Nat × Nat)
  | [], _ => []
  | size :: sizes, f => (size, f.face size) :: thrown sizes (f.skip 1)

theorem thrown_append (xs ys : List Nat) (f : Faces) :
    thrown (xs ++ ys) f = thrown xs f ++ thrown ys (f.skip xs.length) := by
  induction xs generalizing f with
  | nil => rfl
  | cons size xs ih =>
    rw [List.cons_append, thrown, ih, skip_skip, thrown, List.length_cons, Nat.add_comm 1]
    rfl

theorem next_succ (f : Faces) (count size : Nat) :
    f.next (count + 1) size = f.face size :: (f.skip 1).next count size := by
  rw [next, List.range_succ_eq_map, List.map_cons, List.map_map, next]
  refine congrArg _ (List.map_congr_left fun i _ => ?_)
  rw [Function.comp_apply, Nat.succ_eq_add_one, Nat.add_comm i 1, ← Nat.add_assoc]
  rfl

theorem thrown_replicate (count size : Nat) (f : Faces) :
    thrown (List.replicate count size) f = (f.next count size).map fun n => (size, n) := by
  induction count generalizing f with
  | zero => rfl
  | succ count ih => rw [List.replicate_succ, thrown, ih, next_succ, List.map_cons]

theorem bounds_of_mem_thrown {sizes : List Nat} (hsizes : ∀ size ∈ sizes, 0 < size) {f : Faces}
    {d : Nat × Nat} (hd : d ∈ thrown sizes f) : 1 ≤ d.2 ∧ d.2 ≤ d.1 := by
  induction sizes generalizing f with
  | nil => cases hd
  | cons size sizes ih =>
    obtain ⟨hsize, hsizes⟩ := List.forall_mem_cons.mp hsizes
    obtain rfl | hd := List.mem_cons.mp hd
    · exact f.face_bounds hsize
    · exact ih hsizes hd

end Faces

namespace Node

mutual

def throws : Node → List (Nat × Nat)
  | number _ => []
  | dice size faces => faces.map fun f => (size, f.2)
  | unary _ e => e.throws
  | binary _ l r => l.throws ++ r.throws
  | group _ ms => membersThrows ms
  | labelled _ e => e.throws

def membersThrows : List (Bool × Node) → List (Nat × Nat)
  | [] => []
  | (_, n) :: rest => n.throws ++ membersThrows rest

end

mutual

theorem throws_parts (kept : Bool) :
    ∀ n : Node, ((n.parts kept).flatMap Die.ofPart).map Die.sized = n.throws
  | number _ => rfl
  | dice size faces => by
    rw [parts, List.flatMap_singleton, Die.ofPart, List.map_map]
    rfl
  | unary _ e => throws_parts kept e
  | binary s l r => by
    have hself : Die.ofPart (kept, binary s l r) = [] := rfl
    rw [parts, List.flatMap_cons, hself, List.nil_append, List.flatMap_append, List.map_append,
      throws_parts kept l, throws_parts kept r, throws]
  | group _ ms => membersThrows_parts kept ms
  | labelled _ e => throws_parts kept e

theorem membersThrows_parts (kept : Bool) : ∀ ms : List (Bool × Node),
    ((membersParts kept ms).flatMap Die.ofPart).map Die.sized = membersThrows ms
  | [] => rfl
  | (k, n) :: rest => by
    rw [membersParts, List.flatMap_append, List.map_append, throws_parts (kept && k) n,
      membersThrows_parts kept rest, membersThrows]

end

theorem sized_thrown (n : Node) : n.thrown.map Die.sized = n.throws := n.throws_parts true

theorem membersThrows_eq_flatMap (ms : List (Bool × Node)) :
    membersThrows ms = (ms.map (·.2)).flatMap throws := by
  induction ms with
  | nil => rfl
  | cons m ms ih =>
    rw [List.map_cons, List.flatMap_cons, ← ih]
    rfl

end Node

section Keeps

variable {α : Type} {ks : List Keep} (total : α → Int) {xs : List (Bool × α)}

theorem map_snd_keepPicked (ks : List Keep) (xs : List (Bool × α)) :
    (keepPicked ks total xs).map (·.2) = xs.map (·.2) := by
  refine List.ext_getElem (by simp [keepPicked]) fun i _ _ => ?_
  simp [keepPicked]

theorem bestFrom_mem (k : Keep) (xs : List (Bool × Int)) (i : Nat) (best : Option (Nat × Int)) :
    (bestFrom k i best xs = best ∧ (best = none → ∀ x ∈ xs, x.1 = false)) ∨
      ∃ j n, xs[j]? = some (true, n) ∧ bestFrom k i best xs = some (i + j, n) := by
  induction xs generalizing i best with
  | nil => exact .inl ⟨rfl, fun _ _ h => nomatch h⟩
  | cons x xs ih =>
    obtain ⟨kept, n⟩ := x
    rw [bestFrom]
    split
    · rename_i hbetter
      obtain rfl : kept = true := (Bool.and_eq_true_iff.mp hbetter).1
      obtain ⟨hstay, -⟩ | ⟨j, m, hj, hgo⟩ := ih (i + 1) (some (i, n))
      · exact .inr ⟨0, n, rfl, hstay⟩
      · exact .inr ⟨j + 1, m, hj, by rw [hgo, Nat.add_assoc, Nat.add_comm 1]⟩
    · rename_i hbetter
      obtain ⟨hstay, hnone⟩ | ⟨j, m, hj, hgo⟩ := ih (i + 1) best
      · refine .inl ⟨hstay, fun hbest => List.forall_mem_cons.mpr ⟨?_, hnone hbest⟩⟩
        subst hbest
        simpa using hbetter
      · exact .inr ⟨j + 1, m, hj, by rw [hgo, Nat.add_assoc, Nat.add_comm 1]⟩

theorem exists_kept_keepPicked (hks : ks ≠ []) (h : ∃ x ∈ xs, x.1 = true) :
    ∃ x ∈ keepPicked ks total xs, x.1 = true := by
  obtain ⟨x, hx, hkept⟩ := h
  obtain ⟨k, ks, rfl⟩ := List.exists_cons_of_ne_nil hks
  obtain ⟨-, hnone⟩ | ⟨j, n, hj, hbest⟩ :=
    bestFrom_mem k (xs.map fun x => (x.1, total x.2)) 0 none
  · have hdropped := hnone rfl _ (List.mem_map_of_mem hx)
    exact absurd (hkept.symm.trans hdropped) (by decide)
  · rw [List.getElem?_map] at hj
    obtain ⟨y, hy, heq⟩ := Option.map_eq_some_iff.mp hj
    have hget : (keepPicked (k :: ks) total xs)[j]? = some (true, y.2) := by
      rw [keepPicked]
      simp only [List.getElem?_mapIdx, hy, Option.map_some, List.filterMap_cons, hbest,
        Nat.zero_add, List.contains_cons, beq_self_eq_true, Bool.true_or, Bool.and_true]
      rw [(Prod.mk.inj heq).1]
    exact ⟨_, List.mem_of_getElem? hget, rfl⟩

end Keeps

namespace Node

theorem throws_keep (ks : List Keep) : ∀ n : Node, (n.keep ks).throws = n.throws
  | dice size faces => by
    have hfaces := map_snd_keepPicked (fun n : Nat => (n : Int)) ks faces
    have hsized (xs : List (Bool × Nat)) :
        (dice size xs).throws = (xs.map (·.2)).map fun n => (size, n) := by
      rw [List.map_map]
      rfl
    rw [keep, hsized, hsized, hfaces]
  | group js [] => rfl
  | group js [(kept, e)] => by
    rw [keep, throws, membersThrows, throws_keep ks e]
    rfl
  | group js (m :: m' :: ms) => by
    have hnodes := map_snd_keepPicked total ks (m :: m' :: ms)
    rw [keep, throws, throws, membersThrows_eq_flatMap, membersThrows_eq_flatMap, hnodes]
    exact fun _ _ h => nomatch h
  | labelled t e => throws_keep ks e
  | number _ => rfl
  | unary _ _ => rfl
  | binary _ _ _ => rfl

mutual

/-- Of all dice that are rolled together at least one is kept. -/
def Live : Node → Prop
  | number _ => True
  | dice _ faces => faces ≠ [] → ∃ f ∈ faces, f.1 = true
  | unary _ e => e.Live
  | binary _ l r => l.Live ∧ r.Live
  | group _ ms => MembersLive ms
  | labelled _ e => e.Live

def MembersLive : List (Bool × Node) → Prop
  | [] => True
  | (_, n) :: rest => n.Live ∧ MembersLive rest

end

theorem membersLive_iff (ms : List (Bool × Node)) :
    MembersLive ms ↔ ∀ n ∈ ms.map (·.2), n.Live := by
  induction ms with
  | nil => exact iff_of_true trivial fun _ h => nomatch h
  | cons m ms ih =>
    rw [List.map_cons, List.forall_mem_cons, ← ih]
    rfl

theorem Live.keep {ks : List Keep} (hks : ks ≠ []) : ∀ {n : Node}, n.Live → (n.keep ks).Live
  | dice _ faces, h => by
    intro hne
    refine exists_kept_keepPicked _ hks (h ?_)
    rintro rfl
    exact hne rfl
  | group _ [], h => h
  | group _ [(_, _)], h => ⟨h.1.keep hks, trivial⟩
  | group _ (m :: m' :: ms), h => by
    rw [Node.keep]
    · refine (membersLive_iff _).mpr ?_
      rw [map_snd_keepPicked]
      exact (membersLive_iff _).mp h
    · exact fun _ _ h => nomatch h
  | labelled _ e, h => Live.keep (n := e) hks h
  | number _, h => h
  | unary _ _, h => h
  | binary _ _ _, h => h

mutual

theorem Live.of_mem_parts {kept : Bool} : ∀ {n : Node}, n.Live → ∀ p ∈ n.parts kept, p.2.Live
  | number _, h => List.forall_mem_singleton.mpr h
  | dice _ _, h => List.forall_mem_singleton.mpr h
  | unary _ e, h => List.forall_mem_cons.mpr ⟨h, Live.of_mem_parts (n := e) h⟩
  | binary _ _ _, h => List.forall_mem_cons.mpr
    ⟨h, List.forall_mem_append.mpr ⟨h.1.of_mem_parts, h.2.of_mem_parts⟩⟩
  | group _ ms, h => List.forall_mem_cons.mpr ⟨h, MembersLive.of_mem_parts (h : MembersLive ms)⟩
  | labelled _ e, h => List.forall_mem_cons.mpr ⟨h, Live.of_mem_parts (n := e) h⟩

theorem MembersLive.of_mem_parts {kept : Bool} : ∀ {ms : List (Bool × Node)}, MembersLive ms →
    ∀ p ∈ membersParts kept ms, p.2.Live
  | [], _ => fun _ h => nomatch h
  | _ :: _, h => List.forall_mem_append.mpr ⟨h.1.of_mem_parts, MembersLive.of_mem_parts h.2⟩

end

end Node

mutual

/-- What is shown are the faces of the stream, die by die. -/
theorem throws_shown (f : Faces) : ∀ e : Expr, (e.shown f).throws = f.thrown e.sizes
  | .number _ => rfl
  | .dice count size => by
    rw [Expr.shown, Expr.sizes, Faces.thrown_replicate, Node.throws, List.map_map]
    rfl
  | .unary _ e => throws_shown f e
  | .binary _ l r => by
    rw [Expr.shown, Node.throws, throws_shown f l, throws_shown _ r, Expr.sizes,
      Faces.thrown_append, Expr.length_sizes]
  | .group ks ms => by
    rw [Expr.shown]
    split
    · exact throws_shownMembers f ms
    · exact (Node.throws_keep ks _).trans (throws_shownMembers f ms)
  | .labelled _ e => throws_shown f e

theorem throws_shownMembers (f : Faces) : ∀ ms : List Expr,
    Node.membersThrows (Expr.shownMembers f ms) = f.thrown (Expr.membersSizes ms)
  | [] => rfl
  | e :: rest => by
    rw [Expr.shownMembers, Node.membersThrows, throws_shown f e, throws_shownMembers _ rest,
      Expr.membersSizes, Faces.thrown_append, Expr.length_sizes]

end

mutual

theorem live_shown (f : Faces) : ∀ e : Expr, (e.shown f).Live
  | .number _ => trivial
  | .dice count size => by
    intro hne
    obtain ⟨x, xs, hx⟩ := List.exists_cons_of_ne_nil hne
    have hmem : x ∈ (f.next count size).map fun n => (true, n) := hx ▸ List.mem_cons_self
    obtain ⟨n, -, rfl⟩ := List.mem_map.mp hmem
    exact ⟨_, hmem, rfl⟩
  | .unary _ e => live_shown f e
  | .binary _ l r => ⟨live_shown f l, live_shown _ r⟩
  | .group ks ms => by
    rw [Expr.shown]
    split
    · exact membersLive_shown f ms
    · rename_i hks
      exact Node.Live.keep (fun h => hks (List.isEmpty_iff.mpr h)) (membersLive_shown f ms)
  | .labelled _ e => live_shown f e

theorem membersLive_shown (f : Faces) :
    ∀ ms : List Expr, Node.MembersLive (Expr.shownMembers f ms)
  | [] => trivial
  | e :: rest => ⟨live_shown f e, membersLive_shown _ rest⟩

end

end Encounter.Dice
