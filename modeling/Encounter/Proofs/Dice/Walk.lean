import Encounter.Proofs.Dice.Keepless

namespace Encounter.Dice

variable {n : Node}

theorem mem_thrown_iff {d : Die} : d ∈ n.thrown ↔ ∃ kept size faces,
    (kept, .dice size faces) ∈ n.parts true ∧ ∃ f ∈ faces, d = ⟨kept && f.1, size, f.2⟩ := by
  rw [Node.thrown, List.mem_flatMap]
  constructor
  · rintro ⟨⟨kept, m⟩, hpart, hd⟩
    cases m with
    | dice size faces =>
      obtain ⟨f, hf, rfl⟩ := List.mem_map.mp hd
      exact ⟨kept, size, faces, hpart, f, hf, rfl⟩
    | _ => cases hd
  · rintro ⟨kept, size, faces, hpart, f, hf, rfl⟩
    exact ⟨_, hpart, List.mem_map_of_mem hf⟩

theorem sublist_thrown (n : Node) :
    ((n.thrown.filter (·.kept)).map (·.face)).Sublist (n.throws.map (·.2)) := by
  rw [← n.sized_thrown, List.map_map]
  exact List.filter_sublist.map _

theorem filter_thrown_of_kept (h : ∀ d ∈ n.thrown, d.kept = true) :
    (n.thrown.filter (·.kept)).map (·.face) = n.throws.map (·.2) := by
  rw [← n.sized_thrown, List.map_map, List.filter_eq_self.mpr h]
  rfl

theorem find?_isNatural_eq_none_iff (hlive : n.Live) : n.thrown.find? Die.isNatural = none ↔
    ∀ faces, (true, .dice 20 faces) ∈ n.parts true → faces = [] := by
  rw [List.find?_eq_none]
  constructor
  · intro hnone faces hpart
    by_contra hne
    obtain ⟨⟨kept, face⟩, hf, rfl⟩ := hlive.of_mem_parts _ hpart hne
    exact hnone _ (mem_thrown_iff.mpr ⟨true, 20, faces, hpart, _, hf, rfl⟩) rfl
  · intro hempty d hd hnatural
    obtain ⟨kept, size, faces, hpart, f, hf, rfl⟩ := mem_thrown_iff.mp hd
    obtain ⟨hkept, hsize⟩ := Bool.and_eq_true_iff.mp hnatural
    obtain rfl := (Bool.and_eq_true_iff.mp hkept).1
    obtain rfl := beq_iff_eq.mp hsize
    rw [hempty faces hpart] at hf
    cases hf

/-- What an outcome reports of an expression and of what was rolled for it. -/
structure Outcome.Walked (o : Outcome) (formula : String) (faces : Faces) (e : Expr) (n : Node) :
    Prop where
  /-- How many faces are taken from a stream is said by the formula. -/
  taken : ∀ g, (evaluate formula g).2 = g.skip e.sizes.length
  thrown : n.thrown.map Die.sized = faces.thrown e.sizes
  bounds : ∀ d ∈ n.thrown, 1 ≤ d.face ∧ d.face ≤ d.size
  dice : o.dice = (n.thrown.filter (·.kept)).map (·.face)
  inOrder : o.dice.Sublist ((faces.thrown e.sizes).map (·.2))
  /-- Without selectors and keeps all faces are reported. -/
  all : CallFree false (spaceless formula) → (∀ k, .keep k ∉ Token.scan none (spaceless formula)) →
    o.dice = (faces.thrown e.sizes).map (·.2)
  natural : o.natural = (n.thrown.find? Die.isNatural).map fun d => (d.face : Int)
  /-- There is no natural face just if all kept twenty-sided dice groups are empty. -/
  unnatural : o.natural = none ↔ ∀ xs, (true, .dice 20 xs) ∈ n.parts true → xs = []
  shown : ∀ x, o.natural = some x → ∃ face ∈ o.dice, x = (face : Int) ∧ 1 ≤ face ∧ face ≤ 20
  totals : ∀ name, Entries.get? o.totalsByType name =
    if name ∈ n.namedTotals.map (·.1) then some (amountOf n.namedTotals name) else none
  names : (o.totalsByType.map (·.1)).Nodup

section Evaluate

variable {formula : String} {faces faces' : Faces} {e : Expr} {o : Outcome}

/-- A formula takes the faces of its dice, whether or not its total can be written. -/
theorem evaluate_taken (hread : readFormula formula = .ok e) (hsides : e.HasSides)
    (hcount : e.diceCount ≤ diceLimit) (g : Faces) :
    (evaluate formula g).2 = g.skip e.sizes.length := by
  have hroll := roll_within (s := { faces := g }) e hsides (by simpa using hcount)
  unfold evaluate
  rw [hread, e.length_sizes]
  simp only [hroll]
  rfl

theorem diceCount_le_of_evaluate (hread : readFormula formula = .ok e) (hsides : e.HasSides)
    (h : evaluate formula faces = (.ok o, faces')) : e.diceCount ≤ diceLimit := by
  by_contra hcount
  have hfail := evaluate_beyond hread hsides (Nat.lt_of_not_le hcount) faces
  rw [h] at hfail
  cases hfail

theorem exists_face_of_natural (hbounds : ∀ d ∈ n.thrown, 1 ≤ d.face ∧ d.face ≤ d.size) {x : Int}
    (h : (n.thrown.find? Die.isNatural).map (fun d => (d.face : Int)) = some x) :
    ∃ face : Nat, face ∈ (n.thrown.filter (·.kept)).map (·.face) ∧
      x = face ∧ 1 ≤ face ∧ face ≤ 20 := by
  obtain ⟨d, hd, rfl⟩ := Option.map_eq_some_iff.mp h
  have hmem := List.mem_of_find?_eq_some hd
  have hpred : d.isNatural = true := List.find?_some hd
  obtain ⟨hkept, hsize⟩ := Bool.and_eq_true_iff.mp hpred
  refine ⟨d.face, List.mem_map_of_mem (List.mem_filter.mpr ⟨hmem, hkept⟩), rfl, ?_⟩
  rw [← beq_iff_eq.mp hsize]
  exact hbounds d hmem

theorem get?_totalsByType (formula : String) (n : Node) (name : String) :
    Entries.get? (Outcome.ofNode formula n).totalsByType name =
      if name ∈ n.namedTotals.map (·.1) then some (amountOf n.namedTotals name) else none := by
  rw [totals_eq_named, get?_addTotals]
  refine if_congr Iff.rfl (congrArg some ?_) rfl
  exact Int.zero_add _

theorem walked_shown (hread : readFormula formula = .ok e) (hsides : e.HasSides)
    (hcount : e.diceCount ≤ diceLimit) (faces : Faces) :
    (Outcome.ofNode formula (e.shown faces)).Walked formula faces e (e.shown faces) := by
  have hthrows := throws_shown faces e
  have hbounds : ∀ d ∈ (e.shown faces).thrown, 1 ≤ d.face ∧ d.face ≤ d.size := by
    intro d hd
    have hmem : d.sized ∈ faces.thrown e.sizes := by
      rw [← hthrows, ← Node.sized_thrown]
      exact List.mem_map_of_mem hd
    exact Faces.bounds_of_mem_thrown (Expr.pos_of_mem_sizes hsides) hmem
  have hdice := dice_eq_thrown formula (e.shown faces)
  have hnatural := natural_eq_thrown formula (e.shown faces)
  have hnodup : (([] : List (String × Int)).map (·.1)).Nodup := List.nodup_nil
  exact {
    taken := evaluate_taken hread hsides hcount
    thrown := (Node.sized_thrown _).trans hthrows
    bounds := hbounds
    dice := hdice
    inOrder := by
      rw [hdice, ← hthrows]
      exact sublist_thrown _
    all := fun hcalls hkeeps => by
      have hkept := kept_of_keepless faces (keepless_of_readFormula hread hcalls hkeeps)
      rw [hdice, ← hthrows, filter_thrown_of_kept hkept]
    natural := hnatural
    unnatural := by
      rw [hnatural, Option.map_eq_none_iff]
      exact find?_isNatural_eq_none_iff (live_shown faces e)
    shown := fun x hx => by
      rw [hdice]
      exact exists_face_of_natural hbounds (hnatural.symm.trans hx)
    totals := get?_totalsByType formula _
    names := by
      rw [totals_eq_named]
      exact nodup_addTotals hnodup _ }

/-- Whatever a formula is evaluated to, its outcome reports what its expression rolls. -/
theorem evaluate_walked (h : evaluate formula faces = (.ok o, faces')) : ∃ e n,
    readFormula formula = .ok e ∧ (e.roll.run.run { faces }).1 = .ok n ∧
      o.Walked formula faces e n := by
  obtain ⟨e, hread, hsides, rfl, -, -⟩ := exists_of_evaluate h
  have hcount := diceCount_le_of_evaluate hread hsides h
  have hroll := roll_within (s := { faces }) e hsides (by simpa using hcount)
  exact ⟨e, e.shown faces, hread, congrArg Prod.fst hroll, walked_shown hread hsides hcount faces⟩

end Evaluate

def breath : String := "max(1d20[fire], 1d20[Cold]) + 2d6[force]"

theorem evaluate_walked_breath : ∃ o e n,
    evaluate breath (.cycle #[3, 5, 14, 9]) = (.ok o, (Faces.cycle #[3, 5, 14, 9]).skip 4) ∧
    o.Walked breath (.cycle #[3, 5, 14, 9]) e n ∧ e.sizes = [20, 20, 6, 6] ∧
    o.dice = [5, 2, 3] ∧ o.natural = some 5 ∧ o.totalsByType = [("cold", 5), ("force", 5)] := by
  have hread : readFormula breath = .ok (.binary .plus
    (.group [.highest] [.labelled "[fire]".toList (.dice 1 20),
      .labelled "[Cold]".toList (.dice 1 20)]) (.labelled "[force]".toList (.dice 2 6))) := rfl
  have hfits : Numeral.Fits (Numeral.value ['1', '0']) :=
    Numeral.fits_of_readDigits (if_pos (Nat.le_of_ble_eq_true rfl))
  have heval : evaluate breath (.cycle #[3, 5, 14, 9]) = _ :=
    evaluate_eq_ok hread ⟨⟨fun _ => by decide, fun _ => by decide, trivial⟩, fun _ => by decide⟩
      (by decide) hfits
  obtain ⟨e, n, hread', -, hwalked⟩ := evaluate_walked heval
  obtain rfl := Except.ok.inj (hread.symm.trans hread')
  exact ⟨_, _, n, heval, hwalked, rfl, rfl, rfl, rfl⟩

end Encounter.Dice
