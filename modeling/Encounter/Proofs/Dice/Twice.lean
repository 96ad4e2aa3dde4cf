import Encounter.Proofs.Dice.Evaluate

namespace Encounter.Dice

open Token (Scans Ends)

def Keep.selector : Keep → List Char
  | highest => ['m', 'a', 'x']
  | lowest => ['m', 'i', 'n']

inductive Balanced : List Char → Prop
  | nil : Balanced []
  | char {c : Char} (hopen : c ≠ '(') (hclose : c ≠ ')') : Balanced [c]
  | append {cs ds : List Char} (hcs : Balanced cs) (hds : Balanced ds) : Balanced (cs ++ ds)
  | group {cs : List Char} (hcs : Balanced cs) : Balanced ('(' :: (cs ++ [')']))

theorem Balanced.of_notMem {cs : List Char} (hopen : '(' ∉ cs) (hclose : ')' ∉ cs) :
    Balanced cs := by
  induction cs with
  | nil => exact .nil
  | cons c cs ih =>
    rw [List.mem_cons, not_or] at hopen hclose
    exact (Balanced.char (Ne.symm hopen.1) (Ne.symm hclose.1)).append (ih hopen.2 hclose.2)

theorem Balanced.flatMap {ι : Type} {chars : ι → List Char} {xs : List ι}
    (h : ∀ x ∈ xs, Balanced (chars x)) : Balanced (xs.flatMap chars) := by
  induction xs with
  | nil => exact .nil
  | cons x xs ih =>
    obtain ⟨hx, hxs⟩ := List.forall_mem_cons.mp h
    exact hx.append (ih hxs)

section Regroup

variable {rest : List Char}

theorem regroup_cons (inWord : Bool) (stack : List (Option Keep)) {c : Char}
    (hcalls : NoCalls (c :: rest)) (hopen : c ≠ '(') (hclose : c ≠ ')') :
    Selector.regroup inWord stack (c :: rest) =
      (Selector.regroup (Text.isWordChar c) stack rest).map (c :: ·) := by
  have hstack : (if (c == ')') = true then stack.tail else stack) = stack :=
    if_neg (by simpa using hclose)
  rw [Selector.regroup, hstack]
  · exact hopen
  · rintro rest' - rfl rfl
    exact hcalls.tail.tail.before_open.1 rfl
  · rintro rest' - rfl rfl
    exact hcalls.tail.tail.before_open.2 rfl
  · exact fun _ _ _ h => hclose h

theorem regroup_open (inWord : Bool) (stack : List (Option Keep)) (rest : List Char) :
    Selector.regroup inWord stack ('(' :: rest) =
      (Selector.regroup false (none :: stack) rest).map ('(' :: ·) := by
  cases inWord <;> rw [Selector.regroup]

theorem regroup_close (inWord : Bool) (stack : List (Option Keep)) (rest : List Char) :
    Selector.regroup inWord (none :: stack) (')' :: rest) =
      (Selector.regroup (Text.isWordChar ')') stack rest).map (')' :: ·) := by
  cases inWord <;> rw [Selector.regroup] <;> simp

theorem regroup_call (stack : List (Option Keep)) (k : Keep) (rest : List Char) :
    Selector.regroup false stack (k.selector ++ '(' :: rest) =
      (Selector.regroup false (some k :: stack) rest).map ('(' :: ·) := by
  cases k <;> exact Selector.regroup.eq_def ..

theorem regroup_closeCall (inWord : Bool) (stack : List (Option Keep)) (k : Keep)
    (rest : List Char) : Selector.regroup inWord (some k :: stack) (')' :: rest) =
      (Selector.regroup false stack rest).map ((')' :: k.text) ++ ·) := by
  cases inWord <;> exact Selector.regroup.eq_def ..

theorem regroup_balanced (inWord : Bool) (stack : List (Option Keep)) {cs : List Char}
    (hcs : Balanced cs) (hcalls : NoCalls (cs ++ rest)) :
    ∃ inWord', Selector.regroup inWord stack (cs ++ rest) =
      (Selector.regroup inWord' stack rest).map (cs ++ ·) := by
  induction hcs generalizing inWord stack rest with
  | nil => exact ⟨inWord, Option.map_id'.symm⟩
  | @char c hopen hclose => exact ⟨Text.isWordChar c, regroup_cons _ _ hcalls hopen hclose⟩
  | @append cs ds _ _ ihcs ihds =>
    rw [List.append_assoc] at hcalls
    obtain ⟨inWord', hcs⟩ := ihcs inWord stack hcalls
    obtain ⟨inWord'', hds⟩ := ihds inWord' stack hcalls.right_of_append
    refine ⟨inWord'', ?_⟩
    rw [List.append_assoc, hcs, hds, Option.map_map]
    simp [Function.comp_def]
  | @group cs _ ih =>
    have hassoc : '(' :: (cs ++ [')']) ++ rest = '(' :: (cs ++ ')' :: rest) := by simp
    rw [hassoc] at hcalls ⊢
    obtain ⟨inWord', hcs⟩ := ih false (none :: stack) hcalls.tail
    refine ⟨Text.isWordChar ')', ?_⟩
    rw [regroup_open, hcs, regroup_close, Option.map_map, Option.map_map]
    simp [Function.comp_def]

/-- A selector around two texts becomes a group with a keep, whatever comes after it. -/
theorem regroup_selector (k : Keep) {cs ds : List Char} (hcs : Balanced cs) (hds : Balanced ds)
    (hcalls : NoCalls (cs ++ ',' :: (ds ++ ')' :: rest))) :
    Selector.regroup false [] (k.selector ++ '(' :: (cs ++ ',' :: (ds ++ ')' :: rest))) =
      some ('(' :: (cs ++ ',' :: (ds ++ ')' :: k.text)) ++ rest) := by
  have hrest : Selector.regroup false [] rest = some rest :=
    regroup_of_noCalls false [] rest (fun _ h => nomatch h)
      hcalls.right_of_append.tail.right_of_append.tail
  obtain ⟨inWord, hcs⟩ := regroup_balanced false [some k] hcs hcalls
  have hcomma := regroup_cons inWord [some k] hcalls.right_of_append (by decide) (by decide)
  obtain ⟨inWord', hds⟩ := regroup_balanced (Text.isWordChar ',') [some k] hds
    hcalls.right_of_append.tail
  rw [regroup_call, hcs, hcomma, hds, regroup_closeCall, hrest]
  simp

end Regroup

theorem Token.Scans.comma {cs : List Char} {ts : List Token} (h : Scans cs ts) :
    Scans (',' :: cs) (.comma :: ts) := h.word (w := [',']) fun _ => rfl

theorem Token.scans_keep (k : Keep) : Scans k.text [.keep k] := by
  intro rest _
  cases k <;> rfl

def nextMembers (css : List (List Char)) : List Char := css.flatMap (',' :: ·)

theorem nextMembers_cons (cs : List Char) (css : List (List Char)) :
    nextMembers (cs :: css) = ',' :: (cs ++ nextMembers css) := rfl

theorem nextMembers_eq_cons (css : List (List Char)) (rest : List Char) :
    ∃ d cs, nextMembers css ++ ')' :: rest = d :: cs ∧ (d = ',' ∨ d = ')') := by
  cases css with
  | nil => exact ⟨')', rest, rfl, .inr rfl⟩
  | cons cs css => exact ⟨',', _, rfl, .inl rfl⟩

theorem run_nextMembers (k : Keep) {css : List (List Char)} {es : List Expr}
    (h : List.Forall₂ IsSum css es) : ∃ ts, Scans (nextMembers css ++ ')' :: k.text) ts ∧
      ∀ phase level i l outer, phase.item? = .ok i →
        Reading.run ⟨phase, level, l :: outer⟩ ts =
          .ok ⟨.group [k] ((level.finish i :: level.members).reverse ++ es), l, outer⟩ := by
  induction h with
  | nil =>
    have hkeep : Ends k.text ∧ k.text ≠ [] := by
      cases k <;> exact ⟨Token.ends_cons (by decide) _, List.cons_ne_nil _ _⟩
    refine ⟨_, Scans.closeGroup.append (Token.scans_keep k) hkeep.1 hkeep.2,
      fun phase level i l outer hitem => ?_⟩
    have hclose : Reading.step ⟨phase, level, l :: outer⟩ .closeGroup =
        .ok ⟨.group [] (level.finish i :: level.members).reverse, l, outer⟩ :=
      Reading.step_of_item hitem rfl level (l :: outer)
    rw [List.append_nil]
    exact (Reading.run_cons hclose _).trans (Reading.run_singleton rfl)
  | @cons cs e css es hcs _ ih =>
    obtain ⟨ts, hscan, hrun⟩ := hcs
    obtain ⟨us, hscan', hrun'⟩ := ih
    obtain ⟨d, rest, hrest, hd⟩ := nextMembers_eq_cons css k.text
    have hends : Ends (nextMembers css ++ ')' :: k.text) := by
      rw [hrest]
      obtain rfl | rfl := hd <;> exact Token.ends_cons (by decide) _
    have hall := (hscan.append hscan' hends (by simp)).comma
    rw [nextMembers_cons, List.cons_append, List.append_assoc]
    refine ⟨_, hall, fun phase level i l outer hitem => ?_⟩
    have hcomma : Reading.step ⟨phase, level, l :: outer⟩ .comma =
        .ok ⟨.start, { members := level.finish i :: level.members }, l :: outer⟩ :=
      Reading.step_of_item hitem rfl level (l :: outer)
    obtain ⟨phase', level', i', hphase', hitem', hmembers, hfinish⟩ :=
      hrun (level.finish i :: level.members) (l :: outer)
    rw [Reading.run_cons hcomma, Reading.run_append hphase', hrun' _ _ _ _ _ hitem', hmembers,
      hfinish, List.reverse_cons (a := e), List.append_assoc]
    rfl

theorem IsSum.choice {cs : List Char} {css : List (List Char)} {e : Expr} {es : List Expr}
    (hcs : IsSum cs e) (hcss : List.Forall₂ IsSum css es) (k : Keep) :
    IsItem ('(' :: (cs ++ (nextMembers css ++ ')' :: k.text))) (.group [k] (e :: es)) := by
  obtain ⟨ts, hscan, hrun⟩ := hcs
  obtain ⟨us, hscan', hrun'⟩ := run_nextMembers k hcss
  obtain ⟨d, rest, hrest, hd⟩ := nextMembers_eq_cons css k.text
  have hends : Ends (nextMembers css ++ ')' :: k.text) := by
    rw [hrest]
    obtain rfl | rfl := hd <;> exact Token.ends_cons (by decide) _
  refine ⟨_, (hscan.append hscan' hends (by simp)).openGroup, fun level outer =>
    ⟨.group [k] (e :: es), ?_, rfl⟩⟩
  obtain ⟨phase, inner, i, hphase, hitem, hmembers, hfinish⟩ := hrun [] (level :: outer)
  rw [Reading.run_cons rfl, Reading.run_append hphase, hrun' _ _ _ _ _ hitem, hmembers, hfinish]
  rfl

theorem IsSum.pair {cs ds : List Char} {e f : Expr} (hcs : IsSum cs e) (hds : IsSum ds f)
    (k : Keep) : IsItem ('(' :: (cs ++ ',' :: (ds ++ ')' :: k.text))) (.group [k] [e, f]) := by
  have hchoice := hcs.choice (.cons hds .nil) k
  rwa [nextMembers, List.flatMap_singleton] at hchoice

/-- Roll an expression twice and keep the better roll. -/
def Expr.twice (k : Keep) (e : Expr) : Expr := .group [k] [e, e]

section Twice

variable {k : Keep} {e : Expr}

def Expr.keptFrom (k : Keep) (e : Expr) (f : Faces) : Faces :=
  if k.beats (e.shown (f.skip e.diceCount)).total (e.shown f).total then f.skip e.diceCount else f

theorem hasSides_twice (h : e.HasSides) : (e.twice k).HasSides := ⟨h, h, trivial⟩

/-- A selector around two copies of a text reads as rolling what the text stands for twice. -/
theorem readFormula_twice {formula : String} {cs : List Char}
    (hchars : formula.toList.filter (· != ' ') = k.selector ++ '(' :: (cs ++ ',' :: (cs ++ [')'])))
    (hbalanced : Balanced cs) (hcalls : NoCalls cs) (hsum : IsSum cs e) :
    readFormula formula = .ok (e.twice k) := by
  have hsolid : ∃ c ∈ formula.toList, Text.isBlank c = false := by
    refine ⟨'m', List.mem_of_mem_filter (p := (· != ' ')) ?_, by decide⟩
    rw [hchars]
    cases k <;> exact List.mem_cons_self
  have hpair : NoCalls (cs ++ ',' :: (cs ++ ')' :: [])) :=
    hcalls.append (NoCalls.cons (by decide) (hcalls.append (List.isChain_singleton _) (by decide)))
      (by simp)
  have hregroup := regroup_selector k hbalanced hbalanced hpair
  rw [List.append_nil, ← hchars] at hregroup
  exact readFormula_of_regroup hsolid hregroup (hsum.pair hsum k).isSum

theorem keepPicked_pair {α : Type} (k : Keep) (total : α → Int) (a b : α) :
    keepPicked [k] total [(true, a), (true, b)] =
      if k.beats (total b) (total a) then [(false, a), (true, b)] else [(true, a), (false, b)] := by
  cases h : k.beats (total b) (total a) <;> simp [keepPicked, bestFrom, h]

theorem shown_twice (f : Faces) : (e.twice k).shown f = .group [k] (
    if k.beats (e.shown (f.skip e.diceCount)).total (e.shown f).total
    then [(false, e.shown f), (true, e.shown (f.skip e.diceCount))]
    else [(true, e.shown f), (false, e.shown (f.skip e.diceCount))]) := by
  rw [← keepPicked_pair]
  rfl

theorem total_twice (f : Faces) :
    ((e.twice k).shown f).total = (e.shown (e.keptFrom k f)).total := by
  rw [shown_twice, Node.total, Expr.keptFrom]
  split <;> simp [Node.membersTotal]

theorem keptLabels_twice (f : Faces) :
    ((e.twice k).shown f).keptLabels = (e.shown (e.keptFrom k f)).keptLabels := by
  rw [shown_twice, Node.keptLabels, Expr.keptFrom]
  split <;> simp [Node.membersLabels]

theorem Annotated.twice (h : Annotated e) : Annotated (e.twice k) := by
  refine ⟨fun f => ?_, fun f => ?_⟩
  · rw [keptLabels_twice]
    exact h.names _
  · rw [keptLabels_twice, total_twice]
    exact h.total _

end Twice

end Encounter.Dice
