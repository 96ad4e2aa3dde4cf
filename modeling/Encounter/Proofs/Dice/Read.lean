import Encounter.Dice.Reader
import Encounter.Proofs.Dice.Roll
import Encounter.Proofs.Dice.Scan

namespace Encounter.Dice

open Token (Scans Ends)

namespace Reading

def run (r : Reading) (ts : List Token) : Except Trouble Reading := ts.foldlM step r

theorem run_append {r r' : Reading} {ts : List Token} (h : r.run ts = .ok r') (us : List Token) :
    r.run (ts ++ us) = r'.run us := by
  rw [run, List.foldlM_append]
  exact congrArg (fun x => x >>= fun r => r.run us) h

theorem run_singleton {r r' : Reading} {t : Token} (h : r.step t = .ok r') :
    r.run [t] = .ok r' :=
  (congrArg (fun x => x >>= fun r => pure r) h).trans rfl

theorem run_cons {r r' : Reading} {t : Token} (h : r.step t = .ok r') (ts : List Token) :
    r.run (t :: ts) = r'.run ts := run_append (run_singleton h) ts

theorem step_of_item {p : Phase} {e : Expr} (hp : p.item? = .ok e) {t : Token}
    (ht : endsItem t = true) (level : Level) (outer : List Level) :
    step ⟨p, level, outer⟩ t = stepItem ⟨p, level, outer⟩ t e := by
  have hstep : step ⟨p, level, outer⟩ t =
      if endsItem t then p.item? >>= stepItem ⟨p, level, outer⟩ t else .error .malformed := by
    cases p <;> cases t <;> first | rfl | exact absurd ht Bool.false_ne_true | cases hp
  rw [hstep, if_pos ht, hp]
  rfl

end Reading

/-- A text that stands for an item. -/
def IsItem (cs : List Char) (e : Expr) : Prop :=
  ∃ ts, Scans cs ts ∧ ∀ level outer, ∃ phase,
    Reading.run ⟨.start, level, outer⟩ ts = .ok ⟨phase, level, outer⟩ ∧ phase.item? = .ok e

def IsSum (cs : List Char) (e : Expr) : Prop :=
  ∃ ts, Scans cs ts ∧ ∀ ms outer, ∃ phase level i,
    Reading.run ⟨.start, { members := ms }, outer⟩ ts = .ok ⟨phase, level, outer⟩ ∧
      phase.item? = .ok i ∧ level.members = ms ∧ level.finish i = e

theorem readNumber_natChars {n : Nat} (h : Numeral.Fits n) :
    readNumber (Numeral.natChars n) = .ok n := by
  rw [readNumber, Numeral.readDigits_natChars h]
  rfl

theorem isItem_number {n : Nat} (h : Numeral.Fits n) : IsItem (Numeral.natChars n) (.number n) := by
  refine ⟨_, Scans.natChars n, fun level outer => ⟨.digits (Numeral.natChars n), rfl, ?_⟩⟩
  rw [Phase.item?, readNumber_natChars h]
  rfl

theorem isItem_dice {count size : Nat} (hcount : Numeral.Fits count) (hsize : Numeral.Fits size) :
    IsItem (Numeral.natChars count ++ 'd' :: Numeral.natChars size) (.dice count size) := by
  have hscan := (Scans.natChars count).append (Scans.natChars size).die
    (Token.ends_cons (by decide) _) (List.cons_ne_nil _ _)
  refine ⟨_, hscan, fun level outer =>
    ⟨.dice (Numeral.natChars count) (Numeral.natChars size), rfl, ?_⟩⟩
  have hne : (Numeral.natChars count).isEmpty = false := by
    simpa using Numeral.natChars_ne_nil count
  rw [Phase.item?, readCount, hne, if_neg Bool.false_ne_true, readNumber_natChars hcount,
    readNumber_natChars hsize]
  rfl

namespace IsItem

variable {cs : List Char} {e : Expr}

theorem isSum (h : IsItem cs e) : IsSum cs e := by
  obtain ⟨ts, hscan, hrun⟩ := h
  refine ⟨ts, hscan, fun ms outer => ?_⟩
  obtain ⟨phase, hphase, hitem⟩ := hrun { members := ms } outer
  exact ⟨phase, { members := ms }, e, hphase, hitem, rfl, rfl⟩

theorem signed (h : IsItem cs e) (s : Sign) : IsSum (s.char :: cs) (.unary s e) := by
  obtain ⟨ts, hscan, hrun⟩ := h
  refine ⟨_, hscan.sign s, fun ms outer => ?_⟩
  obtain ⟨phase, hphase, hitem⟩ := hrun { members := ms, signs := [s] } outer
  refine ⟨phase, { members := ms, signs := [s] }, e, ?_, hitem, rfl, rfl⟩
  rw [Reading.run_cons rfl]
  exact hphase

theorem labelled (h : IsItem cs e) {t : List Char} (hclose : ']' ∉ t) (hbreak : '\n' ∉ t) :
    IsItem (cs ++ '[' :: (t ++ [']'])) (e.label ('[' :: (t ++ [']']))) := by
  obtain ⟨ts, hscan, hrun⟩ := h
  have hlabel := hscan.append (Scans.label hclose hbreak) (Token.ends_cons (by decide) _)
    (List.cons_ne_nil _ _)
  refine ⟨_, hlabel, fun level outer => ?_⟩
  obtain ⟨phase, hphase, hitem⟩ := hrun level outer
  refine ⟨.item (e.label ('[' :: (t ++ [']']))), ?_, rfl⟩
  rw [Reading.run_append hphase]
  exact Reading.run_singleton (Reading.step_of_item hitem rfl level outer)

end IsItem

namespace IsSum

variable {cs ds : List Char} {e f : Expr}

theorem grouped (h : IsSum cs e) : IsItem ('(' :: (cs ++ [')'])) (.group [] [e]) := by
  obtain ⟨ts, hscan, hrun⟩ := h
  have hclosed := (hscan.append Scans.closeGroup (Token.ends_cons (by decide) _)
    (List.cons_ne_nil _ _)).openGroup
  refine ⟨_, hclosed, fun level outer => ⟨.group [] [e], ?_, rfl⟩⟩
  obtain ⟨phase, inner, i, hphase, hitem, hmembers, hfinish⟩ := hrun [] (level :: outer)
  have hstep : Reading.step ⟨phase, inner, level :: outer⟩ .closeGroup =
      .ok ⟨.group [] [e], level, outer⟩ := by
    rw [Reading.step_of_item hitem rfl]
    simp only [Reading.stepItem, hmembers, hfinish]
    rfl
  rw [Reading.run_cons rfl, Reading.run_append hphase, Reading.run_singleton hstep]

theorem add (h : IsSum cs e) (hd : IsItem ds f) (s : Sign) :
    IsSum (cs ++ s.char :: ds) (.binary s e f) := by
  obtain ⟨ts, hscan, hrun⟩ := h
  obtain ⟨us, hscan', hrun'⟩ := hd
  have hends : Ends (s.char :: ds) := Token.ends_cons (by cases s <;> decide) _
  refine ⟨_, hscan.append (hscan'.sign s) hends (List.cons_ne_nil _ _), fun ms outer => ?_⟩
  obtain ⟨phase, level, i, hphase, hitem, hmembers, hfinish⟩ := hrun ms outer
  obtain ⟨phase', hphase', hitem'⟩ := hrun' { level with left := some (e, s), signs := [] } outer
  have hstep : Reading.step ⟨phase, level, outer⟩ (.sign s) =
      .ok ⟨.start, { level with left := some (e, s), signs := [] }, outer⟩ := by
    rw [Reading.step_of_item hitem rfl, Reading.stepItem, hfinish]
  refine ⟨phase', { level with left := some (e, s), signs := [] }, f, ?_, hitem', hmembers, rfl⟩
  rw [Reading.run_append hphase, Reading.run_cons hstep, hphase']

theorem sumFrom {ι : Type} {item : ι → Expr} {chars : ι → List Char} {xs : List ι}
    (h : IsSum cs e) (sign : ι → Sign) (hxs : ∀ x ∈ xs, IsItem (chars x) (item x)) :
    IsSum (cs ++ xs.flatMap fun x => (sign x).char :: chars x) (e.sumFrom sign item xs) := by
  induction xs generalizing cs e with
  | nil => rwa [List.flatMap_nil, List.append_nil]
  | cons x xs ih =>
    obtain ⟨hx, hxs⟩ := List.forall_mem_cons.mp hxs
    have hrest := ih (h.add hx (sign x)) hxs
    rwa [List.append_assoc] at hrest

theorem read (h : IsSum cs e) : Expr.read cs = .ok e := by
  obtain ⟨ts, hscan, hrun⟩ := h
  obtain ⟨phase, level, i, hphase, hitem, -, hfinish⟩ := hrun [] []
  have hrun : ts.foldlM Reading.step {} = .ok ⟨phase, level, []⟩ := hphase
  rw [Expr.read, hscan.eq, Expr.ofTokens, hrun]
  change Reading.finish ⟨phase, level, []⟩ = .ok e
  rw [Reading.finish, hitem, ← hfinish]
  rfl

end IsSum
end Encounter.Dice
