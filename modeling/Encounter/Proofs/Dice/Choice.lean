import Encounter.Pool.Builder
import Encounter.Proofs.Dice.Parentheses
import Encounter.Proofs.Dice.Picks

namespace Encounter.Dice

/-- A selector called with some formulas. -/
def Keep.call (k : Keep) (formulas : List String) : String :=
  String.ofList k.selector ++ "(" ++ ",".intercalate formulas ++ ")"

theorem callTwice_eq_call (k : Keep) (formula : String) :
    Pool.callTwice (String.ofList k.selector) formula = k.call [formula, formula] := by
  rw [Pool.callTwice, Keep.call, String.intercalate_cons_cons, String.intercalate_singleton]
  simp only [String.append_assoc]

def spaceless (formula : String) : List Char := formula.toList.filter (· != ' ')

theorem intercalate_comma (cs : List Char) (css : List (List Char)) :
    [','].intercalate (cs :: css) = cs ++ nextMembers css := by
  induction css generalizing cs with
  | nil => rw [List.intercalate_singleton, nextMembers, List.flatMap_nil, List.append_nil]
  | cons ds css ih =>
    rw [List.intercalate_cons_cons, ih, nextMembers_cons, List.append_assoc]
    rfl

theorem filter_nextMembers (formulas : List String) :
    (nextMembers (formulas.map String.toList)).filter (· != ' ') =
      nextMembers (formulas.map spaceless) := by
  induction formulas with
  | nil => rfl
  | cons F Fs ih =>
    rw [List.map_cons, List.map_cons, nextMembers_cons, nextMembers_cons, ← ih]
    exact congrArg (',' :: ·) (List.filter_append ..)

theorem spaceless_call (k : Keep) (F : String) (Fs : List String) :
    spaceless (k.call (F :: Fs)) = k.selector ++
      '(' :: (spaceless F ++ (nextMembers (Fs.map spaceless) ++ [')'])) := by
  have hselector : k.selector.filter (· != ' ') = k.selector := by cases k <;> rfl
  have hcomma : ",".toList = [','] := rfl
  rw [spaceless, Keep.call]
  simp only [String.toList_append, String.toList_intercalate, List.map_cons, hcomma,
    intercalate_comma, List.filter_append, filter_nextMembers, String.toList_ofList, hselector,
    List.append_assoc]
  rfl

/-- A text that stands for an expression whatever is open around it. -/
structure IsMember (cs : List Char) (e : Expr) (out : List Char) : Prop where
  regroups : Regroups false [] cs out
  depth : depth 0 cs = some 0
  isSum : IsSum out e

theorem exists_of_readFormula {formula : String} {e : Expr} (h : readFormula formula = .ok e) :
    ∃ out, Selector.regroup false [] (spaceless formula) = some out ∧ Expr.read out = .ok e := by
  rw [readFormula] at h
  split at h
  · cases h
  · obtain ⟨out, hout, h⟩ := Result.bind_eq_ok h
    unfold regroupChars at hout
    split at hout
    · rename_i hregroup
      cases hout
      cases hread : Expr.read out with
      | error t =>
        rw [hread] at h
        cases h
      | ok e' =>
        rw [hread] at h
        cases h
        exact ⟨out, hregroup, hread⟩
    · cases hout

theorem exists_isMember {formula : String} {e : Expr} (hread : readFormula formula = .ok e)
    (hplain : Plain formula) :
    ∃ out, IsMember (spaceless formula) e out := by
  obtain ⟨out, hregroup, hout⟩ := exists_of_readFormula hread
  have hregroups := regroups_of_regroup false [] _ _ hregroup
  have hdepth := depth_of_read hout (hregroups.plainFrom (plainFrom_filter hplain))
  refine ⟨out, hregroups, ?_, isSum_of_read hout⟩
  rwa [← depth_parentheses, hregroups.parentheses, depth_parentheses] at hdepth

theorem exists_members {formulas : List String} {es : List Expr}
    (h : List.Forall₂ (fun F e => readFormula F = .ok e) formulas es)
    (hplain : ∀ F ∈ formulas, Plain F) :
    ∃ outs, List.Forall₂ (fun cs out => Regroups false [] cs out ∧ depth 0 cs = some 0)
        (formulas.map spaceless) outs ∧ List.Forall₂ IsSum outs es := by
  induction h with
  | nil => exact ⟨[], .nil, .nil⟩
  | cons hread _ ih =>
    obtain ⟨hF, hplain⟩ := List.forall_mem_cons.mp hplain
    obtain ⟨out, hmember⟩ := exists_isMember hread hF
    obtain ⟨outs, hregroups, hsums⟩ := ih hplain
    exact ⟨out :: outs, .cons ⟨hmember.regroups, hmember.depth⟩ hregroups,
      .cons hmember.isSum hsums⟩

theorem regroups_nextMembers (k : Keep) {css outs : List (List Char)}
    (h : List.Forall₂ (fun cs out => Regroups false [] cs out ∧ depth 0 cs = some 0) css outs)
    (inWord : Bool) : Regroups inWord [some k] (nextMembers css ++ [')'])
      (nextMembers outs ++ ')' :: k.text) := by
  induction h generalizing inWord with
  | nil =>
    have hclose : Regroups inWord [some k] [')'] (')' :: (k.text ++ [])) :=
      .closeCall (.nil fun _ h => nomatch h)
    rwa [List.append_nil] at hclose
  | @cons cs out css outs hcs _ ih =>
    obtain ⟨d, rest, hrest, hd⟩ := nextMembers_eq_cons css []
    have hword : Text.isWordChar ',' = false := by decide
    have hmember : Regroups (Text.isWordChar ',') [some k] (cs ++ (nextMembers css ++ [')']))
        (out ++ (nextMembers outs ++ ')' :: k.text)) := by
      rw [hrest] at ih ⊢
      rw [hword]
      exact hcs.1.append hcs.2 hd ih
    rw [nextMembers_cons, nextMembers_cons, List.cons_append, List.append_assoc, List.cons_append,
      List.append_assoc]
    exact .char (fun _ k cs' h => by cases k <;> cases h) (by decide) (by decide) hmember

/-- A call of formulas that are read is read as a group that keeps one of them. -/
theorem readFormula_call (k : Keep) {formulas : List String} {es : List Expr}
    (hne : formulas ≠ []) (h : List.Forall₂ (fun F e => readFormula F = .ok e) formulas es)
    (hplain : ∀ F ∈ formulas, Plain F) :
    readFormula (k.call formulas) = .ok (.group [k] es) := by
  obtain ⟨outs, hregroups, hsums⟩ := exists_members h hplain
  cases h with
  | nil => exact absurd rfl hne
  | @cons F e Fs es hF hFs =>
    cases hregroups with
    | @cons _ out _ outs hcs hcss =>
      obtain ⟨hsum, hsums⟩ := List.forall₂_cons.mp hsums
      obtain ⟨d, rest, hrest, hd⟩ := nextMembers_eq_cons (Fs.map spaceless) []
      have hnext := regroups_nextMembers k hcss
      rw [hrest] at hnext
      have hcall : Regroups false [] (spaceless (k.call (F :: Fs)))
          ('(' :: (out ++ (nextMembers outs ++ ')' :: k.text))) := by
        rw [spaceless_call, hrest]
        exact .call k (hcs.1.append hcs.2 hd hnext)
      have hsolid : ∃ c ∈ (k.call (F :: Fs)).toList, Text.isBlank c = false := by
        refine ⟨'m', ?_, by decide⟩
        rw [Keep.call]
        cases k <;> simp [Keep.selector]
      exact readFormula_of_regroup hsolid hcall.regroup (hsum.choice hsums k).isSum

/-- Formulas evaluated one after another, each on what the one before it left of the stream. -/
inductive InTurn : List String → Faces → List Outcome → Faces → Prop
  | nil (faces : Faces) : InTurn [] faces [] faces
  | cons {F : String} {Fs : List String} {o : Outcome} {os : List Outcome}
      {faces faces' faces'' : Faces} (h : evaluate F faces = (.ok o, faces'))
      (hrest : InTurn Fs faces' os faces'') : InTurn (F :: Fs) faces (o :: os) faces''

theorem InTurn.exists_exprs {Fs : List String} {os : List Outcome} {faces faces' : Faces}
    (h : InTurn Fs faces os faces') : ∃ (es : List Expr) (xs : List (String × Node)),
      List.Forall₂ (fun F e => readFormula F = .ok e) Fs es ∧ Expr.MembersHaveSides es ∧
      Expr.shownMembers faces es = xs.map (fun x => (true, x.2)) ∧
      os = xs.map (fun x => Outcome.ofNode x.1 x.2) ∧
      (∀ x ∈ xs, Numeral.Fits x.2.total.natAbs) ∧
      faces' = faces.skip (Expr.membersCount es) := by
  induction h with
  | nil faces => exact ⟨[], [], .nil, trivial, rfl, rfl, (fun _ h => nomatch h), rfl⟩
  | @cons F Fs o os faces faces' faces'' h _ ih =>
    obtain ⟨e, hread, hsides, rfl, hfits, rfl⟩ := exists_of_evaluate h
    obtain ⟨es, xs, hreads, hall, hshown, rfl, hxs, rfl⟩ := ih
    refine ⟨e :: es, (F, e.shown faces) :: xs, .cons hread hreads, ⟨hsides, hall⟩, ?_, rfl,
      List.forall_mem_cons.mpr ⟨hfits, hxs⟩, ?_⟩
    · rw [Expr.shownMembers, hshown, List.map_cons]
    · rw [Faces.skip_skip]
      rfl

theorem shown_choice (k : Keep) {es : List Expr} (h : 2 ≤ es.length) (f : Faces) :
    (Expr.group [k] es).shown f =
      .group [k] (keepPicked [k] Node.total (Expr.shownMembers f es)) := by
  match es, h with
  | _ :: _ :: _, _ => rfl

/-- What is seen of an outcome besides its formula and its breakdown. -/
structure Outcome.SameRoll (o p : Outcome) : Prop where
  total : o.total = p.total
  dice : o.dice = p.dice
  natural : o.natural = p.natural
  totalsByType : o.totalsByType = p.totalsByType

section Call

variable {k : Keep} {formulas : List String} {os : List Outcome} {faces faces' : Faces}

theorem exists_evaluate_call (hlen : 2 ≤ formulas.length) (hplain : ∀ F ∈ formulas, Plain F)
    (hturn : InTurn formulas faces os faces')
    (hlimit : faces'.position ≤ faces.position + diceLimit) :
    ∃ o, evaluate (k.call formulas) faces = (.ok o, faces') ∧ ∃ before best after,
      os = before ++ best :: after ∧ k.Best Outcome.total before best after ∧ o.SameRoll best := by
  obtain ⟨es, xs, hreads, hsides, hshown, rfl, hfits, rfl⟩ := hturn.exists_exprs
  have hes : 2 ≤ es.length := hreads.length_eq ▸ hlen
  have hne : xs ≠ [] := by
    rintro rfl
    cases es with
    | nil => cases hes
    | cons e es => cases hshown
  have hread := readFormula_call k (List.ne_nil_of_length_pos (by omega)) hreads hplain
  obtain ⟨before, best, after, rfl, hbest, hkept⟩ :=
    exists_keepPicked k (fun x : String × Node => x.2) Node.total hne
  have hnode : (Expr.group [k] es).shown faces = .group [k] ((before.map (·.2)).map (false, ·) ++
      (true, best.2) :: (after.map (·.2)).map (false, ·)) := by
    rw [shown_choice k hes, hshown, hkept, List.map_map, List.map_map]
    rfl
  have htotal : ((Expr.group [k] es).shown faces).total = best.2.total := by
    rw [hnode, Node.total_only]
  have hgather : ((Expr.group [k] es).shown faces).gather {} = best.2.gather {} := by
    rw [hnode, gather_only]
  have hbestFits : Numeral.Fits ((Expr.group [k] es).shown faces).total.natAbs := by
    rw [htotal]
    exact hfits best (by simp)
  refine ⟨_, evaluate_eq_ok hread hsides (Nat.le_of_add_le_add_left hlimit) hbestFits,
    before.map _, _, after.map _, List.map_append .., ⟨?_, ?_⟩, ?_⟩
  · exact List.forall_mem_map.mpr hbest.before
  · exact List.forall_mem_map.mpr hbest.after
  · exact ⟨htotal, congrArg Findings.dice hgather,
      congrArg (fun f => f.natural.map Int.ofNat) hgather, congrArg Findings.totals hgather⟩

/-- A selector shows the first of the best of its members, each of which is rolled in turn. Called
with one formula twice, as a pool with advantage does, it shows the better of two rolls. -/
theorem evaluate_call (hlen : 2 ≤ formulas.length) (hplain : ∀ F ∈ formulas, Plain F)
    (hturn : InTurn formulas faces os faces')
    (hlimit : faces'.position ≤ faces.position + diceLimit) :
    (∃ o, evaluate (k.call formulas) faces = (.ok o, faces') ∧ ∃ before best after,
      os = before ++ best :: after ∧ k.Best Outcome.total before best after ∧ o.SameRoll best) ∧
    ∀ F o₁ o₂, formulas = [F, F] → os = [o₁, o₂] →
      ∃ o, evaluate (Pool.callTwice (String.ofList k.selector) F) faces = (.ok o, faces') ∧
        o.SameRoll (if k.beats o₂.total o₁.total then o₂ else o₁) := by
  have hcall := exists_evaluate_call (k := k) hlen hplain hturn hlimit
  refine ⟨hcall, ?_⟩
  rintro F o₁ o₂ rfl rfl
  obtain ⟨o, heval, before, best, after, hos, hbest, hsame⟩ := hcall
  rw [callTwice_eq_call]
  refine ⟨o, heval, ?_⟩
  cases before with
  | nil =>
    cases hos
    rwa [hbest.after o₂ List.mem_cons_self, if_neg Bool.false_ne_true]
  | cons b before =>
    cases before with
    | nil =>
      cases hos
      rwa [hbest.before o₁ List.mem_cons_self, if_pos rfl]
    | cons c before => simp at hos

end Call

def bolts : List String := ["1d8[fire]", "max(1d6[cold], 1) + 1d20"]

theorem evaluate_call_bolts : ∃ o, evaluate (Keep.highest.call bolts) (.cycle #[3, 2, 4]) =
      (.ok o, (Faces.cycle #[3, 2, 4]).skip 3) ∧
    o.total = 6 ∧ o.dice = [2, 4] ∧ o.natural = some 4 ∧ o.totalsByType = [("cold", 2)] := by
  have hfits : ∀ c, Numeral.Fits (Numeral.value [c]) := fun c =>
    Numeral.fits_of_readDigits (if_pos (Nat.le_of_ble_eq_true rfl))
  have hfire : readFormula "1d8[fire]" = .ok (.labelled "[fire]".toList (.dice 1 8)) := rfl
  have hcold : readFormula "max(1d6[cold], 1) + 1d20" = .ok (.binary .plus
    (.group [.highest] [.labelled "[cold]".toList (.dice 1 6), .number 1]) (.dice 1 20)) := rfl
  have hbolt : evaluate "1d8[fire]" (.cycle #[3, 2, 4]) = _ :=
    evaluate_eq_ok hfire (fun _ => by decide) (by decide) (hfits '3')
  have hturn := InTurn.cons hbolt
    (.cons (evaluate_eq_ok hcold ⟨⟨fun _ => by decide, trivial, trivial⟩, fun _ => by decide⟩
      (by decide) (hfits '6')) (.nil _))
  obtain ⟨⟨o, heval, before, best, after, hos, hbest, hsame⟩, -⟩ :=
    evaluate_call (k := .highest) (by decide) (by decide) hturn (by decide)
  cases before with
  | nil =>
    cases hos
    exact absurd (hbest.after _ List.mem_cons_self) (by decide)
  | cons b before =>
    cases before with
    | nil =>
      cases hos
      exact ⟨o, heval, hsame.total, hsame.dice, hsame.natural, hsame.totalsByType⟩
    | cons c before => simp at hos

end Encounter.Dice
