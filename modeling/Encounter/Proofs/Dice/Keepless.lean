import Encounter.Proofs.Dice.Choice
import Encounter.Proofs.Dice.Selectors
import Encounter.Proofs.Dice.Thrown

namespace Encounter.Dice

namespace Expr

mutual

def Keepless : Expr → Prop
  | number _ => True
  | dice _ _ => True
  | unary _ e => e.Keepless
  | binary _ l r => l.Keepless ∧ r.Keepless
  | group ks ms => ks = [] ∧ MembersKeepless ms
  | labelled _ e => e.Keepless

def MembersKeepless : List Expr → Prop
  | [] => True
  | e :: rest => e.Keepless ∧ MembersKeepless rest

end

theorem membersKeepless_iff (ms : List Expr) : MembersKeepless ms ↔ ∀ e ∈ ms, e.Keepless := by
  induction ms with
  | nil => exact iff_of_true trivial fun _ h => nomatch h
  | cons e ms ih =>
    rw [List.forall_mem_cons, ← ih]
    rfl

theorem Keepless.label {e : Expr} (h : e.Keepless) (t : List Char) : (e.label t).Keepless := by
  cases e <;> exact h

theorem Keepless.signs {e : Expr} (h : e.Keepless) (signs : List Sign) :
    (signs.foldl (fun acc s => Expr.unary s acc) e).Keepless := by
  induction signs generalizing e with
  | nil => exact h
  | cons s signs ih => exact ih (e := .unary s e) h

end Expr

/-- No group has a keep of what is finished in the group that is being read. -/
structure Level.Keepless (l : Level) : Prop where
  members : ∀ e ∈ l.members, e.Keepless
  left : ∀ e s, l.left = some (e, s) → e.Keepless

theorem Level.Keepless.finish {l : Level} (h : l.Keepless) {e : Expr} (he : e.Keepless) :
    (l.finish e).Keepless := by
  unfold Level.finish
  dsimp only
  split
  · rename_i left s hleft
    exact ⟨h.left left s hleft, he.signs l.signs⟩
  · exact he.signs l.signs

theorem Level.Keepless.finished {l : Level} (h : l.Keepless) {e : Expr} (he : e.Keepless) :
    ∀ m ∈ l.finish e :: l.members, m.Keepless :=
  List.forall_mem_cons.mpr ⟨h.finish he, h.members⟩

def Phase.Keepless : Phase → Prop
  | group ks ms => ks = [] ∧ ∀ e ∈ ms, e.Keepless
  | item e => e.Keepless
  | _ => True

theorem Phase.Keepless.item {p : Phase} (h : p.Keepless) {e : Expr} (hp : p.item? = .ok e) :
    e.Keepless := by
  cases p with
  | start => cases hp
  | digits ds =>
    rw [Phase.item?] at hp
    cases hn : readNumber ds with
    | error t =>
      rw [hn] at hp
      cases hp
    | ok n =>
      rw [hn] at hp
      cases hp
      trivial
  | counted count => cases hp
  | dice count size =>
    rw [Phase.item?] at hp
    cases hcount : readCount count with
    | error t =>
      rw [hcount] at hp
      cases hp
    | ok n =>
      cases hsize : readNumber size with
      | error t =>
        rw [hcount, hsize] at hp
        cases hp
      | ok m =>
        rw [hcount, hsize] at hp
        cases hp
        trivial
  | group ks ms =>
    cases hp
    exact ⟨h.1, (Expr.membersKeepless_iff ms).mpr h.2⟩
  | item e' =>
    cases hp
    exact h

namespace Reading

structure Keepless (r : Reading) : Prop where
  phase : r.phase.Keepless
  level : r.level.Keepless
  outer : ∀ l ∈ r.outer, l.Keepless

variable {r r' : Reading} {t : Token}

theorem Keepless.stepItem (h : r.Keepless) {e : Expr} (he : e.Keepless)
    (hstep : r.stepItem t e = .ok r') : r'.Keepless := by
  obtain ⟨p, level, outer⟩ := r
  obtain ⟨hphase, hlevel, houter⟩ := h
  cases t with
  | gap =>
    cases hstep
    exact ⟨he, hlevel, houter⟩
  | label t =>
    cases hstep
    exact ⟨he.label t, hlevel, houter⟩
  | sign s =>
    cases hstep
    refine ⟨trivial, ⟨hlevel.members, ?_⟩, houter⟩
    rintro _ _ ⟨⟩
    exact hlevel.finish he
  | comma =>
    cases outer with
    | nil => cases hstep
    | cons l outer =>
      cases hstep
      exact ⟨trivial, ⟨hlevel.finished he, nofun⟩, houter⟩
  | closeGroup =>
    cases outer with
    | nil => cases hstep
    | cons l outer =>
      cases hstep
      obtain ⟨hl, houter⟩ := List.forall_mem_cons.mp houter
      exact ⟨⟨rfl, fun e he' => hlevel.finished he e (List.mem_reverse.mp he')⟩, hl, houter⟩
  | _ => cases hstep

theorem Keepless.step (h : r.Keepless) (ht : ∀ k, t ≠ .keep k) (hstep : r.step t = .ok r') :
    r'.Keepless := by
  cases steps_of_step hstep with
  | sign => exact ⟨trivial, ⟨h.level.members, h.level.left⟩, h.outer⟩
  | openGroup => exact ⟨trivial, ⟨nofun, nofun⟩, List.forall_mem_cons.mpr ⟨h.level, h.outer⟩⟩
  | keep => exact absurd rfl (ht _)
  | item hp _ hitem => exact h.stepItem (h.phase.item hp) hitem
  | _ => exact ⟨trivial, h.level, h.outer⟩

theorem Keepless.run {ts : List Token} (h : r.Keepless) (hts : ∀ k, .keep k ∉ ts)
    (hrun : r.run ts = .ok r') : r'.Keepless := by
  induction ts generalizing r with
  | nil =>
    cases hrun
    exact h
  | cons t ts ih =>
    obtain ⟨r₁, hstep, hrest⟩ := exists_of_run_cons hrun
    have h₁ := h.step (fun k heq => hts k (heq ▸ List.mem_cons_self)) hstep
    exact ih h₁ (fun k hk => hts k (List.mem_cons_of_mem t hk)) hrest

end Reading

/-- A text without keeps stands for an expression without keeps. -/
theorem keepless_of_read {cs : List Char} {e : Expr} (h : Expr.read cs = .ok e)
    (hkeeps : ∀ k, .keep k ∉ Token.scan none cs) : e.Keepless := by
  obtain ⟨phase, level, i, hrun, hitem, rfl⟩ := exists_run_of_read h
  have hstart : Reading.Keepless {} := ⟨trivial, ⟨nofun, nofun⟩, nofun⟩
  obtain ⟨hphase, hlevel, -⟩ := hstart.run hkeeps hrun
  exact hlevel.finish (hphase.item hitem)

theorem keepless_of_readFormula {formula : String} {e : Expr} (h : readFormula formula = .ok e)
    (hcalls : CallFree false (spaceless formula))
    (hkeeps : ∀ k, .keep k ∉ Token.scan none (spaceless formula)) : e.Keepless := by
  obtain ⟨out, hregroup, hread⟩ := exists_of_readFormula h
  have hsame : Regroups false [] (spaceless formula) (spaceless formula) :=
    .of_callFree hcalls fun _ h => nomatch h
  rw [hsame.regroup] at hregroup
  cases hregroup
  exact keepless_of_read hread hkeeps

mutual

theorem kept_of_keepless (f : Faces) : ∀ {e : Expr}, e.Keepless → ∀ d ∈ (e.shown f).thrown,
    d.kept = true
  | .number _, _ => nofun
  | .dice count size, _ => by
    intro d hd
    rw [Expr.shown, Node.thrown, Node.parts, List.flatMap_singleton, Die.ofPart,
      List.map_map] at hd
    obtain ⟨n, -, rfl⟩ := List.mem_map.mp hd
    rfl
  | .unary _ e, h => kept_of_keepless f (e := e) h
  | .binary _ l r, h => by
    have hself : ∀ n m s, Die.ofPart (true, Node.binary s n m) = [] := fun _ _ _ => rfl
    rw [Expr.shown, Node.thrown, Node.parts, List.flatMap_cons, hself, List.nil_append,
      List.flatMap_append]
    exact List.forall_mem_append.mpr ⟨kept_of_keepless f h.1, kept_of_keepless _ h.2⟩
  | .group _ ms, ⟨rfl, h⟩ => kept_of_membersKeepless f h
  | .labelled _ e, h => kept_of_keepless f (e := e) h

theorem kept_of_membersKeepless (f : Faces) : ∀ {ms : List Expr}, Expr.MembersKeepless ms →
    ∀ d ∈ (Node.membersParts true (Expr.shownMembers f ms)).flatMap Die.ofPart, d.kept = true
  | [], _ => nofun
  | e :: rest, h => by
    rw [Expr.shownMembers, Node.membersParts, List.flatMap_append]
    exact List.forall_mem_append.mpr ⟨kept_of_keepless f h.1, kept_of_membersKeepless _ h.2⟩

end

end Encounter.Dice
