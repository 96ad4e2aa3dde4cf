import Encounter.Check.Contest
import Encounter.Proofs.Result

namespace Encounter

namespace Check

/-- What the ranking of some entries is. -/
structure Ranking.Ranks (r : Ranking) (entries : List Entry) : Prop where
  perm : r.rankings.Perm entries
  sorted : r.rankings.Pairwise fun a b => b.total ≤ a.total
  stable : ∀ n, r.rankings.filter (·.total == n) = entries.filter (·.total == n)
  attained : ∃ e ∈ entries, e.total = r.highest
  greatest : ∀ e ∈ entries, e.total ≤ r.highest
  winners : r.winners = entries.filter (·.total == r.highest)
  first : r.winners <+: r.rankings
  tie : r.isTie = true ↔ 2 ≤ entries.countP (·.total == r.highest)
  count : r.count = entries.length

inductive Ranked : List Entry → Result Ranking → Prop
  | empty : Ranked [] (.error emptyContest)
  | ranked {entries : List Entry} {r : Ranking} (h : r.Ranks entries) : Ranked entries (.ok r)

structure Ranking.Agrees (r r' : Ranking) : Prop where
  winners : r.winners.Perm r'.winners
  highest : r.highest = r'.highest
  tie : r.isTie = r'.isTie

def ordered (entries : List Entry) : List Entry :=
  entries.mergeSort fun a b => b.total ≤ a.total

section Ordered

variable {entries entries' : List Entry}

theorem ordered_perm (entries : List Entry) : (ordered entries).Perm entries :=
  List.mergeSort_perm _ _

theorem ordered_sorted (entries : List Entry) :
    (ordered entries).Pairwise fun a b => b.total ≤ a.total := by
  have hsorted : (ordered entries).Pairwise fun a b => decide (b.total ≤ a.total) = true := by
    apply List.pairwise_mergeSort
    · simp only [decide_eq_true_eq]
      omega
    · simp only [Bool.or_eq_true, decide_eq_true_eq]
      omega
  exact hsorted.imp fun h => of_decide_eq_true h

theorem filter_ordered (entries : List Entry) (n : Int) :
    (ordered entries).filter (·.total == n) = entries.filter (·.total == n) := by
  have hequal : (entries.filter (·.total == n)).Pairwise
      fun a b => decide (b.total ≤ a.total) = true := by
    apply List.pairwise_of_forall_mem_list
    intro a ha b hb
    have ha : a.total = n := by simpa using (List.mem_filter.mp ha).2
    have hb : b.total = n := by simpa using (List.mem_filter.mp hb).2
    simp [ha, hb]
  have hsub : (entries.filter (·.total == n)).Sublist (ordered entries) := by
    apply List.sublist_mergeSort
    · simp only [decide_eq_true_eq]
      omega
    · simp only [Bool.or_eq_true, decide_eq_true_eq]
      omega
    · exact hequal
    · exact List.filter_sublist
  have hfiltered := hsub.filter (·.total == n)
  rw [List.filter_filter] at hfiltered
  simp only [Bool.and_self] at hfiltered
  exact (hfiltered.eq_of_length ((ordered_perm entries).filter _).length_eq.symm).symm

theorem filter_prefix {n : Int} (hs : entries.Pairwise fun a b => b.total ≤ a.total)
    (hn : ∀ e ∈ entries, e.total ≤ n) : entries.filter (·.total == n) <+: entries := by
  induction entries with
  | nil => exact List.prefix_rfl
  | cons e entries ih =>
    obtain ⟨he, hs⟩ := List.pairwise_cons.mp hs
    obtain ⟨hen, hn⟩ := List.forall_mem_cons.mp hn
    by_cases heq : e.total = n
    · rw [List.filter_cons_of_pos (by simpa using heq)]
      exact (List.prefix_cons_inj e).mpr (ih hs hn)
    · have hnone : (e :: entries).filter (·.total == n) = [] := by
        apply List.filter_eq_nil_iff.mpr
        intro a ha
        obtain rfl | ha := List.mem_cons.mp ha
        · simpa using heq
        · have := he a ha
          simp only [beq_iff_eq]
          omega
      rw [hnone]
      exact List.nil_prefix

theorem le_of_ordered {top : Entry} {rest : List Entry} (h : ordered entries = top :: rest) :
    ∀ e ∈ ordered entries, e.total ≤ top.total := by
  have hs := ordered_sorted entries
  rw [h] at hs ⊢
  intro e he
  obtain rfl | he := List.mem_cons.mp he
  · exact Int.le_refl _
  · exact (List.pairwise_cons.mp hs).1 e he

theorem ranks_ordered {top : Entry} {rest : List Entry} (h : ordered entries = top :: rest) :
    Ranking.Ranks ⟨ordered entries, (ordered entries).filter (·.total == top.total),
      1 < ((ordered entries).filter (·.total == top.total)).length, top.total, entries.length⟩
      entries where
  perm := ordered_perm entries
  sorted := ordered_sorted entries
  stable := filter_ordered entries
  attained := by
    refine ⟨top, ?_, rfl⟩
    rw [← (ordered_perm entries).mem_iff, h]
    exact List.mem_cons_self
  greatest := by
    intro e he
    exact le_of_ordered h e ((ordered_perm entries).mem_iff.mpr he)
  winners := filter_ordered entries top.total
  first := filter_prefix (ordered_sorted entries) (le_of_ordered h)
  tie := by
    rw [decide_eq_true_iff, filter_ordered, List.countP_eq_length_filter]
    rfl
  count := rfl

theorem rank_of_ordered {top : Entry} {rest : List Entry} (h : ordered entries = top :: rest) :
    rank entries = .ok ⟨ordered entries, (ordered entries).filter (·.total == top.total),
      1 < ((ordered entries).filter (·.total == top.total)).length, top.total, entries.length⟩ := by
  have hsorted : (entries.mergeSort fun a b => b.total ≤ a.total) = top :: rest := h
  simp only [rank, hsorted, h]

theorem rank_ranked (entries : List Entry) : Ranked entries (rank entries) := by
  cases h : ordered entries with
  | nil =>
    have hnone : entries = [] := by
      have hp := ordered_perm entries
      rw [h] at hp
      exact hp.nil_eq.symm
    have hrefused : rank [] = .error emptyContest := by simp only [rank, List.mergeSort_nil]
    rw [hnone, hrefused]
    exact .empty
  | cons top rest =>
    rw [rank_of_ordered h]
    exact .ranked (ranks_ordered h)

end Ordered

section Reordered

variable {entries entries' : List Entry} {r r' : Ranking}

theorem ranks_of_rank (h : rank entries = .ok r) : r.Ranks entries := by
  have hr := rank_ranked entries
  rw [h] at hr
  cases hr with
  | ranked h => exact h

theorem Ranking.Ranks.highest_eq (h : r.Ranks entries) (h' : r'.Ranks entries')
    (hp : entries.Perm entries') : r.highest = r'.highest := by
  obtain ⟨e, he, htop⟩ := h.attained
  obtain ⟨e', he', htop'⟩ := h'.attained
  have hle := h'.greatest e (hp.mem_iff.mp he)
  have hge := h.greatest e' (hp.mem_iff.mpr he')
  omega

/-- Who wins does not depend on the order of entry. -/
theorem Ranking.Ranks.agrees (h : r.Ranks entries) (h' : r'.Ranks entries')
    (hp : entries.Perm entries') : r.Agrees r' where
  winners := by
    rw [h.winners, h'.winners, h.highest_eq h' hp]
    exact hp.filter _
  highest := h.highest_eq h' hp
  tie := by
    apply Bool.eq_iff_iff.mpr
    rw [h.tie, h'.tie, h.highest_eq h' hp, hp.countP_eq]

end Reordered

section Contests

variable {δ : Type} {ev : Reporter δ}

/-- An evaluator that writes down what it is asked for. -/
def noting (ev : Reporter δ) : Reporter (List Value × δ) where
  report formula s := ((ev.report formula s.2).1, (s.1 ++ [formula], (ev.report formula s.2).2))

/-- Each participant's formula is asked for in the state that the one before left, and answered by
an entry. -/
inductive Entered (ev : Reporter δ) : List Participant → δ → List Entry → δ → Prop
  | nil {s : δ} : Entered ev [] s [] s
  | cons {p : Participant} {ps : List Participant} {s s' s'' : δ} {report : Report} {entry : Entry}
      {entries : List Entry} (hreport : ev.report p.formula s = (.ok report, s'))
      (hentry : p.entry report = .ok entry) (hrest : Entered ev ps s' entries s'') :
      Entered ev (p :: ps) s (entry :: entries) s''

/-- How the rolls of a contest end, and which formulas were asked for: all of them, or those up to
the one whose report fails or makes no entry. -/
inductive Ends (ev : Reporter δ) (ps : List Participant) (s : δ) :
    List Value → Result (List Entry) → δ → Prop
  | entered {entries : List Entry} {s' : δ} (h : Entered ev ps s entries s') :
      Ends ev ps s (ps.map (·.formula)) (.ok entries) s'
  | refused {before after : List Participant} {p : Participant} {entries : List Entry} {s₁ s' : δ}
      {report : Result Report} {e : Failure} (hps : ps = before ++ p :: after)
      (hbefore : Entered ev before s entries s₁) (hreport : ev.report p.formula s₁ = (report, s'))
      (hentry : report >>= p.entry = .error e) :
      Ends ev ps s ((before ++ [p]).map (·.formula)) (.error e) s'

variable {ps before : List Participant} {p : Participant} {s s₁ s' : δ} {entries : List Entry}

theorem Entered.length_eq (h : Entered ev ps s entries s') : entries.length = ps.length := by
  induction h with
  | nil => rfl
  | cons hreport hentry hrest ih => simp only [List.length_cons, ih]

theorem Entered.noting (h : Entered ev ps s entries s') (noted : List Value) :
    Entered (noting ev) ps (noted, s) entries (noted ++ ps.map (·.formula), s') := by
  induction h generalizing noted with
  | nil =>
    rw [List.map_nil, List.append_nil]
    exact .nil
  | @cons p ps s s' s'' report entry entries hreport hentry hrest ih =>
    have hnoted : (Check.noting ev).report p.formula (noted, s) =
        (.ok report, (noted ++ [p.formula], s')) := by
      simp only [Check.noting, hreport]
    have hrest := ih (noted ++ [p.formula])
    rw [List.append_assoc] at hrest
    exact .cons hnoted hentry hrest

theorem Ends.noting {asked : List Value} {x : Result (List Entry)} (h : Ends ev ps s asked x s')
    (noted : List Value) : Ends (noting ev) ps (noted, s) asked x (noted ++ asked, s') := by
  cases h with
  | entered h => exact .entered (h.noting noted)
  | @refused before after p entries s₁ _ report e hps hbefore hreport hentry =>
    have hlast : (Check.noting ev).report p.formula (noted ++ before.map (·.formula), s₁) =
        (report, (noted ++ (before ++ [p]).map (·.formula), s')) := by
      simp [Check.noting, hreport]
    exact .refused hps (hbefore.noting noted) hlast hentry

theorem rollEntries_of_entry {report : Report} {entry : Entry}
    (hreport : ev.report p.formula s = (.ok report, s')) (hentry : p.entry report = .ok entry) :
    rollEntries ev (p :: ps) s =
      ((rollEntries ev ps s').1.map (entry :: ·), (rollEntries ev ps s').2) := by
  have hbind : ((.ok report : Result Report) >>= p.entry) = .ok entry := hentry
  simp only [rollEntries, hreport, hbind]

theorem rollEntries_of_entered (h : Entered ev before s entries s₁) (ps : List Participant) :
    rollEntries ev (before ++ ps) s =
      ((rollEntries ev ps s₁).1.map (entries ++ ·), (rollEntries ev ps s₁).2) := by
  induction h with
  | @nil s =>
    rw [List.nil_append]
    rcases rollEntries ev ps s with ⟨x, t⟩
    cases x with
    | error e => rfl
    | ok es => rfl
  | @cons p before s s' s'' report entry entries hreport hentry hrest ih =>
    rw [List.cons_append, rollEntries_of_entry hreport hentry, ih]
    cases (rollEntries ev ps s'').1 with
    | error e => rfl
    | ok es => rfl

theorem rollEntries_of_refused {report : Result Report} {e : Failure}
    (hreport : ev.report p.formula s = (report, s')) (hentry : report >>= p.entry = .error e)
    (ps : List Participant) : rollEntries ev (p :: ps) s = (.error e, s') := by
  simp only [rollEntries, hreport, hentry]

theorem rollEntries_of_ends {asked : List Value} {x : Result (List Entry)}
    (h : Ends ev ps s asked x s') : rollEntries ev ps s = (x, s') := by
  cases h with
  | @entered entries _ h =>
    have hroll := rollEntries_of_entered h []
    rw [List.append_nil] at hroll
    rw [hroll]
    simp only [rollEntries, Except.map, List.append_nil]
  | @refused before after p entries s₁ _ report e hps hbefore hreport hentry =>
    rw [hps, rollEntries_of_entered hbefore, rollEntries_of_refused hreport hentry]
    rfl

theorem Ends.cons {asked : List Value} {x : Result (List Entry)} {report : Report} {entry : Entry}
    (h : Ends ev ps s₁ asked x s') (hreport : ev.report p.formula s = (.ok report, s₁))
    (hentry : p.entry report = .ok entry) :
    Ends ev (p :: ps) s (p.formula :: asked) (x.map (entry :: ·)) s' := by
  cases h with
  | entered h => exact .entered (.cons hreport hentry h)
  | @refused before after q entries s₂ _ report' e hps hbefore hreport' hentry' =>
    have hps : p :: ps = (p :: before) ++ q :: after := by rw [hps, List.cons_append]
    exact .refused hps (.cons hreport hentry hbefore) hreport' hentry'

theorem exists_ends (ev : Reporter δ) (ps : List Participant) (s : δ) :
    ∃ asked x s', Ends ev ps s asked x s' := by
  induction ps generalizing s with
  | nil => exact ⟨_, _, _, .entered .nil⟩
  | cons p ps ih =>
    rcases hreport : ev.report p.formula s with ⟨report, s₁⟩
    cases hentry : report >>= p.entry with
    | error e => exact ⟨_, _, _, .refused (List.nil_append _).symm .nil hreport hentry⟩
    | ok entry =>
      obtain ⟨r, rfl, hentry⟩ := Result.bind_eq_ok hentry
      obtain ⟨asked, x, s', h⟩ := ih s₁
      exact ⟨_, _, _, h.cons hreport hentry⟩

theorem entry_ofOutcome (id formula : String) (name : Option String) (o : Dice.Outcome) :
    Participant.entry ⟨.text id, .text formula, .ofOption .text name⟩ (.ofOutcome o) =
      .ok ⟨id, (name.filter fun s => !s.isEmpty).getD id, formula, o.total, o.natural.getD 0⟩ := by
  have hnatural : naturalGiven (.text formula) (.ofOutcome o) = .ok (.int (o.natural.getD 0)) := by
    cases hn : o.natural with
    | none => simp [naturalGiven, Report.ofOutcome, hn, Value.ofOption, Schema.text, Verdict.result]
    | some n => simp [naturalGiven, Report.ofOutcome, hn, Value.ofOption]
  have hname : (if (Value.ofOption Value.text name).isTruthy then Value.ofOption .text name
      else .text id) = .text ((name.filter fun s => !s.isEmpty).getD id) := by
    cases name with
    | none => rfl
    | some s => cases h : s.isEmpty <;> simp [Value.ofOption, Value.isTruthy, h, Option.filter]
  unfold Participant.entry
  rw [hnatural]
  simp only [hname, Report.ofOutcome]
  rfl

end Contests

/-- How a contest ends: as its rolls do, and what they enter is ranked. -/
structure Contested {δ : Type} (ev : Reporter δ) (ps : List Participant) (s : δ)
    (asked : List Value) (x : Result (List Entry)) (s' : δ) : Prop where
  ends : Ends ev ps s asked x s'
  ranks : resolveContest ev ps s = (x >>= rank, s')
  noted : ∀ noted, resolveContest (noting ev) ps (noted, s) = (x >>= rank, noted ++ asked, s')
  refused : ∀ e, x >>= rank = .error e ↔ x = .error e ∨ ps = [] ∧ e = emptyContest

theorem Ends.refused_iff {δ : Type} {ev : Reporter δ} {ps : List Participant} {s s' : δ}
    {asked : List Value} {x : Result (List Entry)} (h : Ends ev ps s asked x s') (e : Failure) :
    x >>= rank = .error e ↔ x = .error e ∨ ps = [] ∧ e = emptyContest := by
  cases h with
  | @entered entries _ h =>
    have hlength := h.length_eq
    have hrank := rank_ranked entries
    change rank entries = .error e ↔ _
    cases hr : rank entries with
    | error e' =>
      rw [hr] at hrank
      cases hrank
      have hps : ps = [] := List.eq_nil_of_length_eq_zero hlength.symm
      simp [hps, eq_comm]
    | ok r =>
      rw [hr] at hrank
      cases hrank with
      | ranked hranks =>
        obtain ⟨top, htop, -⟩ := hranks.attained
        have hps : ps ≠ [] := by
          intro hps
          rw [hps, List.length_nil, List.length_eq_zero_iff] at hlength
          rw [hlength] at htop
          cases htop
        simp [hps]
  | @refused before after p entries s₁ _ report e' hps hbefore hreport hentry =>
    have hps : ps ≠ [] := by simp [hps]
    change (.error e' : Result Ranking) = .error e ↔ _
    simp [hps]

/-- Entries are ranked by their total, as they are entered, and who wins does not depend on their
order. A contest rolls for one participant after the other, asks for each formula once, and ranks
the entries that it gets. -/
theorem resolveContest_ranks {δ : Type} (ev : Reporter δ) :
    (∀ entries, Ranked entries (rank entries)) ∧
    (∀ entries entries' r r', entries.Perm entries' → rank entries = .ok r →
      rank entries' = .ok r' → r.Agrees r') ∧
    (∀ ps s, ∃ asked x s', Contested ev ps s asked x s') ∧
    (∀ id formula name o,
      Participant.entry ⟨.text id, .text formula, .ofOption .text name⟩ (.ofOutcome o) =
        .ok ⟨id, (name.filter fun s => !s.isEmpty).getD id, formula, o.total,
          o.natural.getD 0⟩) := by
  refine ⟨rank_ranked, ?_, ?_, entry_ofOutcome⟩
  · intro entries entries' r r' hp h h'
    exact (ranks_of_rank h).agrees (ranks_of_rank h') hp
  · intro ps s
    obtain ⟨asked, x, s', h⟩ := exists_ends ev ps s
    refine ⟨asked, x, s', h, ?_, ?_, h.refused_iff⟩
    · simp only [resolveContest, rollEntries_of_ends h]
    · intro noted
      simp only [resolveContest, rollEntries_of_ends (h.noting noted)]

end Check
end Encounter
