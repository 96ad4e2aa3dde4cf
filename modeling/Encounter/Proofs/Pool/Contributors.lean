import Encounter.Proofs.Pool.Terms

namespace Encounter.Pool

theorem fragmentTerms_feature {o : Origin} {fragment : String} {ts : List Term}
    (h : fragmentTerms o fragment = .ok ts) : ∀ t ∈ ts, t.feature = o.feature := by
  intro t ht
  obtain ⟨p, -, rfl⟩ := exists_part_of_fragmentTerms h t ht
  rfl

/-- A term that is at most written anew, with everything else as it was. -/
def Term.Rewritten (t u : Term) : Prop := u = { t with element := u.element }

theorem doubleDice_rewritten {t u : Term} (h : doubleDice t = .ok u) : t.Rewritten u := by
  unfold doubleDice at h
  split at h
  · obtain ⟨q, -, h⟩ := Result.bind_eq_ok h
    obtain ⟨text, -, h⟩ := Result.bind_eq_ok h
    obtain ⟨size, -, h⟩ := Result.bind_eq_ok h
    cases h
    rfl
  · cases h
    rfl

theorem rewritten_self (ts : List Term) : List.Forall₂ Term.Rewritten ts ts :=
  List.forall₂_same.mpr fun _ _ => rfl

theorem rollTwice_rewritten {selector : String} {ts us : List Term}
    (h : rollTwice selector ts = .ok us) : List.Forall₂ Term.Rewritten ts us := by
  induction ts generalizing us with
  | nil =>
    cases h
    exact .nil
  | cons t ts ih =>
    obtain ⟨faces, -, h⟩ := Result.bind_eq_ok h
    obtain ⟨quantity, -, h⟩ := Result.bind_eq_ok h
    dsimp only at h
    split at h
    · cases h
      exact .cons rfl (rewritten_self ts)
    · obtain ⟨vs, hvs, h⟩ := Result.bind_eq_ok h
      cases h
      exact .cons rfl (ih hvs)

theorem rewritten_trans {ts us vs : List Term} (h : List.Forall₂ Term.Rewritten ts us)
    (h' : List.Forall₂ Term.Rewritten us vs) : List.Forall₂ Term.Rewritten ts vs := by
  induction h generalizing vs with
  | nil => exact h'
  | cons htu _ ih =>
    cases h' with
    | cons huv hrest => exact .cons (by rw [Term.Rewritten, huv, htu]) (ih hrest)

theorem map_feature_rewritten {ts us : List Term} (h : List.Forall₂ Term.Rewritten ts us) :
    us.map (·.feature) = ts.map (·.feature) := by
  induction h with
  | nil => rfl
  | cons htu _ ih => rw [List.map_cons, List.map_cons, ih, htu]

namespace Builder

variable {b : Builder} {r : Request} {p : DicePool}

/-- The features that a term of a pool may carry: none on the die of the action, that of a modifier
that was asked for, and the name of a feature that is active. -/
inductive Credits (b : Builder) (r : Request) : Option String → Prop
  | die : Credits b r none
  | declared {m : Modifier} (hm : m ∈ r.modifiers) : Credits b r m.feature
  | active {registry : Registry} {a : Actor} {f : Feature} (hb : b.registry = some registry)
    (ha : r.actor = some a) (hf : f ∈ registry.activeAt a (featureStep r.action) r.vetoed) :
    Credits b r (some f.name)

theorem modifierTerms_feature {a : Action} {m : Modifier} {ts : List Term}
    (h : b.modifierTerms a m = .ok ts) : ∀ t ∈ ts, t.feature = m.feature := by
  unfold modifierTerms at h
  split at h
  · exact fragmentTerms_feature h
  · cases h
    exact fun _ h => nomatch h

theorem featureTerms_feature {a : Actor} {f : Feature} {ts : List Term}
    (h : b.featureTerms r a f = .ok ts) : ∀ t ∈ ts, t.feature = some f.name := by
  obtain ⟨c, -, h⟩ := Result.bind_eq_ok h
  split at h
  · obtain ⟨ms, -, h⟩ := Result.bind_eq_ok h
    refine allTerms_forall (fun m hm ts hts t ht => ?_) h
    obtain ⟨m, -, rfl⟩ := List.mem_map.mp hm
    exact modifierTerms_feature hts t ht
  · cases h
    exact fun _ h => nomatch h

theorem contributions_credits {added : List Term × List String}
    (h : b.contributions r = .ok added) : ∀ t ∈ added.1, b.Credits r t.feature := by
  unfold contributions at h
  split at h
  · rename_i registry a hb ha
    obtain ⟨found, hfound, h⟩ := Result.bind_eq_ok h
    cases h
    intro t ht
    obtain ⟨x, hx, ht⟩ := List.mem_flatMap.mp ht
    obtain ⟨f, hf, hterms⟩ := Result.exists_of_mem_mapM hfound hx
    obtain ⟨ts, hts, hterms⟩ := Result.bind_eq_ok hterms
    cases hterms
    rw [featureTerms_feature hts t ht]
    exact .active hb ha hf
  · cases h
    exact fun _ h => nomatch h

theorem Stages.rewritten {asked added doubled : List Term}
    (hs : Stages b r p asked added doubled) :
    List.Forall₂ Term.Rewritten (seeded r.action asked ++ added) p.terms := by
  have hdoubled : List.Forall₂ Term.Rewritten (seeded r.action asked ++ added) doubled := by
    have hdoubles := hs.doubles
    unfold doubledIf at hdoubles
    split at hdoubles
    · exact (Result.forall₂_of_mapM hdoubles).imp fun _ _ => doubleDice_rewritten
    · exact Except.ok.inj hdoubles ▸ rewritten_self _
  have hthrown : List.Forall₂ Term.Rewritten doubled p.terms := by
    have hthrows := hs.throws
    unfold thrown at hthrows
    split at hthrows
    · split at hthrows
      · exact rollTwice_rewritten hthrows
      · exact Except.ok.inj hthrows ▸ rewritten_self _
    · exact Except.ok.inj hthrows ▸ rewritten_self _
  exact rewritten_trans hdoubled hthrown

theorem build_credits (h : b.build r = .ok p) : ∀ t ∈ p.terms, b.Credits r t.feature := by
  obtain ⟨asked, added, doubled, hs⟩ := exists_stages h
  obtain ⟨features, hadded⟩ := hs.adds
  have hasked : ∀ t ∈ asked, b.Credits r t.feature :=
    allTerms_forall (P := fun t => b.Credits r t.feature)
      (fun m hm ts hts t ht => modifierTerms_feature hts t ht ▸ .declared hm) hs.asks
  have hseeded : ∀ t ∈ seeded r.action asked ++ added, b.Credits r t.feature := by
    intro t ht
    unfold seeded at ht
    obtain ht | ht := List.mem_append.mp ht
    · split at ht
      · obtain rfl | ht := List.mem_cons.mp ht
        · exact .die
        · exact hasked t ht
      · exact hasked t ht
    · exact contributions_credits hadded t ht
  intro u hu
  have hfeature := List.mem_map_of_mem (f := Term.feature) hu
  rw [map_feature_rewritten hs.rewritten] at hfeature
  obtain ⟨t, ht, htu⟩ := List.mem_map.mp hfeature
  exact htu ▸ hseeded t ht

theorem build_action (h : b.build r = .ok p) : p.action = r.action := by
  obtain ⟨_, _, _, hs⟩ := exists_stages h
  exact hs.action

end Builder
end Encounter.Pool
