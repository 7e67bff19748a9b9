import Wayfinder.Proofs.Session.Visibility

/-!
# The outcome of a query

`resolve_outcome`: a query leads nowhere if and only if the exact weighted count of every visible
node is zero. Otherwise one visible node is the best match; the outcome is the link of its first
template that the scope satisfies, or, when there is none, a report that names it. The nodes below
the best one do not enter.
-/

namespace Wayfinder.Engine

variable (e : Engine) (q : Query) (scope : Scope) (granted : TermSet Capability)

/-- The outcome for users is that of the ranking among what they may see. -/
theorem resolve_eq :
    e.resolve q scope granted =
      (e.weights.resolve q scope (e.visible granted)).mapError .resolve := rfl

theorem resolve_cases :
    (∃ r, e.resolve q scope granted = .ok r) ∨
      e.resolve q scope granted = .error (.resolve .noMatch) ∨
      ∃ id names, e.resolve q scope granted = .error (.resolve (.missingScope id names)) := by
  rw [resolve_eq]
  rcases e.weights.resolve_cases q (e.visible granted) scope with
    hno | ⟨found, -, ⟨link, t, hok⟩ | ⟨names, hmissing⟩⟩
  · rw [hno]
    exact Or.inr (Or.inl rfl)
  · rw [hok]
    exact Or.inl ⟨_, rfl⟩
  · rw [hmissing]
    exact Or.inr (Or.inr ⟨_, _, rfl⟩)

theorem resolve_eq_noMatch_iff :
    e.resolve q scope granted = .error (.resolve .noMatch) ↔
      ∀ n ∈ e.visible granted, e.weights.exactScore q n = 0 := by
  rw [← Weights.rank_eq_nil_iff, resolve_eq]
  cases hrank : e.weights.rank q (e.visible granted) with
  | nil =>
    rw [Weights.resolve_of_rank_eq_nil hrank]
    exact ⟨fun _ => rfl, fun _ => rfl⟩
  | cons best others =>
    rw [Weights.resolve_of_rank_eq_cons hrank]
    rcases best.node.expandFirst_cases scope with ⟨found, hfound⟩ | ⟨names, hmissing⟩
    · rw [hfound]
      simp [Except.map, Except.mapError]
    · rw [hmissing]
      simp [Except.map, Except.mapError]

/-- When there is a match, the best one decides the outcome. -/
theorem exists_best_of_resolve (h : e.resolve q scope granted ≠ .error (.resolve .noMatch)) :
    ∃ best, e.weights.IsBest q (e.visible granted) best ∧
      e.resolve q scope granted =
        ((best.expandFirst scope).map fun p =>
          (⟨best, p.2, p.1, (e.weights.scoreNode q best).score⟩ : Resolution)).mapError .resolve := by
  rw [resolve_eq] at h ⊢
  cases hrank : e.weights.rank q (e.visible granted) with
  | nil =>
    rw [Weights.resolve_of_rank_eq_nil hrank] at h
    exact absurd rfl h
  | cons best others =>
    obtain ⟨hscore, hbest⟩ :=
      Weights.isBest_of_rank_eq_cons (e.registry.nodup_visible granted) hrank
    refine ⟨best.node, hbest, ?_⟩
    rw [Weights.resolve_of_rank_eq_cons hrank, ← hscore]

/-- **The outcome of a query.** -/
theorem resolve_outcome :
    let nodes := e.visible granted
    let outcome := e.resolve q scope granted
    (∀ sid role requests,
        ((Session.start e sid role granted).run requests).resolve q scope = outcome) ∧
      ((∃ r, outcome = .ok r) ∨ outcome = .error (.resolve .noMatch) ∨
        ∃ id names, outcome = .error (.resolve (.missingScope id names))) ∧
      (outcome = .error (.resolve .noMatch) ↔ ∀ n ∈ nodes, e.weights.exactScore q n = 0) ∧
      (q.isEmpty = true → outcome = .error (.resolve .noMatch)) ∧
      (∀ n, (e.weights.scoreNode q n).score.toNat =
        min (e.weights.exactScore q n) (2 ^ 32 - 1)) ∧
      (outcome ≠ .error (.resolve .noMatch) →
        ∃ best, e.weights.IsBest q nodes best ∧ (∀ n, e.weights.IsBest q nodes n → n = best) ∧
          ((∃ t ∈ best.links, ∀ p ∈ t.requiredParams, scope.contains p = true) →
            ∃ before t after link, best.links = before ++ t :: after ∧
              (∀ u ∈ before, ∃ p ∈ u.requiredParams, scope.contains p = false) ∧
              (∀ p ∈ t.requiredParams, scope.contains p = true) ∧
              t.expand scope = some link ∧
              outcome = .ok ⟨best, link, t, (e.weights.scoreNode q best).score⟩) ∧
          ((∀ t ∈ best.links, ∃ p ∈ t.requiredParams, scope.contains p = false) →
            ∃ names, outcome = .error (.resolve (.missingScope best.id names)))) := by
  intro nodes outcome
  refine ⟨?_, e.resolve_cases q scope granted, e.resolve_eq_noMatch_iff q scope granted, ?_, ?_, ?_⟩
  · intro sid role requests
    rw [Session.resolve, Session.engine_run, Session.granted_run]
    rfl
  · intro hempty
    exact (e.resolve_eq_noMatch_iff q scope granted).mpr fun n _ =>
      e.weights.exactScore_of_isEmpty q n hempty
  · intro n
    exact e.weights.toNat_score q n
  · intro h
    obtain ⟨best, hbest, houtcome⟩ := e.exists_best_of_resolve q scope granted h
    refine ⟨best, hbest, fun n hn => hn.unique hbest, ?_, ?_⟩
    · rintro ⟨u, hu, hparams⟩
      obtain ⟨before, t, after, link, hlinks, hbefore, ht, hlink, hfound⟩ :=
        Node.exists_expandFirst_of_satisfied ⟨u, hu, Link.Template.satisfied_iff.mpr hparams⟩
      rw [hfound] at houtcome
      exact ⟨before, t, after, link, hlinks,
        fun v hv => Link.Template.unsatisfied_iff.mp (hbefore v hv),
        Link.Template.satisfied_iff.mp ht, hlink, houtcome⟩
    · intro hall
      have hno : ∀ t ∈ best.links, t.satisfied scope = false :=
        fun t ht => Link.Template.unsatisfied_iff.mpr (hall t ht)
      rw [Node.expandFirst_of_unsatisfied hno] at houtcome
      exact ⟨_, houtcome⟩

end Wayfinder.Engine
