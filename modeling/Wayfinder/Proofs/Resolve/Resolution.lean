import Wayfinder.Proofs.Link.Template
import Wayfinder.Proofs.Resolve.Ranking
import Wayfinder.Proofs.Resolve.Score

/-!
# Where a query leads

A query leads to the best match (`Weights.IsBest`), of which there is at most one, or nowhere when
no candidate shares anything of weight with it (`rank_eq_nil_iff`). The link is that of the first
template whose parameters all have values; without one the best match alone is reported
(`expandFirst_eq_ok_iff`, `expandFirst_of_unsatisfied`).
-/

namespace Wayfinder

/-! ## The first satisfied template -/

namespace Node

variable {n : Node} {scope : Scope}

/-- The link is that of the first template that the scope satisfies. -/
theorem expandFirst_eq_ok_iff {t : Link.Template} {link : String} :
    n.expandFirst scope = .ok (t, link) ↔
      ∃ before after, n.links = before ++ t :: after ∧
        (∀ u ∈ before, u.satisfied scope = false) ∧ t.expand scope = some link := by
  have hfirst : n.links.findSome? (fun t => (t.expand scope).map (t, ·)) = some (t, link) ↔
      ∃ before after, n.links = before ++ t :: after ∧
        (∀ u ∈ before, u.satisfied scope = false) ∧ t.expand scope = some link := by
    rw [List.findSome?_eq_some_iff]
    simp only [Option.map_eq_none_iff, Option.map_eq_some_iff, Link.Template.expand_eq_none_iff]
    constructor
    · rintro ⟨before, u, after, hlinks, ⟨link', hlink, he⟩, hbefore⟩
      cases he
      exact ⟨before, after, hlinks, hbefore, hlink⟩
    · rintro ⟨before, after, hlinks, hbefore, hlink⟩
      exact ⟨before, t, after, hlinks, ⟨link, hlink, rfl⟩, hbefore⟩
  rw [← hfirst, expandFirst]
  cases n.links.findSome? (fun t => (t.expand scope).map (t, ·)) with
  | none => simp
  | some found => simp

theorem expandFirst_of_unsatisfied (h : ∀ t ∈ n.links, t.satisfied scope = false) :
    n.expandFirst scope =
      .error (.missingScope n.id (Text.distinct (n.links.flatMap (·.missing scope)))) := by
  have hnone : n.links.findSome? (fun t => (t.expand scope).map (t, ·)) = none := by
    refine List.findSome?_eq_none_iff.mpr fun t ht => ?_
    rw [Option.map_eq_none_iff, Link.Template.expand_eq_none_iff]
    exact h t ht
  rw [expandFirst, hnone]

/-- A node either has a link for the scope or is reported itself. -/
theorem expandFirst_cases (n : Node) (scope : Scope) :
    (∃ found, n.expandFirst scope = .ok found) ∨
      ∃ names, n.expandFirst scope = .error (.missingScope n.id names) := by
  unfold expandFirst
  split
  · exact Or.inl ⟨_, rfl⟩
  · exact Or.inr ⟨_, rfl⟩

/-- With a satisfied template there is a first one, and its link is the one that is given. -/
theorem exists_expandFirst_of_satisfied (h : ∃ t ∈ n.links, t.satisfied scope = true) :
    ∃ before t after link, n.links = before ++ t :: after ∧
      (∀ u ∈ before, u.satisfied scope = false) ∧ t.satisfied scope = true ∧
      t.expand scope = some link ∧ n.expandFirst scope = .ok (t, link) := by
  cases hfirst : n.links.findSome? (fun t => (t.expand scope).map (t, ·)) with
  | none =>
    obtain ⟨t, ht, hsat⟩ := h
    have hnone := List.findSome?_eq_none_iff.mp hfirst t ht
    rw [Option.map_eq_none_iff, Link.Template.expand_eq_none_iff, hsat] at hnone
    cases hnone
  | some found =>
    obtain ⟨t, link⟩ := found
    have hok : n.expandFirst scope = .ok (t, link) := by rw [expandFirst, hfirst]
    obtain ⟨before, after, hlinks, hbefore, hlink⟩ := expandFirst_eq_ok_iff.mp hok
    exact ⟨before, t, after, link, hlinks, hbefore, Link.Template.satisfied_of_expand hlink, hlink,
      hok⟩

end Node

/-! ## The best match -/

namespace Weights

variable (w : Weights) (q : Query) (candidates : List Node)

/-- The candidate matches, and comes before every other candidate that does. -/
def IsBest (n : Node) : Prop :=
  n ∈ candidates ∧ 0 < (w.scoreNode q n).score.toNat ∧
    ∀ m ∈ candidates, 0 < (w.scoreNode q m).score.toNat → m ≠ n →
      (w.scoreNode q n).Before (w.scoreNode q m)

variable {w q candidates}

theorem IsBest.unique {m n : Node} (hm : w.IsBest q candidates m) (hn : w.IsBest q candidates n) :
    m = n := by
  by_contra hne
  exact (hm.2.2 n hn.1 hn.2.1 fun he => hne he.symm).asymm (hn.2.2 m hm.1 hm.2.1 hne)

theorem rank_eq_nil_iff :
    w.rank q candidates = [] ↔ ∀ n ∈ candidates, w.exactScore q n = 0 := by
  rw [List.eq_nil_iff_forall_not_mem]
  constructor
  · intro h n hn
    by_contra hne
    exact h _ ((w.mem_rank q).mpr ⟨n, hn, rfl, (w.score_pos_iff q n).mpr hne⟩)
  · intro h found hfound
    obtain ⟨n, hn, rfl, hpos⟩ := (w.mem_rank q).mp hfound
    exact (w.score_pos_iff q n).mp hpos (h n hn)

/-- The front of a ranking is the best match. -/
theorem isBest_of_rank_eq_cons (hids : (candidates.map Node.id).Nodup) {best : ScoredNode}
    {others : List ScoredNode} (hrank : w.rank q candidates = best :: others) :
    best = w.scoreNode q best.node ∧ w.IsBest q candidates best.node := by
  have hfront := (w.mem_rank q).mp (hrank ▸ List.mem_cons_self)
  obtain ⟨n, hn, rfl, hpos⟩ := hfront
  refine ⟨rfl, hn, hpos, fun m hm hmpos hne => ?_⟩
  have hmrank := (w.mem_rank q).mpr ⟨m, hm, rfl, hmpos⟩
  have hsorted := w.pairwise_rank q hids
  rw [hrank] at hmrank hsorted
  rcases List.mem_cons.mp hmrank with he | hmem
  · exact absurd (congrArg ScoredNode.node he) hne
  · exact (List.pairwise_cons.mp hsorted).1 _ hmem

/-! ## Resolution -/

theorem resolve_of_rank_eq_nil {scope : Scope} (h : w.rank q candidates = []) :
    w.resolve q scope candidates = .error .noMatch := by
  rw [resolve, h]

theorem resolve_of_rank_eq_cons {scope : Scope} {best : ScoredNode} {others : List ScoredNode}
    (h : w.rank q candidates = best :: others) :
    w.resolve q scope candidates =
      (best.node.expandFirst scope).map fun p => ⟨best.node, p.2, p.1, best.score⟩ := by
  rw [resolve, h]
  show (best.node.expandFirst scope >>= fun p => _) = _
  cases best.node.expandFirst scope <;> rfl

variable (w q candidates) in
/-- There are three outcomes, and two of them are about a match. -/
theorem resolve_cases (scope : Scope) :
    w.resolve q scope candidates = .error .noMatch ∨
      ∃ found ∈ w.rank q candidates,
        (∃ link t, w.resolve q scope candidates = .ok ⟨found.node, link, t, found.score⟩) ∨
          ∃ names, w.resolve q scope candidates = .error (.missingScope found.node.id names) := by
  cases hrank : w.rank q candidates with
  | nil => exact Or.inl (resolve_of_rank_eq_nil hrank)
  | cons best others =>
    refine Or.inr ⟨best, List.mem_cons_self, ?_⟩
    rw [resolve_of_rank_eq_cons hrank]
    rcases best.node.expandFirst_cases scope with ⟨⟨t, link⟩, hfound⟩ | ⟨names, hmissing⟩
    · rw [hfound]
      exact Or.inl ⟨link, t, rfl⟩
    · rw [hmissing]
      exact Or.inr ⟨names, rfl⟩

theorem node_mem_of_mem_rank {found : ScoredNode} (h : found ∈ w.rank q candidates) :
    found.node ∈ candidates := by
  obtain ⟨n, hn, rfl, -⟩ := (w.mem_rank q).mp h
  exact hn

theorem mem_of_resolve_eq_ok {scope : Scope} {r : Resolution}
    (h : w.resolve q scope candidates = .ok r) : r.node ∈ candidates := by
  rcases w.resolve_cases q candidates scope with
    hno | ⟨found, hfound, ⟨link, t, hok⟩ | ⟨names, hmissing⟩⟩
  · rw [hno] at h
    cases h
  · rw [hok] at h
    cases h
    exact node_mem_of_mem_rank hfound
  · rw [hmissing] at h
    cases h

theorem mem_of_resolve_eq_missing {scope : Scope} {id : String} {names : List String}
    (h : w.resolve q scope candidates = .error (.missingScope id names)) :
    ∃ n ∈ candidates, n.id = id := by
  rcases w.resolve_cases q candidates scope with
    hno | ⟨found, hfound, ⟨link, t, hok⟩ | ⟨names, hmissing⟩⟩
  · rw [hno] at h
    cases h
  · rw [hok] at h
    cases h
  · rw [hmissing] at h
    cases h
    exact ⟨found.node, node_mem_of_mem_rank hfound, rfl⟩

end Weights

end Wayfinder
