import Wayfinder.Resolve.Ranking
import Mathlib.Data.List.Nodup
import Mathlib.Data.String.Basic
import Mathlib.Data.Prod.Lex
import Mathlib.Order.OrderDual

/-!
# The ranking is the one sorted list

`rank_unique`: among candidates with distinct ids the ranking lists every match once and nothing
else, strictly ascending in `ScoredNode.Before`, and it is the only list that does; so it depends on
the candidates only, not on the order in which they come.

`Before` compares the keys `rankKey` in a linear order, and the test that the ranking sorts with is
`≤` on those keys (`atMost_iff`). Ids are distinct, so keys are, and a list that ascends in distinct
keys is determined by its members.
-/

namespace Wayfinder

/-! ## The order of results -/

namespace ScoredNode

/-- One result comes before another: its score is higher, or the scores are equal and its priority
is lower, or both are equal and its id is smaller in the order of code points. -/
def Before (a b : ScoredNode) : Prop :=
  b.score.toNat < a.score.toNat ∨
    a.score.toNat = b.score.toNat ∧
      (a.node.priority.toInt < b.node.priority.toInt ∨
        a.node.priority.toInt = b.node.priority.toInt ∧ a.node.id < b.node.id)

instance (a b : ScoredNode) : Decidable (a.Before b) :=
  inferInstanceAs (Decidable (_ ∨ _ ∧ (_ ∨ _ ∧ _)))

/-- What results are compared by. -/
def rankKey (a : ScoredNode) : ℕᵒᵈ ×ₗ ℤ ×ₗ String :=
  toLex (OrderDual.toDual a.score.toNat, toLex (a.node.priority.toInt, a.node.id))

theorem before_iff {a b : ScoredNode} : a.Before b ↔ a.rankKey < b.rankKey := by
  simp only [Before, rankKey, Prod.Lex.toLex_lt_toLex, OrderDual.toDual_lt_toDual,
    OrderDual.toDual_inj]

theorem Before.asymm {a b : ScoredNode} (h : a.Before b) : ¬ b.Before a :=
  fun hba => lt_asymm (before_iff.mp h) (before_iff.mp hba)

theorem rankKey_ne {a b : ScoredNode} (h : a.node.id ≠ b.node.id) : a.rankKey ≠ b.rankKey := by
  intro he
  rw [rankKey, rankKey, toLex_inj, Prod.mk.injEq, toLex_inj, Prod.mk.injEq] at he
  exact h he.2.2

/-- The test that the ranking sorts with. -/
theorem atMost_iff {a b : ScoredNode} : a.atMost b = true ↔ a.rankKey ≤ b.rankKey := by
  rw [← not_lt, ← before_iff]
  unfold atMost Before
  split_ifs with hscore hpriority
  · have hne : a.score.toNat ≠ b.score.toNat := fun he => hscore (UInt32.toNat_inj.mp he)
    rw [decide_eq_true_eq]
    omega
  · have hscore' : a.score.toNat = b.score.toNat := by rw [not_not.mp hscore]
    have hne : a.node.priority.toInt ≠ b.node.priority.toInt :=
      fun he => hpriority (Int32.toInt_inj.mp he)
    rw [decide_eq_true_eq]
    omega
  · rw [not_not.mp hscore, not_not.mp hpriority]
    simp

/-- Results in the order of the test, no two of one node, ascend strictly. -/
theorem pairwise_before {l : List ScoredNode} (h : l.Pairwise fun a b => a.atMost b = true)
    (hids : (l.map (·.node.id)).Nodup) : l.Pairwise Before := by
  refine (h.and (List.pairwise_map.mp hids)).imp fun {a b} hab => ?_
  exact before_iff.mpr (lt_of_le_of_ne (atMost_iff.mp hab.1) (rankKey_ne hab.2))

/-- Two strictly ascending lists with the same members are equal. -/
theorem eq_of_pairwise_before {l m : List ScoredNode} (hl : l.Pairwise Before)
    (hm : m.Pairwise Before) (hmem : ∀ a, a ∈ l ↔ a ∈ m) : l = m := by
  have hnodup : ∀ {l : List ScoredNode}, l.Pairwise Before → l.Nodup := fun h =>
    h.imp fun {a b} hab he => (he ▸ hab).asymm (he ▸ hab)
  refine List.Perm.eq_of_pairwise (fun a b _ _ hab hba => absurd hba hab.asymm) hl hm ?_
  exact (List.perm_ext_iff_of_nodup (hnodup hl) (hnodup hm)).mpr hmem

end ScoredNode

/-! ## The ranking -/

namespace Weights

variable (w : Weights) (q : Query)

/-- The members of a ranking are the matches among the candidates. -/
theorem mem_rank {candidates : List Node} {found : ScoredNode} :
    found ∈ w.rank q candidates ↔
      ∃ n ∈ candidates, found = w.scoreNode q n ∧ 0 < found.score.toNat := by
  rw [rank, List.mem_mergeSort, List.mem_filter, List.mem_map, decide_eq_true_eq]
  constructor
  · rintro ⟨⟨n, hn, rfl⟩, hpos⟩
    exact ⟨n, hn, rfl, hpos⟩
  · rintro ⟨n, hn, rfl, hpos⟩
    exact ⟨⟨n, hn, rfl⟩, hpos⟩

theorem nodup_rank {candidates : List Node} (h : (candidates.map Node.id).Nodup) :
    ((w.rank q candidates).map (·.node.id)).Nodup := by
  have hperm := (List.mergeSort_perm
    ((candidates.map (w.scoreNode q)).filter (0 < ·.score.toNat)) ScoredNode.atMost).map (·.node.id)
  refine hperm.nodup_iff.mpr (List.Nodup.sublist (List.filter_sublist.map _) ?_)
  rw [List.map_map]
  exact h

theorem pairwise_rank {candidates : List Node} (h : (candidates.map Node.id).Nodup) :
    (w.rank q candidates).Pairwise ScoredNode.Before := by
  refine ScoredNode.pairwise_before (List.pairwise_mergeSort ?_ ?_ _) (w.nodup_rank q h)
  · intro a b c hab hbc
    rw [ScoredNode.atMost_iff] at hab hbc ⊢
    exact hab.trans hbc
  · intro a b
    rw [Bool.or_eq_true, ScoredNode.atMost_iff, ScoredNode.atMost_iff]
    exact le_total _ _

theorem rank_perm {candidates candidates' : List Node} (h : (candidates.map Node.id).Nodup)
    (hperm : candidates.Perm candidates') : w.rank q candidates' = w.rank q candidates := by
  have h' : (candidates'.map Node.id).Nodup := (hperm.map Node.id).nodup_iff.mp h
  refine ScoredNode.eq_of_pairwise_before (w.pairwise_rank q h') (w.pairwise_rank q h) fun a => ?_
  simp only [mem_rank, hperm.mem_iff]

/-- What matches stays as it stands if it stands in the order of the ranking. -/
theorem rank_of_pairwise {candidates : List Node}
    (h : ((candidates.map (w.scoreNode q)).filter (0 < ·.score.toNat)).Pairwise (·.atMost ·)) :
    w.rank q candidates = (candidates.map (w.scoreNode q)).filter (0 < ·.score.toNat) :=
  List.mergeSort_of_pairwise h

/-- Candidates may be left out before or after the ranking. -/
theorem filter_rank {candidates : List Node} (h : (candidates.map Node.id).Nodup)
    (p : Node → Bool) :
    (w.rank q candidates).filter (fun found => p found.node) =
      w.rank q (candidates.filter p) := by
  have hsub : ((candidates.filter p).map Node.id).Nodup :=
    h.sublist (List.filter_sublist.map _)
  refine ScoredNode.eq_of_pairwise_before ((w.pairwise_rank q h).sublist List.filter_sublist)
    (w.pairwise_rank q hsub) fun found => ?_
  simp only [List.mem_filter, mem_rank]
  constructor
  · rintro ⟨⟨n, hn, rfl, hpos⟩, hp⟩
    exact ⟨n, ⟨hn, hp⟩, rfl, hpos⟩
  · rintro ⟨n, ⟨hn, hp⟩, rfl, hpos⟩
    exact ⟨⟨n, hn, rfl, hpos⟩, hp⟩

/-- **The ranking is the one sorted list.** Every match among the candidates occurs once, nothing
else does, and results ascend strictly. No other list is such, and candidates in another order are
ranked alike. -/
theorem rank_unique (candidates : List Node) (h : (candidates.map Node.id).Nodup) :
    (∀ found, found ∈ w.rank q candidates ↔
        ∃ n ∈ candidates, found = w.scoreNode q n ∧ 0 < found.score.toNat) ∧
      ((w.rank q candidates).map (·.node.id)).Nodup ∧
      (w.rank q candidates).Pairwise ScoredNode.Before ∧
      (∀ l : List ScoredNode, l.Pairwise ScoredNode.Before →
        (∀ found, found ∈ l ↔
          ∃ n ∈ candidates, found = w.scoreNode q n ∧ 0 < found.score.toNat) →
        l = w.rank q candidates) ∧
      ∀ candidates' : List Node, candidates.Perm candidates' →
        w.rank q candidates' = w.rank q candidates := by
  refine ⟨fun _ => w.mem_rank q, w.nodup_rank q h, w.pairwise_rank q h, fun l hl hmem => ?_,
    fun _ => w.rank_perm q h⟩
  refine ScoredNode.eq_of_pairwise_before hl (w.pairwise_rank q h) fun a => ?_
  rw [hmem, mem_rank]

/-- Equal scores go by priority, a negative one first, then by id. -/
theorem rank_unique_ties :
    let node (id : String) (intents : List Intent) (priority : Int32) : Node :=
      { id, label := id, route := "/", domain := .execution, intents := .ofList intents, priority }
    let w : Weights := {}
    let q : Query := { intent := some .trackProgress }
    let candidates := [node "b" [.trackProgress] 5, node "d" [] 0, node "a" [.trackProgress] 5,
      node "c" [.trackProgress] (-1)]
    (candidates.map Node.id).Nodup ∧
      (w.rank q candidates).map (·.node.id) = ["c", "a", "b"] ∧
      w.rank q candidates.reverse = w.rank q candidates := by
  intro node w q candidates
  have hids : (candidates.map Node.id).Nodup := by decide
  obtain ⟨-, -, -, hunique, hperm⟩ := rank_unique w q candidates hids
  refine ⟨hids, ?_, hperm _ (List.reverse_perm candidates).symm⟩
  have hrank := hunique [w.scoreNode q (node "c" [.trackProgress] (-1)),
    w.scoreNode q (node "a" [.trackProgress] 5), w.scoreNode q (node "b" [.trackProgress] 5)]
    (by decide) fun found => ?_
  · rw [← hrank]
    rfl
  · constructor
    · intro h
      simp only [List.mem_cons, List.not_mem_nil, or_false] at h
      rcases h with rfl | rfl | rfl
      · exact ⟨_, by simp [candidates], rfl, by decide⟩
      · exact ⟨_, by simp [candidates], rfl, by decide⟩
      · exact ⟨_, by simp [candidates], rfl, by decide⟩
    · rintro ⟨n, hn, rfl, hpos⟩
      simp only [candidates, List.mem_cons, List.not_mem_nil, or_false] at hn
      rcases hn with rfl | rfl | rfl | rfl
      · simp
      · exact absurd hpos (by decide)
      · simp
      · simp

end Weights

end Wayfinder
