import Wayfinder.Proofs.Registry.Listing
import Wayfinder.Proofs.Session.Visibility

/-!
# More grants only add

`grants_add`: a user who is granted more sees the same nodes in the same order with others between
them, and so for the results of a query, whose scores and matches stay. So it makes no difference
whether nodes are hidden before a query is answered or from its answer.

Both the listing and the ranking are sorted by an order in which no two nodes tie, so that leaving
nodes out commutes with the sorting (`Registry.filter_visible`, `Weights.filter_rank`).
-/

namespace Wayfinder.Engine

variable (e : Engine) (q : Query) (granted : TermSet Capability)

/-- Ranking what a user sees is ranking all nodes and leaving out those that are hidden. -/
theorem rank_visible :
    e.weights.rank q (e.visible granted) =
      (e.weights.rank q e.registry.nodes).filter (·.node.permits granted) := by
  have hperm : (e.registry.nodes.filter (·.permits granted)).Perm (e.visible granted) :=
    (e.registry.visible_perm granted).symm
  rw [e.weights.rank_perm q (e.registry.nodup_ids.sublist (List.filter_sublist.map _)) hperm]
  exact (e.weights.filter_rank q e.registry.nodup_ids (·.permits granted)).symm

theorem rank_run (sid role : String) (requests : List Preset) :
    ((Session.start e sid role granted).run requests).rank q =
      e.weights.rank q (e.visible granted) := by
  rw [Session.rank, Session.visible, Session.engine_run, Session.granted_run]
  rfl

/-- **More grants only add.** What is listed and ranked for the smaller set of capabilities is what
these permit of what is listed and ranked for the larger one, in sessions of any role and after any
requests; and ranking after hiding is hiding after ranking. -/
theorem grants_add (more : TermSet Capability) (h : ∀ c ∈ granted, c ∈ more) :
    e.visible granted = (e.visible more).filter (·.permits granted) ∧
      e.weights.rank q (e.visible granted) =
        (e.weights.rank q (e.visible more)).filter (·.node.permits granted) ∧
      (∀ sid role requests sid' role' requests',
        ((Session.start e sid role granted).run requests).rank q =
          (((Session.start e sid' role' more).run requests').rank q).filter
            (·.node.permits granted)) ∧
      ∀ caps, e.weights.rank q (e.visible caps) =
        (e.weights.rank q e.registry.nodes).filter (·.node.permits caps) := by
  have hvisible : e.visible granted = (e.visible more).filter (·.permits granted) :=
    (e.registry.filter_visible granted h).symm
  have hrank : e.weights.rank q (e.visible granted) =
      (e.weights.rank q (e.visible more)).filter (·.node.permits granted) := by
    rw [hvisible]
    exact (e.weights.filter_rank q (e.registry.nodup_visible more) (·.permits granted)).symm
  refine ⟨hvisible, hrank, ?_, e.rank_visible q⟩
  intro sid role requests sid' role' requests'
  rw [rank_run, rank_run, hrank]

/-- The tests come between the issues and the blockers, which have the same priority; the board stays
in front. -/
theorem grants_add_tests :
    let node (id : String) (required : Capability) (intent : Intent) (priority : Int32) : Node :=
      { id, label := id, route := "/", domain := .execution, priority
        requiredCapabilities := .ofList [required], intents := .ofList [intent] }
    let e : Engine := { registry := ⟨[node "issues" .viewIssues .trackProgress 5,
      node "tests" .viewTests .trackProgress 5, node "blockers" .viewIssues .findBlockers 5,
      node "board" .viewIssues .trackProgress (-1)], by decide, by decide, by decide⟩ }
    let q : Query := { intent := some .trackProgress }
    let granted : TermSet Capability := .ofList [.viewIssues]
    let more : TermSet Capability := .ofList [.viewIssues, .viewTests]
    (∀ c ∈ granted, c ∈ more) ∧
      (e.visible more).map Node.id = ["board", "issues", "tests", "blockers"] ∧
      (e.visible granted).map Node.id = ["board", "issues", "blockers"] ∧
      (e.weights.rank q (e.visible more)).map (·.node.id) = ["board", "issues", "tests"] ∧
      (e.weights.rank q (e.visible granted)).map (·.node.id) = ["board", "issues"] := by
  intro node e q granted more
  have h : ∀ c ∈ granted, c ∈ more := by decide
  obtain ⟨hvisible, hrank, -, -⟩ := grants_add e q granted more h
  have hmore : e.visible more = [node "board" .viewIssues .trackProgress (-1),
      node "issues" .viewIssues .trackProgress 5, node "tests" .viewTests .trackProgress 5,
      node "blockers" .viewIssues .findBlockers 5] :=
    e.registry.visible_eq (by decide) (List.perm_append_singleton _ [_, _, _])
  have hranked : e.weights.rank q (e.visible more) =
      ((e.visible more).map (e.weights.scoreNode q)).filter (0 < ·.score.toNat) := by
    rw [hmore]
    exact e.weights.rank_of_pairwise q (by decide +kernel)
  rw [hrank, hvisible, hranked, hmore]
  exact ⟨h, rfl, rfl, by decide +kernel, by decide +kernel⟩

end Wayfinder.Engine
