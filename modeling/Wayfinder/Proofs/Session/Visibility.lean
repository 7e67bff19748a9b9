import Wayfinder.Session.Basic
import Wayfinder.Proofs.Registry.Lookup
import Wayfinder.Proofs.Resolve.Resolution
import Mathlib.Tactic.TFAE

/-!
# All decisions about visibility agree

`visibility`: in a session after any requests, a node is listed exactly when it can be looked up,
has a policy and opens; a failure tells an unknown id from missing capabilities, and names just
those whose grant would show the node; ranking and resolution find visible nodes only; and neither
the role nor the requests made so far bear on any of it.

Everything goes through `Session.node`, whose answer depends on the registry and the grants alone
(`node_of_mem`, `node_of_not_mem`). The policy and the screen are functions of the node that it
finds (`policy_eq_map`, `openScreen_eq_map`), and a request changes neither engine nor grants
(`engine_run`, `granted_run`).
-/

namespace Wayfinder

namespace Session

/-! ## Runs -/

/-- The session after requests for presets, accepted or refused. -/
def run (s : Session) (requests : List Preset) : Session :=
  requests.foldl Session.after s

variable (s : Session)

theorem engine_run (requests : List Preset) : (s.run requests).engine = s.engine := by
  induction requests generalizing s with
  | nil => rfl
  | cons p requests ih => exact ih (s.after p)

theorem granted_run (requests : List Preset) : (s.run requests).granted = s.granted := by
  induction requests generalizing s with
  | nil => rfl
  | cons p requests ih => exact ih (s.after p)

/-! ## A node -/

variable {s} {id : String}

theorem mem_visible {n : Node} :
    n ∈ s.visible ↔ n ∈ s.engine.registry.nodes ∧ n.permits s.granted = true :=
  s.engine.registry.mem_visible s.granted

/-- The capabilities that a node asks for beyond the granted ones. -/
def lacking (granted : TermSet Capability) (n : Node) : List Capability :=
  Term.all.filter fun c => c ∈ n.requiredCapabilities ∧ c ∉ granted

theorem lacking_ne_nil {granted : TermSet Capability} {n : Node}
    (h : n.permits granted = false) : lacking granted n ≠ [] := by
  rw [lacking, ← TermSet.missing_eq_filter_all]
  intro hnil
  rw [Node.permits, TermSet.covers_iff_missing_eq_nil.mpr hnil] at h
  exact Bool.noConfusion h

theorem node_of_mem {n : Node} (h : n ∈ s.engine.registry.nodes) :
    s.node n.id = if n.permits s.granted then .ok n
      else .error (.notVisible n.id (lacking s.granted n)) := by
  rw [node, Registry.get, (Registry.get?_eq_some_iff _).mpr ⟨h, rfl⟩, lacking,
    ← TermSet.missing_eq_filter_all]

theorem node_of_not_mem (h : id ∉ s.engine.registry.nodes.map Node.id) :
    s.node id = .error (.registry (.notFound id)) := by
  rw [node, Registry.get, (Registry.get?_eq_none_iff _).mpr h]

theorem node_eq_ok_iff {n : Node} : s.node id = .ok n ↔ n ∈ s.visible ∧ n.id = id := by
  by_cases hid : id ∈ s.engine.registry.nodes.map Node.id
  · obtain ⟨m, hm, rfl⟩ := List.mem_map.mp hid
    rw [node_of_mem hm, mem_visible]
    constructor
    · intro h
      split_ifs at h with hpermits
      obtain rfl := Except.ok.inj h
      exact ⟨⟨hm, hpermits⟩, rfl⟩
    · rintro ⟨⟨hn, hpermits⟩, he⟩
      obtain rfl := List.inj_on_of_nodup_map s.engine.registry.nodup_ids hn hm he
      rw [if_pos hpermits]
  · rw [node_of_not_mem hid, mem_visible]
    constructor
    · intro h
      cases h
    · rintro ⟨⟨hn, -⟩, rfl⟩
      exact absurd (List.mem_map_of_mem hn) hid

theorem node_eq_notFound_iff {err : EngineError} (h : s.node id = .error err) :
    err = .registry (.notFound id) ↔ id ∉ s.engine.registry.nodes.map Node.id := by
  constructor
  · rintro rfl hid
    obtain ⟨n, hn, rfl⟩ := List.mem_map.mp hid
    rw [node_of_mem hn] at h
    split_ifs at h
    cases h
  · intro hid
    rw [node_of_not_mem hid] at h
    exact (Except.error.inj h).symm

theorem node_error_of_mem {err : EngineError} {n : Node} (hn : n ∈ s.engine.registry.nodes)
    (h : s.node n.id = .error err) :
    err = .notVisible n.id (lacking s.granted n) ∧ lacking s.granted n ≠ [] := by
  rw [node_of_mem hn] at h
  split_ifs at h with hpermits
  exact ⟨(Except.error.inj h).symm, lacking_ne_nil (by simpa using hpermits)⟩

theorem exists_node_eq_ok_iff : (∃ n, s.node id = .ok n) ↔ ∃ n ∈ s.visible, n.id = id := by
  simp only [node_eq_ok_iff]

/-- Granting what a node lacks shows it, whatever the role and the requests. -/
theorem node_extend_lacking {e : Engine} {granted : TermSet Capability} {n : Node}
    (h : n ∈ e.registry.nodes) (sid role : String) (requests : List Preset) :
    ((Session.start e sid role (granted.extend (lacking granted n))).run requests).node n.id =
      .ok n := by
  rw [node_eq_ok_iff, mem_visible, engine_run, granted_run]
  refine ⟨⟨h, ?_⟩, rfl⟩
  rw [lacking, ← TermSet.missing_eq_filter_all]
  exact TermSet.covers_extend_missing granted n.requiredCapabilities

/-! ## What depends on the node -/

variable (s) in
/-- The screen that opens on a visible node. -/
def screenOf (schema : FilterSchema) (query : Option String) (n : Node) : Screen :=
  let policy := n.effectivePolicy s.lens.current
  { node := n
    lens := s.lens
    policy
    actions := policy.policy.actions s.granted s.lens.readOnly
    filters := (FilterState.ofQuery schema (query.getD "")).seed policy.policy.defaultFilters }

theorem policy_eq_map : s.policy id = (s.node id).map (·.effectivePolicy s.lens.current) := by
  unfold policy
  cases s.node id <;> rfl

theorem openScreen_eq_map {schema : FilterSchema} {query : Option String} :
    s.openScreen id schema query = (s.node id).map (s.screenOf schema query) := by
  unfold openScreen
  cases s.node id <;> rfl

theorem map_eq_error_iff {ε α β : Type} {x : Except ε α} {f : α → β} {err : ε} :
    x.map f = .error err ↔ x = .error err := by
  cases x <;> simp [Except.map]

theorem exists_map_eq_ok_iff {ε α β : Type} {x : Except ε α} {f : α → β} :
    (∃ b, x.map f = .ok b) ↔ ∃ a, x = .ok a := by
  cases x <;> simp [Except.map]

theorem policy_eq_error_iff {err : EngineError} :
    s.policy id = .error err ↔ s.node id = .error err := by
  rw [policy_eq_map, map_eq_error_iff]

theorem openScreen_eq_error_iff {schema : FilterSchema} {query : Option String}
    {err : EngineError} :
    s.openScreen id schema query = .error err ↔ s.node id = .error err := by
  rw [openScreen_eq_map, map_eq_error_iff]

/-! ## Two sessions with the same grants -/

section same

variable {s' : Session} (hengine : s'.engine = s.engine) (hgranted : s'.granted = s.granted)

include hengine hgranted

theorem visible_congr : s'.visible = s.visible := by
  rw [visible, visible, hengine, hgranted]

theorem node_congr : s'.node id = s.node id := by
  rw [node, node, hengine, hgranted]

theorem rank_congr (q : Query) : s'.rank q = s.rank q := by
  rw [rank, rank, visible_congr hengine hgranted, hengine]

theorem resolve_congr (q : Query) (scope : Scope) : s'.resolve q scope = s.resolve q scope := by
  rw [resolve, resolve, hengine, hgranted]

end same

/-! ## Results of queries -/

theorem node_of_mem_rank {q : Query} {found : ScoredNode} (h : found ∈ s.rank q) :
    s.node found.node.id = .ok found.node :=
  node_eq_ok_iff.mpr ⟨Weights.node_mem_of_mem_rank h, rfl⟩

theorem node_of_resolve_eq_ok {q : Query} {scope : Scope} {r : Resolution}
    (h : s.resolve q scope = .ok r) : s.node r.node.id = .ok r.node := by
  rw [resolve, Engine.resolve] at h
  cases hw : s.engine.weights.resolve q scope (s.engine.visible s.granted) with
  | error err =>
    rw [hw] at h
    cases h
  | ok r' =>
    rw [hw] at h
    cases h
    exact node_eq_ok_iff.mpr ⟨Weights.mem_of_resolve_eq_ok hw, rfl⟩

theorem node_of_resolve_eq_missing {q : Query} {scope : Scope} {names : List String}
    (h : s.resolve q scope = .error (.resolve (.missingScope id names))) :
    ∃ n, s.node id = .ok n := by
  rw [resolve, Engine.resolve] at h
  cases hw : s.engine.weights.resolve q scope (s.engine.visible s.granted) with
  | error err =>
    rw [hw] at h
    cases h
    exact exists_node_eq_ok_iff.mpr (Weights.mem_of_resolve_eq_missing hw)
  | ok r' =>
    rw [hw] at h
    cases h

/-! ## The decisions -/

/-- **All decisions about visibility agree**, and the grants alone make them. -/
theorem visibility (e : Engine) (sid role : String) (granted : TermSet Capability)
    (requests : List Preset) (id : String) (schema : FilterSchema) (query : Option String)
    (q : Query) (scope : Scope) :
    let s := (Session.start e sid role granted).run requests
    [∃ n ∈ s.visible, n.id = id, ∃ n, s.node id = .ok n, ∃ p, s.policy id = .ok p,
        ∃ screen, s.openScreen id schema query = .ok screen].TFAE ∧
      (∀ err, s.node id = .error err ∨ s.policy id = .error err ∨
          s.openScreen id schema query = .error err →
        (err = .registry (.notFound id) ↔ id ∉ e.registry.nodes.map Node.id) ∧
          ∀ n ∈ e.registry.nodes, n.id = id →
            err = .notVisible id (lacking granted n) ∧ lacking granted n ≠ [] ∧
              ∀ sid' role' requests',
                ((Session.start e sid' role' (granted.extend (lacking granted n))).run
                  requests').node id = .ok n) ∧
      (∀ found ∈ s.rank q, s.node found.node.id = .ok found.node) ∧
      (∀ r, s.resolve q scope = .ok r → s.node r.node.id = .ok r.node) ∧
      (∀ id' names, s.resolve q scope = .error (.resolve (.missingScope id' names)) →
        ∃ n, s.node id' = .ok n) ∧
      ∀ sid' role' requests',
        let s' := (Session.start e sid' role' granted).run requests'
        s'.visible = s.visible ∧ s'.node id = s.node id ∧ s'.rank q = s.rank q ∧
          s'.resolve q scope = s.resolve q scope ∧
          (∀ err, s'.policy id = .error err ↔ s.policy id = .error err) ∧
          ∀ schema' query' err, s'.openScreen id schema' query' = .error err ↔
            s.openScreen id schema query = .error err := by
  intro s
  have hengine : s.engine = e := engine_run _ requests
  have hgranted : s.granted = granted := granted_run _ requests
  refine ⟨?_, ?_, fun _ => node_of_mem_rank, fun _ => node_of_resolve_eq_ok,
    fun _ _ => node_of_resolve_eq_missing, ?_⟩
  · tfae_have 1 ↔ 2 := exists_node_eq_ok_iff.symm
    tfae_have 2 ↔ 3 := by
      rw [policy_eq_map, exists_map_eq_ok_iff]
    tfae_have 2 ↔ 4 := by
      rw [openScreen_eq_map, exists_map_eq_ok_iff]
    tfae_finish
  · intro err herr
    rw [policy_eq_error_iff, openScreen_eq_error_iff, or_self, or_self] at herr
    have hnotFound := node_eq_notFound_iff herr
    rw [hengine] at hnotFound
    refine ⟨hnotFound, ?_⟩
    rintro n hn rfl
    obtain ⟨hlacks, hne⟩ := node_error_of_mem (hengine ▸ hn) herr
    rw [hgranted] at hlacks hne
    exact ⟨hlacks, hne, fun sid' role' requests' => node_extend_lacking hn sid' role' requests'⟩
  · intro sid' role' requests' s'
    have hengine' : s'.engine = s.engine := (engine_run _ requests').trans hengine.symm
    have hgranted' : s'.granted = s.granted := (granted_run _ requests').trans hgranted.symm
    refine ⟨visible_congr hengine' hgranted', node_congr hengine' hgranted',
      rank_congr hengine' hgranted' q, resolve_congr hengine' hgranted' q scope, ?_, ?_⟩
    · intro err
      rw [policy_eq_error_iff, policy_eq_error_iff, node_congr hengine' hgranted']
    · intro schema' query' err
      rw [openScreen_eq_error_iff, openScreen_eq_error_iff, node_congr hengine' hgranted']

end Session

end Wayfinder
