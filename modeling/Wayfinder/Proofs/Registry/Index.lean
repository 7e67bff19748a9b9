import Wayfinder.Proofs.OrderedMap
import Wayfinder.Proofs.Registry.Lookup

/-!
# The index of a registry

Nodes can be checked and put into an index in one pass (`indexed`): each node is checked against the
ids that the index has so far, then the index gets the position of the node. The pass stops at the
nodes that make no registry, with the same fault (`indexed_eq_error_iff`), and the node at the position
that the index has for an id is the one that the registry finds (`exists_indexed_of_ofNodes`).

The invariant of the pass is that the index has for each id the first position where it stands
(`Index.Positions`). An insertion keeps it because the id is new: no position is written over.
-/

namespace Wayfinder

/-! ## Indices -/

/-- Positions by id. -/
abbrev Index := OrderedMap Nat

namespace Index

/-- The node whose position the index has for the id. -/
def node? (index : Index) (ns : List Node) (id : String) : Option Node :=
  (index.get? id).bind (ns[·]?)

/-- The index has for each id the position of the first node with this id. -/
def Positions (index : Index) (ns : List Node) : Prop :=
  ∀ id, index.get? id = ns.findIdx? (·.id = id)

variable {index : Index} {ns : List Node}

theorem positions_empty : Positions .empty [] :=
  fun _ => rfl

/-- One step: the next node has a new id. -/
theorem Positions.concat (h : index.Positions ns) {n : Node} (hnew : n.id ∉ index.keys) :
    Positions (index.insert n.id ns.length) (ns ++ [n]) := by
  intro id
  rw [OrderedMap.get?_insert, List.findIdx?_append, ← h id]
  by_cases hid : n.id = id
  · subst hid
    rw [if_pos rfl, OrderedMap.get?_eq_none.mpr hnew]
    simp [List.findIdx?_cons]
  · rw [if_neg hid]
    simp [List.findIdx?_cons, hid]

theorem Positions.node?_eq_find? (h : index.Positions ns) (id : String) :
    index.node? ns id = ns.find? (·.id = id) := by
  rw [node?, h id, List.find?_eq_bind_findIdx?_getElem?]

theorem Positions.contains_eq (h : index.Positions ns) (id : String) :
    index.contains id = (ns.find? (·.id = id)).isSome := by
  rw [OrderedMap.contains, h id, List.findIdx?_isSome, List.isSome_find?]

end Index

/-! ## Indexing while checking -/

/-- Goes on with nodes from position `i`. -/
def indexFrom (i : Nat) (index : Index) : List Node → Except RegistryError Index
  | [] => .ok index
  | n :: ns =>
    match n.fault? index.keys with
    | some e => .error e
    | none => indexFrom (i + 1) (index.insert n.id i) ns

/-- The index of nodes, or the first fault. -/
def indexed (ns : List Node) : Except RegistryError Index :=
  indexFrom 0 .empty ns

theorem firstFault?_congr {seen seen' : List String} (h : ∀ id, id ∈ seen ↔ id ∈ seen')
    (ns : List Node) : firstFault? seen ns = firstFault? seen' ns := by
  induction ns generalizing seen seen' with
  | nil => rfl
  | cons n ns ih =>
    have hcons : ∀ id, id ∈ n.id :: seen ↔ id ∈ n.id :: seen' := by
      intro id
      rw [List.mem_cons, List.mem_cons, h id]
    have hfault : n.fault? seen = n.fault? seen' := by
      simp only [Node.fault?, h n.id]
    rw [firstFault?, firstFault?, hfault, ih hcons]

variable {i : Nat} {index index' : Index} {ns before : List Node}

theorem indexFrom_eq_error_iff {e : RegistryError} :
    indexFrom i index ns = .error e ↔ firstFault? index.keys ns = some e := by
  induction ns generalizing i index with
  | nil => simp [indexFrom, firstFault?]
  | cons n ns ih =>
    rw [indexFrom, firstFault?]
    cases n.fault? index.keys with
    | some e' => simp
    | none =>
      have hkeys : ∀ id, id ∈ (index.insert n.id i).keys ↔ id ∈ n.id :: index.keys := by
        intro id
        rw [OrderedMap.mem_keys_insert, List.mem_cons, or_comm]
      rw [Option.none_or, ← firstFault?_congr hkeys ns]
      exact ih

/-- A whole run: what was read before and all that follows. -/
theorem Index.Positions.of_indexFrom (h : index.Positions before)
    (hrun : indexFrom before.length index ns = .ok index') : index'.Positions (before ++ ns) := by
  induction ns generalizing before index with
  | nil =>
    cases hrun
    rwa [List.append_nil]
  | cons n ns ih =>
    rw [indexFrom] at hrun
    cases hfault : n.fault? index.keys with
    | some e =>
      rw [hfault] at hrun
      cases hrun
    | none =>
      have hnew : n.id ∉ index.keys := (Node.fault?_eq_none hfault).2.2
      rw [List.append_cons]
      refine ih (h.concat hnew) ?_
      rwa [hfault, ← List.length_concat, List.concat_eq_append] at hrun

theorem indexed_eq_error_iff {e : RegistryError} :
    indexed ns = .error e ↔ Registry.ofNodes ns = .error e := by
  rw [indexed, indexFrom_eq_error_iff, Registry.ofNodes_eq_error_iff]
  rfl

/-- The nodes of a registry have an index, and it finds what the registry finds. -/
theorem exists_indexed_of_ofNodes {r : Registry} (h : Registry.ofNodes ns = .ok r) :
    ∃ index, indexed ns = .ok index ∧ (∀ id, index.node? ns id = r.get? id) ∧
      ∀ id, index.contains id = r.contains id := by
  cases hrun : indexed ns with
  | error e =>
    rw [indexed_eq_error_iff, h] at hrun
    cases hrun
  | ok index =>
    obtain ⟨-, rfl⟩ := Registry.ofNodes_eq_ok_iff.mp h
    have hpositions : index.Positions r.nodes := Index.positions_empty.of_indexFrom hrun
    refine ⟨index, rfl, hpositions.node?_eq_find?, fun id => ?_⟩
    rw [Registry.contains, Registry.get?, hpositions.contains_eq]

end Wayfinder
