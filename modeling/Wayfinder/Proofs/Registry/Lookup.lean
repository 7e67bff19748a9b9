import Wayfinder.Registry.Basic
import Wayfinder.Proofs.Named
import Wayfinder.Proofs.Vocabulary.TermSet

/-!
# Construction, look-up by id and visible nodes

A registry is made from nodes without a fault and lists exactly those (`ofNodes_eq_ok_iff`). The
node that an id looks up is the one node of the registry with that id (`get?_eq_some_iff`), and the
visible nodes are the permitted nodes of the registry, each once (`mem_visible`, `nodup_visible`).
-/

namespace Wayfinder.Registry

variable (r : Registry) (granted : TermSet Capability)

/-! ## Construction -/

theorem ofNodes_eq_ok_iff {ns : List Node} {r : Registry} :
    ofNodes ns = .ok r ↔ firstFault? [] ns = none ∧ r.nodes = ns := by
  unfold ofNodes
  split
  case h_1 e he => simp [he]
  case h_2 he =>
    rw [and_iff_right he, Except.ok.injEq, Registry.mk.injEq]
    exact eq_comm

theorem ofNodes_eq_error_iff {ns : List Node} {e : RegistryError} :
    ofNodes ns = .error e ↔ firstFault? [] ns = some e := by
  unfold ofNodes
  split
  case h_1 e' he => rw [he, Except.error.injEq, Option.some.injEq]
  case h_2 he => simp [he]

/-! ## Look-up -/

theorem get?_eq_some_iff {id : String} {n : Node} :
    r.get? id = some n ↔ n ∈ r.nodes ∧ n.id = id :=
  find?_name_eq_some_iff r.nodup_ids

theorem get?_eq_none_iff {id : String} : r.get? id = none ↔ id ∉ r.nodes.map Node.id := by
  rw [get?, List.find?_eq_none, List.mem_map]
  simp

/-! ## Visible nodes -/

theorem visible_perm : (r.visible granted).Perm (r.nodes.filter (·.permits granted)) :=
  List.mergeSort_perm _ _

theorem mem_visible {n : Node} :
    n ∈ r.visible granted ↔ n ∈ r.nodes ∧ n.permits granted = true := by
  rw [(r.visible_perm granted).mem_iff, List.mem_filter]

theorem nodup_visible : ((r.visible granted).map Node.id).Nodup :=
  ((r.visible_perm granted).map Node.id).nodup_iff.mpr
    (r.nodup_ids.sublist (List.filter_sublist.map _))

end Wayfinder.Registry
