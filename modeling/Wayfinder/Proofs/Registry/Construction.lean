import Wayfinder.Proofs.FirstFault
import Wayfinder.Proofs.Link.Template
import Wayfinder.Proofs.Registry.Index
import Wayfinder.Proofs.Text.Blank

/-!
# Which nodes make a registry

`construction`: nodes make a registry if and only if they are `Acceptable`; otherwise the error is the
fault (`Node.Fault`) of the first node that has one after acceptable nodes. The registry lists
the nodes as they were given and finds by an id the one node that has it, and so does the index that
is filled in while the nodes are checked.

Of the ids it has seen, the pass needs no more than which they are (`Node.Fault.of_mem_iff`), so a node
is checked against the nodes before it (`faultScan_nodes`). That faultless nodes are acceptable was
shown with the registry itself; that acceptable ones are faultless follows, since a node with a fault
spoils every list it is in (`not_acceptable_of_fault`).
-/

namespace Wayfinder

/-! ## Rules -/

/-- Every id has more than blanks, every template is declared, and no id occurs twice. -/
structure Registry.Acceptable (ns : List Node) : Prop where
  id_not_blank : ∀ n ∈ ns, Text.trim n.id ≠ ""
  links_declared : ∀ n ∈ ns, ∀ t ∈ n.links, t.Declared
  nodup_ids : (ns.map Node.id).Nodup

/-- What is wrong with a node after nodes with the ids `seen`: a blank id before all else, then the
first template that is not declared, then an id seen before. -/
inductive Node.Fault (n : Node) (seen : List String) : RegistryError → Prop
  | blank (hid : Text.trim n.id = "") : n.Fault seen .emptyNodeId
  | undeclared {ts us : List Link.Template} {t : Link.Template} (hid : Text.trim n.id ≠ "")
      (hlinks : n.links = ts ++ t :: us) (hbefore : ∀ u ∈ ts, u.Declared) (ht : ¬ t.Declared) :
      n.Fault seen (.undeclaredPlaceholder n.id t.pattern
        (t.placeholders.filter (· ∉ t.requiredParams)))
  | duplicate (hid : Text.trim n.id ≠ "") (hlinks : ∀ t ∈ n.links, t.Declared)
      (hseen : n.id ∈ seen) : n.Fault seen (.duplicateNode n.id)

/-! ## The fault of one node -/

theorem Node.undeclaredLink?_eq_none_iff {n : Node} :
    n.undeclaredLink? = none ↔ ∀ t ∈ n.links, t.Declared := by
  rw [undeclaredLink?, List.find?_eq_none]
  simp [Link.Template.undeclared_eq_nil_iff]

theorem Node.undeclaredLink?_eq_some_iff {n : Node} {t : Link.Template} :
    n.undeclaredLink? = some t ↔
      ∃ ts us, n.links = ts ++ t :: us ∧ (∀ u ∈ ts, u.Declared) ∧ ¬ t.Declared := by
  rw [undeclaredLink?, List.find?_eq_some_iff_append]
  simp only [Bool.not_eq_true', Bool.not_not, List.isEmpty_iff, List.isEmpty_eq_false_iff, ne_eq,
    Link.Template.undeclared_eq_nil_iff]
  constructor
  · rintro ⟨ht, ts, us, hlinks, hbefore⟩
    exact ⟨ts, us, hlinks, hbefore, ht⟩
  · rintro ⟨ts, us, hlinks, hbefore, ht⟩
    exact ⟨ht, ts, us, hlinks, hbefore⟩

theorem Node.fault?_eq_some_iff {n : Node} {seen : List String} {e : RegistryError} :
    n.fault? seen = some e ↔ n.Fault seen e := by
  unfold Node.fault?
  constructor
  · intro h
    split at h
    next hblank =>
      cases h
      exact .blank (Text.trim_eq_empty_iff.mpr hblank)
    next hblank =>
      have hid : Text.trim n.id ≠ "" := fun he => hblank (Text.trim_eq_empty_iff.mp he)
      split at h
      next t ht =>
        obtain ⟨ts, us, hlinks, hbefore, hnot⟩ := Node.undeclaredLink?_eq_some_iff.mp ht
        cases h
        exact .undeclared hid hlinks hbefore hnot
      next ht =>
        split at h
        next hseen =>
          cases h
          exact .duplicate hid (Node.undeclaredLink?_eq_none_iff.mp ht) hseen
        next => cases h
  · intro h
    cases h with
    | blank hid => rw [if_pos (Text.trim_eq_empty_iff.mp hid)]
    | undeclared hid hlinks hbefore ht =>
      rw [if_neg (mt Text.trim_eq_empty_iff.mpr hid),
        Node.undeclaredLink?_eq_some_iff.mpr ⟨_, _, hlinks, hbefore, ht⟩]
      rfl
    | duplicate hid hlinks hseen =>
      rw [if_neg (mt Text.trim_eq_empty_iff.mpr hid),
        Node.undeclaredLink?_eq_none_iff.mpr hlinks]
      exact if_pos hseen

/-- It does not matter how often an id was seen, or when. -/
theorem Node.Fault.of_mem_iff {n : Node} {seen seen' : List String} {e : RegistryError}
    (hmem : n.id ∈ seen ↔ n.id ∈ seen') (h : n.Fault seen e) : n.Fault seen' e := by
  cases h with
  | blank hid => exact .blank hid
  | undeclared hid hlinks hbefore ht => exact .undeclared hid hlinks hbefore ht
  | duplicate hid hlinks hseen => exact .duplicate hid hlinks (hmem.mp hseen)

theorem not_acceptable_of_fault {before after : List Node} {n : Node} {e : RegistryError}
    (h : n.Fault (before.map Node.id) e) : ¬ Registry.Acceptable (before ++ n :: after) := by
  intro hok
  have hn : n ∈ before ++ n :: after := List.mem_append_right _ List.mem_cons_self
  cases h with
  | blank hid => exact hok.id_not_blank n hn hid
  | undeclared hid hlinks hbefore ht =>
    refine ht (hok.links_declared n hn _ ?_)
    rw [hlinks]
    exact List.mem_append_right _ List.mem_cons_self
  | duplicate hid hlinks hseen =>
    have hnodup := hok.nodup_ids
    rw [List.map_append, List.map_cons, List.nodup_append] at hnodup
    exact hnodup.2.2 _ hseen _ List.mem_cons_self rfl

/-! ## The first fault among nodes -/

/-- The ids that were seen are those of the nodes that were passed. -/
def Registry.Tracks (before : List Node) (seen : List String) : Prop :=
  ∀ id, id ∈ seen ↔ id ∈ before.map Node.id

theorem Registry.tracks_nil : Tracks [] [] :=
  fun _ => Iff.rfl

theorem faultScan_nodes :
    FaultScan firstFault? (fun seen n => n.fault? seen) (fun seen n => n.id :: seen)
      Registry.Tracks (fun before n => n.Fault (before.map Node.id)) where
  nil _ := rfl
  cons _ _ _ := rfl
  fault?_eq_some_iff h := by
    rw [Node.fault?_eq_some_iff]
    exact ⟨.of_mem_iff (h _), .of_mem_iff (h _).symm⟩
  concat h _ := fun id => by
    rw [List.mem_cons, h, List.map_append, List.mem_append, or_comm, List.map_singleton,
      List.mem_singleton]

theorem acceptable_of_firstFault?_eq_none {ns : List Node} (h : firstFault? [] ns = none) :
    Registry.Acceptable ns := by
  obtain ⟨hids, hlinks, hnodup, -⟩ := firstFault?_eq_none h
  refine ⟨fun n hn hblank => ?_, fun n hn t ht => ?_, hnodup⟩
  · rw [Text.trim_eq_empty_iff, hids n hn] at hblank
    cases hblank
  · exact Link.Template.undeclared_eq_nil_iff.mp (hlinks n hn t ht)

theorem firstFault?_nil_eq_some_iff {ns : List Node} {e : RegistryError} :
    firstFault? [] ns = some e ↔
      ∃ before n after, ns = before ++ n :: after ∧ Registry.Acceptable before ∧
        n.Fault (before.map Node.id) e :=
  faultScan_nodes.eq_some_iff_acceptable Registry.tracks_nil acceptable_of_firstFault?_eq_none
    not_acceptable_of_fault

theorem firstFault?_nil_eq_none_iff {ns : List Node} :
    firstFault? [] ns = none ↔ Registry.Acceptable ns :=
  faultScan_nodes.eq_none_iff Registry.tracks_nil acceptable_of_firstFault?_eq_none
    not_acceptable_of_fault

/-! ## The registry -/

namespace Registry

variable {ns : List Node}

theorem exists_ofNodes_eq_ok_iff : (∃ r, ofNodes ns = .ok r) ↔ Acceptable ns := by
  rw [← firstFault?_nil_eq_none_iff]
  constructor
  · rintro ⟨r, hr⟩
    exact (ofNodes_eq_ok_iff.mp hr).1
  · intro h
    cases hns : ofNodes ns with
    | ok r => exact ⟨r, rfl⟩
    | error e =>
      rw [ofNodes_eq_error_iff, h] at hns
      cases hns

variable {r : Registry} {id : String}

theorem get_eq_ok_iff {n : Node} : r.get id = .ok n ↔ n ∈ r.nodes ∧ n.id = id := by
  rw [← r.get?_eq_some_iff, get]
  cases r.get? id <;> simp

theorem get_eq_error_iff {e : RegistryError} :
    r.get id = .error e ↔ e = .notFound id ∧ ∀ n ∈ r.nodes, n.id ≠ id := by
  have hnone : r.get? id = none ↔ ∀ n ∈ r.nodes, n.id ≠ id := find?_name_eq_none_iff
  rw [← hnone, get]
  cases r.get? id <;> simp [eq_comm]

theorem contains_iff : r.contains id = true ↔ ∃ n, r.get id = .ok n := by
  rw [contains, get]
  cases r.get? id <;> simp

/-- **Which nodes make a registry**, what is reported when they make none, and what is found in the
one they make: by going through the nodes, and by the index that is filled in while they are
checked. -/
theorem construction (ns : List Node) :
    ((∃ r, ofNodes ns = .ok r) ↔
        (∀ n ∈ ns, Text.trim n.id ≠ "") ∧ (ns.map Node.id).Nodup ∧
          ∀ n ∈ ns, ∀ t ∈ n.links, ∀ p ∈ t.placeholders, p ∈ t.requiredParams) ∧
      (∀ e, ofNodes ns = .error e ↔
        ∃ before n after, ns = before ++ n :: after ∧ Acceptable before ∧
          n.Fault (before.map Node.id) e) ∧
      (∀ e, indexed ns = .error e ↔ ofNodes ns = .error e) ∧
      ∀ r, ofNodes ns = .ok r →
        r.nodes = ns ∧
          (∃ index, indexed ns = .ok index ∧ (∀ id, index.node? ns id = r.get? id) ∧
            ∀ id, index.contains id = r.contains id) ∧
          ∀ id, (∀ n, r.get id = .ok n ↔ ns.filter (·.id = id) = [n]) ∧
            (∀ e, r.get id = .error e ↔ e = .notFound id ∧ ∀ n ∈ ns, n.id ≠ id) ∧
            (r.contains id = true ↔ ∃ n, r.get id = .ok n) := by
  refine ⟨?_, fun e => ?_, fun e => indexed_eq_error_iff, fun r hr => ?_⟩
  · rw [exists_ofNodes_eq_ok_iff]
    constructor
    · rintro ⟨hids, hlinks, hnodup⟩
      exact ⟨hids, hnodup, hlinks⟩
    · rintro ⟨hids, hnodup, hlinks⟩
      exact ⟨hids, hlinks, hnodup⟩
  · rw [ofNodes_eq_error_iff, firstFault?_nil_eq_some_iff]
  · have hindex := exists_indexed_of_ofNodes hr
    obtain ⟨-, rfl⟩ := ofNodes_eq_ok_iff.mp hr
    refine ⟨rfl, hindex, fun id => ⟨fun n => ?_, fun e => get_eq_error_iff, contains_iff⟩⟩
    rw [get_eq_ok_iff, filter_name_eq_singleton_iff r.nodup_ids]

/-- The second node has two faults; its template comes before its id, and the blank id of the third
node is not looked at. -/
example :
    let node (id : String) (links : List Link.Template) : Node :=
      { id, label := "", route := "/", domain := .overview, links }
    let map : Link.Template := { pattern := "/{a}/{b}/{a}", requiredParams := ["b"] }
    ofNodes [node "map" [.ofPattern "/{a}"], node "map" [.ofPattern "/", map], node " " []] =
      .error (.undeclaredPlaceholder "map" "/{a}/{b}/{a}" ["a", "a"]) := by
  rfl

end Registry

end Wayfinder
