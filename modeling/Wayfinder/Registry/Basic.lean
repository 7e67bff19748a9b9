import Wayfinder.Node.Basic
import Wayfinder.Text.Display

/-!
# The registry of nodes

A registry holds nodes that have been checked: every id has a character that is not blank, no two
nodes share an id, and every template requires the parameters that its pattern mentions.
`Registry.ofNodes` is the only way to make one from nodes; it reports the first fault in the order
of declaration.
-/

namespace Wayfinder

/-! ## Faults -/

/-- Why nodes make no registry, or a look-up finds nothing. -/
inductive RegistryError
  | notFound (id : String)
  | emptyNodeId
  | duplicateNode (id : String)
  | undeclaredPlaceholder (id pattern : String) (names : List String)
deriving DecidableEq, Repr

/-- The wording of a fault. -/
def RegistryError.message : RegistryError → String
  | notFound id => s!"node not found: {id}"
  | emptyNodeId => "node id cannot be empty"
  | duplicateNode id => s!"duplicate node id: {id}"
  | undeclaredPlaceholder id pattern names =>
    s!"node {id}: template '{pattern}' uses undeclared placeholder(s) {Text.quotedList names}"

/-- The first template that mentions a parameter it does not require. -/
def Node.undeclaredLink? (n : Node) : Option Link.Template :=
  n.links.find? (!·.undeclared.isEmpty)

/-- The fault of a node that comes after nodes with the ids `seen`. -/
def Node.fault? (n : Node) (seen : List String) : Option RegistryError :=
  if Text.isBlankText n.id then some .emptyNodeId
  else match n.undeclaredLink? with
    | some t => some (.undeclaredPlaceholder n.id t.pattern t.undeclared)
    | none => if n.id ∈ seen then some (.duplicateNode n.id) else none

/-- The first fault among nodes that come after nodes with the ids `seen`. -/
def firstFault? (seen : List String) : List Node → Option RegistryError
  | [] => none
  | n :: ns => (n.fault? seen).or (firstFault? (n.id :: seen) ns)

theorem Node.fault?_eq_none {n : Node} {seen : List String} (h : n.fault? seen = none) :
    Text.isBlankText n.id = false ∧ (∀ t ∈ n.links, t.undeclared = []) ∧ n.id ∉ seen := by
  unfold Node.fault? Node.undeclaredLink? at h
  split at h
  · simp at h
  · next hb =>
    split at h
    · simp at h
    · next hl =>
      split at h
      · simp at h
      · next hs => exact ⟨by simpa using hb, by simpa using hl, hs⟩

theorem firstFault?_eq_none {seen : List String} {ns : List Node}
    (h : firstFault? seen ns = none) :
    (∀ n ∈ ns, Text.isBlankText n.id = false) ∧ (∀ n ∈ ns, ∀ t ∈ n.links, t.undeclared = []) ∧
      (ns.map Node.id).Nodup ∧ ∀ n ∈ ns, n.id ∉ seen := by
  induction ns generalizing seen with
  | nil => simp
  | cons n ns ih =>
    rw [firstFault?, Option.or_eq_none_iff] at h
    obtain ⟨hb, hl, hs⟩ := Node.fault?_eq_none h.1
    obtain ⟨ihb, ihl, ihn, ihs⟩ := ih h.2
    refine ⟨?_, ?_, ?_, ?_⟩
    · exact List.forall_mem_cons.mpr ⟨hb, ihb⟩
    · exact List.forall_mem_cons.mpr ⟨hl, ihl⟩
    · refine List.nodup_cons.mpr ⟨fun hm => ?_, ihn⟩
      obtain ⟨m, hm, e⟩ := List.mem_map.mp hm
      exact ihs m hm (by simp [e])
    · intro m hm
      rcases List.mem_cons.mp hm with rfl | hm
      · exact hs
      · exact fun h => ihs m hm (List.mem_cons_of_mem _ h)

/-! ## The registry -/

/-- Checked nodes in the order of declaration. -/
structure Registry where
  nodes : List Node
  id_not_blank : ∀ n ∈ nodes, Text.isBlankText n.id = false
  links_declared : ∀ n ∈ nodes, ∀ t ∈ n.links, t.undeclared = []
  nodup_ids : (nodes.map Node.id).Nodup

namespace Registry

/-- The registry of nodes without a fault. -/
def ofNodes (ns : List Node) : Except RegistryError Registry :=
  match h : firstFault? [] ns with
  | some e => .error e
  | none =>
    have ok := firstFault?_eq_none h
    .ok ⟨ns, ok.1, ok.2.1, ok.2.2.1⟩

/-- The node with an id. -/
def get? (r : Registry) (id : String) : Option Node :=
  r.nodes.find? (·.id = id)

/-- The node with an id, or the fault that there is none. -/
def get (r : Registry) (id : String) : Except RegistryError Node :=
  match r.get? id with
  | some n => .ok n
  | none => .error (.notFound id)

/-- Some node has the id. -/
def contains (r : Registry) (id : String) : Bool :=
  (r.get? id).isSome

/-- How many nodes there are. -/
def size (r : Registry) : Nat := r.nodes.length

/-- No nodes. -/
def isEmpty (r : Registry) : Bool := r.nodes.isEmpty

/-- The nodes of a domain. -/
def inDomain (r : Registry) (d : Domain) : List Node :=
  r.nodes.filter (·.domain = d)

/-! ## What a user sees -/

/-- Nodes in ascending order of priority; nodes of one priority stay as they stand. -/
def byPriority (ns : List Node) : List Node :=
  ns.mergeSort fun a b => a.priority.toInt ≤ b.priority.toInt

/-- The nodes that a user with these capabilities may see, by priority. -/
def visible (r : Registry) (granted : TermSet Capability) : List Node :=
  byPriority (r.nodes.filter (·.permits granted))

/-- The visible nodes of one domain. -/
def visibleIn (r : Registry) (d : Domain) (granted : TermSet Capability) : List Node :=
  (r.visible granted).filter (·.domain = d)

end Registry

end Wayfinder
