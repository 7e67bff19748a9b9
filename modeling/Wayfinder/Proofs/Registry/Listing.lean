import Wayfinder.Proofs.Registry.Lookup
import Mathlib.Data.List.Sort
import Mathlib.Data.Prod.Lex

/-!
# The order in which nodes are listed

`visible_listing`: the visible nodes are the nodes of the registry whose capabilities are all granted,
each listed once, and they ascend strictly in their priority and, where priorities are equal, in
their position in the registry. The visible nodes of a domain are what the same listing gives for the
nodes of the domain alone.

Sorting keeps nodes of one priority as they stand (`filter_priority_byPriority`). So nodes that stand
in the order of the registry come out strictly ascending in `Earlier`, and since two lists that do so
are equal as soon as they have the same members, leaving nodes out before or after the sorting makes
no difference (`filter_byPriority`).
-/

namespace Wayfinder.Registry

/-! ## Sorting by priority -/

theorem byPriority_perm (ns : List Node) : (byPriority ns).Perm ns :=
  List.mergeSort_perm _ _

theorem priority_le_trans (a b c : Node) (hab : decide (a.priority.toInt ≤ b.priority.toInt) = true)
    (hbc : decide (b.priority.toInt ≤ c.priority.toInt) = true) :
    decide (a.priority.toInt ≤ c.priority.toInt) = true := by
  rw [decide_eq_true_eq] at hab hbc ⊢
  exact hab.trans hbc

theorem priority_le_total (a b : Node) :
    (decide (a.priority.toInt ≤ b.priority.toInt) || decide (b.priority.toInt ≤ a.priority.toInt)) =
      true := by
  rw [Bool.or_eq_true, decide_eq_true_eq, decide_eq_true_eq]
  exact le_total _ _

/-- Priorities ascend. -/
theorem pairwise_byPriority (ns : List Node) :
    (byPriority ns).Pairwise fun a b => a.priority.toInt ≤ b.priority.toInt :=
  (List.pairwise_mergeSort priority_le_trans priority_le_total ns).imp fun {_ _} h =>
    of_decide_eq_true h

/-- Nodes of one priority stay as they stand. -/
theorem filter_priority_byPriority (ns : List Node) (p : Int32) :
    (byPriority ns).filter (·.priority = p) = ns.filter (·.priority = p) := by
  have hsorted : (ns.filter (·.priority = p)).Pairwise fun a b =>
      decide (a.priority.toInt ≤ b.priority.toInt) = true := by
    refine List.pairwise_of_forall_mem_list fun a ha b hb => ?_
    have ha' : a.priority = p := by simpa using (List.mem_filter.mp ha).2
    have hb' : b.priority = p := by simpa using (List.mem_filter.mp hb).2
    rw [ha', hb', decide_eq_true_eq]
  have hsub : (ns.filter (·.priority = p)).Sublist (byPriority ns) :=
    List.sublist_mergeSort priority_le_trans priority_le_total hsorted List.filter_sublist
  have hclass := hsub.filter (·.priority = p)
  rw [List.filter_filter] at hclass
  simp only [Bool.and_self] at hclass
  -- the sorted list has no more nodes of this priority than the list
  exact (hclass.eq_of_length ((byPriority_perm ns).filter _).length_eq.symm).symm

/-! ## Positions -/

variable (r : Registry)

/-- The position of a node in the order of declaration. -/
def position (n : Node) : Nat :=
  (r.nodes.map Node.id).idxOf n.id

theorem position_getElem (i : Nat) (h : i < r.nodes.length) : r.position r.nodes[i] = i := by
  have hlt : i < (r.nodes.map Node.id).length := by rwa [List.length_map]
  have hid : r.nodes[i].id = (r.nodes.map Node.id)[i] := (List.getElem_map _).symm
  rw [position, hid]
  exact r.nodup_ids.idxOf_getElem i hlt

theorem pairwise_position : r.nodes.Pairwise fun a b => r.position a < r.position b := by
  rw [List.pairwise_iff_getElem]
  intro i j hi hj hij
  rwa [position_getElem, position_getElem]

/-- A node is listed before another: its priority is lower, or the priorities are equal and it is
declared earlier. -/
def Earlier (a b : Node) : Prop :=
  a.priority.toInt < b.priority.toInt ∨
    a.priority.toInt = b.priority.toInt ∧ r.position a < r.position b

variable {r}

theorem earlier_iff {a b : Node} :
    r.Earlier a b ↔
      toLex (a.priority.toInt, r.position a) < toLex (b.priority.toInt, r.position b) := by
  rw [Earlier, Prod.Lex.toLex_lt_toLex]

instance (a b : Node) : Decidable (r.Earlier a b) :=
  inferInstanceAs (Decidable (_ ∨ _ ∧ _))

instance : Std.Asymm r.Earlier where
  asymm _ _ h h' := lt_asymm (earlier_iff.mp h) (earlier_iff.mp h')

/-- Nodes in the order of the registry are listed in strictly ascending order. -/
theorem pairwise_earlier_byPriority {ns : List Node} (h : ns.Sublist r.nodes) :
    (byPriority ns).Pairwise r.Earlier := by
  have hties : ∀ p : Int32, ((byPriority ns).filter (·.priority = p)).Pairwise fun a b =>
      r.position a < r.position b := by
    intro p
    rw [filter_priority_byPriority]
    exact r.pairwise_position.sublist (List.filter_sublist.trans h)
  rw [List.pairwise_iff_forall_sublist]
  intro a b hab
  rcases lt_or_eq_of_le (List.pairwise_iff_forall_sublist.mp (pairwise_byPriority ns) hab) with
    hlt | heq
  · exact Or.inl hlt
  · have hpriority : b.priority = a.priority := Int32.toInt_inj.mp heq.symm
    have hclass := hties a.priority
    rw [List.pairwise_filter, List.pairwise_iff_forall_sublist] at hclass
    exact Or.inr ⟨heq, hclass hab (decide_eq_true rfl) (decide_eq_true hpriority)⟩

/-- Nodes may be left out before or after the sorting. -/
theorem filter_byPriority {ns : List Node} (h : ns.Sublist r.nodes) (p : Node → Bool) :
    (byPriority ns).filter p = byPriority (ns.filter p) := by
  refine ((pairwise_earlier_byPriority h).sublist List.filter_sublist).eq_of_mem_iff
    (pairwise_earlier_byPriority (List.filter_sublist.trans h)) fun n => ?_
  rw [List.mem_filter, (byPriority_perm ns).mem_iff, (byPriority_perm (ns.filter p)).mem_iff,
    List.mem_filter]

/-! ## Visible nodes -/

variable (r) (granted : TermSet Capability)

theorem pairwise_visible : (r.visible granted).Pairwise r.Earlier :=
  pairwise_earlier_byPriority List.filter_sublist

/-- The listing is the one arrangement of the permitted nodes in this order. -/
theorem visible_eq {granted : TermSet Capability} {ns : List Node} (hns : ns.Pairwise r.Earlier)
    (hperm : (r.nodes.filter (·.permits granted)).Perm ns) : r.visible granted = ns :=
  (r.pairwise_visible granted).eq_of_mem_iff hns fun _ =>
    ((r.visible_perm granted).trans hperm).mem_iff

theorem visibleIn_eq (d : Domain) :
    r.visibleIn d granted = byPriority ((r.inDomain d).filter (·.permits granted)) := by
  rw [visibleIn, visible, filter_byPriority List.filter_sublist, inDomain, List.filter_filter,
    List.filter_filter]
  simp only [Bool.and_comm]

/-- What a user sees who may do less is what is left of what the other sees. -/
theorem filter_visible {more : TermSet Capability} (h : ∀ c ∈ granted, c ∈ more) :
    (r.visible more).filter (·.permits granted) = r.visible granted := by
  rw [visible, visible, filter_byPriority List.filter_sublist, List.filter_filter]
  refine congrArg byPriority (List.filter_congr fun n _ => ?_)
  have hmore : n.permits granted = true → n.permits more = true := TermSet.covers_of_subset h
  cases hn : n.permits granted with
  | false => rfl
  | true => rw [hmore hn, Bool.and_self]

/-- **What a user sees.** Every node whose capabilities are all granted is listed once and no other
node is, in strictly ascending order of priority and position. A domain is listed by stably sorting
its permitted nodes: priorities ascend, and nodes of one priority stay as they stand. -/
theorem visible_listing :
    (∀ n ∈ r.nodes, (∀ c ∈ n.requiredCapabilities, c ∈ granted) →
        ∃! i : Nat, (r.visible granted)[i]? = some n) ∧
      (∀ n ∈ r.visible granted, n ∈ r.nodes ∧ ∀ c ∈ n.requiredCapabilities, c ∈ granted) ∧
      (r.visible granted).Pairwise r.Earlier ∧
      (∀ d, r.visibleIn d granted = byPriority ((r.inDomain d).filter (·.permits granted))) ∧
      ∀ ns, (byPriority ns).Pairwise (fun a b => a.priority.toInt ≤ b.priority.toInt) ∧
        ∀ p : Int32, (byPriority ns).filter (·.priority = p) = ns.filter (·.priority = p) := by
  refine ⟨fun n hn hgranted => ?_, fun n hn => ?_, r.pairwise_visible granted,
    r.visibleIn_eq granted, fun ns => ⟨pairwise_byPriority ns, filter_priority_byPriority ns⟩⟩
  · have hmem : n ∈ r.visible granted :=
      (r.mem_visible granted).mpr ⟨hn, TermSet.covers_iff.mpr hgranted⟩
    obtain ⟨i, hi⟩ := List.mem_iff_getElem?.mp hmem
    refine ⟨i, hi, fun j hj => ?_⟩
    obtain ⟨hlt, -⟩ := List.getElem?_eq_some_iff.mp hj
    exact (List.getElem?_inj hlt (r.pairwise_visible granted).nodup).mp (hj.trans hi.symm)
  · obtain ⟨hnode, hpermits⟩ := (r.mem_visible granted).mp hn
    exact ⟨hnode, TermSet.covers_iff.mp hpermits⟩

end Wayfinder.Registry
