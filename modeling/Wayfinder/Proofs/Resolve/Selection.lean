import Wayfinder.Proofs.Resolve.Resolution

/-!
# Which template a scope selects

`expandFirst_selection`: the link of a node is that of the first template whose parameters all have
values, and without such a template the report names what the templates need and the scope lacks,
each name once, in the order in which the names first appear. In a larger scope the selected template
does not move back, and a scope that has all that was reported selects the first template.

The names are gathered while the templates are tried. The invariant of this loop (`gatherFrom_eq`) is
that the names so far are the distinct ones among all that the templates so far lack.
-/

namespace Wayfinder.Node

open Link.Template (satisfied_iff_keys unsatisfied_iff_keys)

variable {n : Node} {scope more : Scope} {i : ℕ} {t : Link.Template}

/-! ## The selected template -/

/-- The template stands at a position of the node's list and the scope has its parameters, which it has
of no template at an earlier position. -/
structure Selects (n : Node) (scope : Scope) (i : ℕ) (t : Link.Template) : Prop where
  position : n.links[i]? = some t
  complete : ∀ p ∈ t.requiredParams, p ∈ scope.keys
  first : ∀ j < i, ∀ u, n.links[j]? = some u → ∃ p ∈ u.requiredParams, p ∉ scope.keys

/-- A position with a complete template has the selected one at it or before it. -/
theorem exists_selects (hi : n.links[i]? = some t) (ht : ∀ p ∈ t.requiredParams, p ∈ scope.keys) :
    ∃ j ≤ i, ∃ u, n.Selects scope j u := by
  induction i using Nat.strong_induction_on generalizing t with
  | _ i ih =>
    by_cases hearlier : ∃ j < i, ∃ u, n.links[j]? = some u ∧ ∀ p ∈ u.requiredParams, p ∈ scope.keys
    · obtain ⟨j, hj, u, hu, hcomplete⟩ := hearlier
      obtain ⟨k, hk, v, hv⟩ := ih j hj hu hcomplete
      exact ⟨k, by omega, v, hv⟩
    · refine ⟨i, le_refl i, t, hi, ht, fun j hj u hu => ?_⟩
      by_contra hnone
      push Not at hnone
      exact hearlier ⟨j, hj, u, hu, hnone⟩

/-- With more parameters the selected template stands at the same position or before. -/
theorem Selects.mono (h : n.Selects scope i t) (hmore : ∀ p ∈ scope.keys, p ∈ more.keys) :
    ∃ j ≤ i, ∃ u, n.Selects more j u :=
  exists_selects h.position fun p hp => hmore p (h.complete p hp)

theorem Selects.expandFirst (h : n.Selects scope i t) :
    ∃ link, t.expand scope = some link ∧ n.expandFirst scope = .ok (t, link) := by
  obtain ⟨link, hlink⟩ := Link.Template.exists_expand_iff.mpr (satisfied_iff_keys.mpr h.complete)
  obtain ⟨hlt, hget⟩ := List.getElem?_eq_some_iff.mp h.position
  refine ⟨link, hlink, expandFirst_eq_ok_iff.mpr ⟨n.links.take i, n.links.drop (i + 1), ?_, ?_, hlink⟩⟩
  · rw [← hget, List.getElem_cons_drop, List.take_append_drop]
  · intro u hu
    obtain ⟨j, hj, hgetj⟩ := List.mem_iff_getElem.mp hu
    rw [List.length_take] at hj
    rw [List.getElem_take] at hgetj
    have hget? : n.links[j]? = some u := List.getElem?_eq_some_iff.mpr ⟨by omega, hgetj⟩
    exact unsatisfied_iff_keys.mpr (h.first j (by omega) u hget?)

theorem exists_selects_of_expandFirst {link : String} (h : n.expandFirst scope = .ok (t, link)) :
    (∃ i, n.Selects scope i t) ∧ t.expand scope = some link := by
  obtain ⟨before, after, hlinks, hbefore, hlink⟩ := expandFirst_eq_ok_iff.mp h
  refine ⟨⟨before.length, ?_, ?_, fun j hj u hu => ?_⟩, hlink⟩
  · rw [hlinks, List.getElem?_append_right (le_refl _), Nat.sub_self]
    rfl
  · exact satisfied_iff_keys.mp (Link.Template.satisfied_of_expand hlink)
  · rw [hlinks, List.getElem?_append_left hj] at hu
    exact unsatisfied_iff_keys.mp (hbefore u (List.mem_of_getElem? hu))

theorem expandFirst_eq_ok_iff_selects {link : String} :
    n.expandFirst scope = .ok (t, link) ↔
      (∃ i, n.Selects scope i t) ∧ t.expand scope = some link := by
  constructor
  · exact exists_selects_of_expandFirst
  · rintro ⟨⟨i, hselects⟩, hlink⟩
    obtain ⟨link', hlink', hok⟩ := hselects.expandFirst
    rw [hlink] at hlink'
    cases hlink'
    exact hok

/-! ## The names that are reported -/

/-- What the templates require, in their order and with repeats. -/
def params (n : Node) : List String :=
  n.links.flatMap (·.requiredParams)

/-- The names are those of the parameters that some template requires and the scope lacks, each once,
in the order in which they first appear. -/
structure Lacks (n : Node) (scope : Scope) (names : List String) : Prop where
  mem_iff : ∀ p, p ∈ names ↔ (∃ t ∈ n.links, p ∈ t.requiredParams) ∧ p ∉ scope.keys
  ordered : names.Pairwise (Text.OccursBefore n.params)

/-- What the report of a node without a link names. -/
def lacking (n : Node) (scope : Scope) : List String :=
  Text.distinct (n.links.flatMap (·.missing scope))

theorem lacking_eq (n : Node) (scope : Scope) :
    n.lacking scope = (Text.distinct n.params).filter (!scope.contains ·) := by
  rw [lacking, params, ← Text.distinct_filter, List.filter_flatMap]
  rfl

theorem lacks_lacking (n : Node) (scope : Scope) : n.Lacks scope (n.lacking scope) := by
  rw [lacking_eq]
  constructor
  · intro p
    rw [List.mem_filter, Text.mem_distinct, params, List.mem_flatMap, Bool.not_eq_true',
      ← Bool.not_eq_true, OrderedMap.contains_iff]
  · exact (Text.pairwise_distinct n.params).sublist List.filter_sublist

theorem Lacks.unique {names names' : List String} (h : n.Lacks scope names)
    (h' : n.Lacks scope names') : names = names' :=
  Text.eq_of_pairwise_occursBefore h.ordered h'.ordered fun p => (h.mem_iff p).trans (h'.mem_iff p).symm

theorem expandFirst_eq_error_iff {e : ResolveError} :
    n.expandFirst scope = .error e ↔
      (∀ t ∈ n.links, ∃ p ∈ t.requiredParams, p ∉ scope.keys) ∧
        ∃ names, n.Lacks scope names ∧ e = .missingScope n.id names := by
  constructor
  · intro h
    have hnone : ∀ t ∈ n.links, t.satisfied scope = false := by
      intro t ht
      by_contra hsat
      rw [Bool.not_eq_false] at hsat
      obtain ⟨_, u, _, link, -, -, -, -, hok⟩ := exists_expandFirst_of_satisfied ⟨t, ht, hsat⟩
      rw [hok] at h
      cases h
    rw [expandFirst_of_unsatisfied hnone] at h
    cases h
    exact ⟨fun t ht => unsatisfied_iff_keys.mp (hnone t ht), _, n.lacks_lacking scope, rfl⟩
  · rintro ⟨hnone, names, hnames, rfl⟩
    rw [expandFirst_of_unsatisfied fun t ht => unsatisfied_iff_keys.mpr (hnone t ht)]
    rw [hnames.unique (n.lacks_lacking scope)]
    rfl

/-- When no template is complete, each of them lacks something. -/
theorem Lacks.eq_nil_iff {names : List String} (h : n.Lacks scope names)
    (hnone : ∀ t ∈ n.links, ∃ p ∈ t.requiredParams, p ∉ scope.keys) :
    names = [] ↔ n.links = [] := by
  constructor
  · rintro rfl
    rw [List.eq_nil_iff_forall_not_mem]
    intro t ht
    obtain ⟨p, hp, hlacks⟩ := hnone t ht
    exact List.not_mem_nil ((h.mem_iff p).mpr ⟨⟨t, ht, hp⟩, hlacks⟩)
  · intro hlinks
    rw [List.eq_nil_iff_forall_not_mem]
    intro p hp
    obtain ⟨⟨t, ht, -⟩, -⟩ := (h.mem_iff p).mp hp
    rw [hlinks] at ht
    cases ht

/-- A scope that has all the reported names completes every template. -/
theorem Lacks.complete {names : List String} (h : n.Lacks scope names)
    (hmore : ∀ p ∈ scope.keys, p ∈ more.keys) (hnames : ∀ p ∈ names, p ∈ more.keys)
    (ht : t ∈ n.links) : ∀ p ∈ t.requiredParams, p ∈ more.keys := by
  intro p hp
  by_cases hscope : p ∈ scope.keys
  · exact hmore p hscope
  · exact hnames p ((h.mem_iff p).mpr ⟨⟨t, ht, hp⟩, hscope⟩)

/-! ## Gathering names while trying templates -/

/-- Tries templates one after the other; `names` is what those before them lack. -/
def gatherFrom (scope : Scope) (names : List String) :
    List Link.Template → Except (List String) (Link.Template × String)
  | [] => .error names
  | t :: ts =>
    match t.expand scope with
    | some link => .ok (t, link)
    | none => gatherFrom scope ((t.missing scope).foldl Text.addNew names) ts

theorem gatherFrom_eq (scope : Scope) (before ts : List Link.Template) :
    gatherFrom scope (Text.distinct (before.flatMap (·.missing scope))) ts =
      match ts.findSome? fun t => (t.expand scope).map (t, ·) with
      | some found => .ok found
      | none => .error (Text.distinct ((before ++ ts).flatMap (·.missing scope))) := by
  induction ts generalizing before with
  | nil => rw [List.append_nil, gatherFrom, List.findSome?_nil]
  | cons t ts ih =>
    rw [gatherFrom, List.findSome?_cons]
    cases t.expand scope with
    | some link => rfl
    | none =>
      have hstep : (t.missing scope).foldl Text.addNew (Text.distinct (before.flatMap (·.missing scope))) =
          Text.distinct ((before ++ [t]).flatMap (·.missing scope)) := by
        rw [Text.foldl_addNew, List.flatMap_append, List.flatMap_singleton]
      simp only [hstep, ih (before ++ [t]), List.append_assoc, List.singleton_append, Option.map_none]

/-- One pass that gathers the names gives the link or the report. -/
theorem expandFirst_eq_gatherFrom (n : Node) (scope : Scope) :
    n.expandFirst scope = (gatherFrom scope [] n.links).mapError (.missingScope n.id) := by
  have hrun := gatherFrom_eq scope [] n.links
  rw [List.flatMap_nil, Text.distinct, List.nil_append] at hrun
  rw [hrun, Node.expandFirst]
  cases n.links.findSome? (fun t => (t.expand scope).map (t, ·)) <;> rfl

/-! ## The selection -/

/-- **Which template a scope selects**, what is reported when it selects none, and how the selection
changes when the scope grows. -/
theorem expandFirst_selection (n : Node) (scope : Scope) :
    (∀ t link, n.expandFirst scope = .ok (t, link) ↔
        (∃ i, n.Selects scope i t) ∧ t.expand scope = some link) ∧
      ((∃ found, n.expandFirst scope = .ok found) ↔
        ∃ t ∈ n.links, ∀ p ∈ t.requiredParams, p ∈ scope.keys) ∧
      (∀ e, n.expandFirst scope = .error e ↔
        (∀ t ∈ n.links, ∃ p ∈ t.requiredParams, p ∉ scope.keys) ∧
          ∃ names, n.Lacks scope names ∧ e = .missingScope n.id names) ∧
      (∀ names, n.expandFirst scope = .error (.missingScope n.id names) →
        names.Nodup ∧ (names = [] ↔ n.links = [])) ∧
      n.expandFirst scope = (gatherFrom scope [] n.links).mapError (.missingScope n.id) ∧
      ∀ more : Scope, (∀ p ∈ scope.keys, p ∈ more.keys) →
        (∀ i t, n.Selects scope i t →
          ∃ j ≤ i, ∃ u link, n.Selects more j u ∧ n.expandFirst more = .ok (u, link)) ∧
        ∀ names, n.expandFirst scope = .error (.missingScope n.id names) → n.links ≠ [] →
          (∀ p ∈ names, p ∈ more.keys) →
            ∃ t link, n.links.head? = some t ∧ n.expandFirst more = .ok (t, link) := by
  have herror : ∀ {names}, n.expandFirst scope = .error (.missingScope n.id names) →
      (∀ t ∈ n.links, ∃ p ∈ t.requiredParams, p ∉ scope.keys) ∧ n.Lacks scope names := by
    intro names h
    obtain ⟨hnone, names', hlacks, he⟩ := expandFirst_eq_error_iff.mp h
    cases he
    exact ⟨hnone, hlacks⟩
  refine ⟨fun t link => expandFirst_eq_ok_iff_selects, ?_, fun e => expandFirst_eq_error_iff, ?_,
    n.expandFirst_eq_gatherFrom scope, fun more hmore => ⟨?_, ?_⟩⟩
  · constructor
    · rintro ⟨⟨t, link⟩, h⟩
      obtain ⟨⟨i, hselects⟩, -⟩ := exists_selects_of_expandFirst h
      exact ⟨t, List.mem_of_getElem? hselects.position, hselects.complete⟩
    · rintro ⟨t, ht, hcomplete⟩
      obtain ⟨i, hi⟩ := List.mem_iff_getElem?.mp ht
      obtain ⟨j, -, u, hselects⟩ := exists_selects hi hcomplete
      obtain ⟨link, -, hok⟩ := hselects.expandFirst
      exact ⟨(u, link), hok⟩
  · intro names h
    obtain ⟨hnone, hlacks⟩ := herror h
    refine ⟨?_, hlacks.eq_nil_iff hnone⟩
    rw [hlacks.unique (n.lacks_lacking scope)]
    exact Text.nodup_distinct _
  · intro i t hselects
    obtain ⟨j, hj, u, hu⟩ := hselects.mono hmore
    obtain ⟨link, -, hok⟩ := hu.expandFirst
    exact ⟨j, hj, u, link, hu, hok⟩
  · intro names h hlinks hnames
    obtain ⟨t, ts, hcons⟩ := List.exists_cons_of_ne_nil hlinks
    have hfirst : n.links[0]? = some t := by rw [hcons]; rfl
    obtain ⟨-, hlacks⟩ := herror h
    have hcomplete := hlacks.complete hmore hnames (List.mem_of_getElem? hfirst)
    have hselects : n.Selects more 0 t := ⟨hfirst, hcomplete, fun j hj => absurd hj (Nat.not_lt_zero j)⟩
    obtain ⟨link, -, hok⟩ := hselects.expandFirst
    exact ⟨t, link, by rw [hcons]; rfl, hok⟩

/-- Templates with parameters in common: the project selects none of them, a sprint as well the last one,
and everything that was reported the first one. -/
theorem expandFirst_selection_overlap :
    let n : Node :=
      { id := "board", label := "Board", route := "/board", domain := .execution
        links := [.ofPattern "/{project}/{phase}", .ofPattern "/{phase}/{sprint}/{phase}",
          .ofPattern "/{project}/{sprint}"] }
    let scope : Scope := .ofList [("project", "P1")]
    let more : Scope := .ofList [("sprint", "S2"), ("project", "P2")]
    let all : Scope := .ofList [("phase", "F"), ("sprint", "S2"), ("project", "P2")]
    (∀ p ∈ scope.keys, p ∈ all.keys) ∧
      n.expandFirst scope = .error (.missingScope "board" ["phase", "sprint"]) ∧
      n.expandFirst more = .ok (.ofPattern "/{project}/{sprint}", "/P2/S2") ∧
      (∃ t link, n.links.head? = some t ∧ n.expandFirst all = .ok (t, link)) := by
  intro n scope more all
  have hall : ∀ p ∈ scope.keys, p ∈ all.keys := by decide
  have herror : n.expandFirst scope = .error (.missingScope "board" ["phase", "sprint"]) := by rfl
  obtain ⟨-, -, -, -, -, hgrow⟩ := expandFirst_selection n scope
  exact ⟨hall, herror, by rfl, (hgrow all hall).2 _ herror (by decide) (by decide)⟩

end Wayfinder.Node
