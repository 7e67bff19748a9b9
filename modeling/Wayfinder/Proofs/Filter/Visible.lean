import Wayfinder.Filter.Schema
import Mathlib.Data.List.Induction

/-!
# The keys that are shown

The keys that are shown under a preset are those that are not hidden in it, with the first search
box among them set apart (`SplitOf`). Nothing is lost, repeated or moved on the way. Main result
`VisibleKeys.partition`; in a schema no second search box can be left among the other keys.

The keys are gone through once, and each goes to the end of the other keys unless it is the first
search box (`add`). What the keys passed so far are split into is the invariant: one key keeps it
(`SplitOf.add`), so all keys do (`splitOf_foldl`), and a list is split in one way only
(`splitOf_iff`).
-/

namespace Wayfinder

namespace VisibleKeys

/-- A list of keys with its first search box set apart, if it has one. -/
inductive SplitOf (ks : List FilterKey) : VisibleKeys → Prop
  | without (h : ∀ k ∈ ks, k.kind ≠ .search) : SplitOf ks ⟨none, ks⟩
  | taken {before after : List FilterKey} {k : FilterKey} (hks : ks = before ++ k :: after)
      (hbefore : ∀ j ∈ before, j.kind ≠ .search) (hk : k.kind = .search) :
      SplitOf ks ⟨some k, before ++ after⟩

/-- Puts a key in its place: the first search box apart, all else at the end. -/
def add (v : VisibleKeys) (k : FilterKey) : VisibleKeys :=
  if k.isSearch && v.search.isNone then { v with search := some k }
  else { v with others := v.others ++ [k] }

variable {ks before after : List FilterKey} {k : FilterKey} {v : VisibleKeys}

/-! ## One key after the other -/

theorem SplitOf.add (h : SplitOf ks v) (k : FilterKey) : SplitOf (ks ++ [k]) (v.add k) := by
  unfold VisibleKeys.add
  cases h with
  | without hks =>
    by_cases hk : k.kind = .search
    · rw [if_pos (by simp [FilterKey.isSearch, hk])]
      have hsplit : SplitOf (ks ++ [k]) ⟨some k, ks ++ []⟩ := .taken rfl hks hk
      rwa [List.append_nil] at hsplit
    · rw [if_neg (by simp [FilterKey.isSearch, hk])]
      refine .without fun j hj => ?_
      rcases List.mem_append.mp hj with hj | hj
      · exact hks j hj
      · rwa [List.mem_singleton.mp hj]
  | @taken before after first hks hbefore hfirst =>
    rw [if_neg (by simp), hks, List.append_assoc, List.append_assoc, List.cons_append]
    exact .taken rfl hbefore hfirst

theorem splitOf_foldl (ks : List FilterKey) : SplitOf ks (ks.foldl VisibleKeys.add ⟨none, []⟩) := by
  induction ks using List.reverseRecOn with
  | nil => exact .without (List.forall_mem_nil _)
  | append_singleton ks k ih =>
    rw [List.foldl_append]
    exact ih.add k

/-! ## The one way to split -/

theorem split_of_forall (h : ∀ k ∈ ks, k.kind ≠ .search) : split ks = ⟨none, ks⟩ := by
  induction ks with
  | nil => rfl
  | cons k ks ih =>
    obtain ⟨hk, hks⟩ := List.forall_mem_cons.mp h
    rw [split, if_neg (mt FilterKey.isSearch_iff.mp hk), ih hks]

theorem split_append_cons (hbefore : ∀ j ∈ before, j.kind ≠ .search) (hk : k.kind = .search) :
    split (before ++ k :: after) = ⟨some k, before ++ after⟩ := by
  induction before with
  | nil => exact if_pos (FilterKey.isSearch_iff.mpr hk)
  | cons j before ih =>
    obtain ⟨hj, hbefore⟩ := List.forall_mem_cons.mp hbefore
    rw [List.cons_append, split, if_neg (mt FilterKey.isSearch_iff.mp hj), ih hbefore,
      List.cons_append]

theorem splitOf_iff : SplitOf ks v ↔ split ks = v := by
  have hsplit : ∀ {w}, SplitOf ks w → split ks = w := by
    intro w hw
    cases hw with
    | without hks => exact split_of_forall hks
    | taken hks hbefore hk => rw [hks, split_append_cons hbefore hk]
  refine ⟨hsplit, ?_⟩
  rintro rfl
  rw [hsplit (splitOf_foldl ks)]
  exact splitOf_foldl ks

theorem SplitOf.size_eq (h : SplitOf ks v) : v.size = ks.length := by
  cases h with
  | without hks => rfl
  | taken hks hbefore hk =>
    rw [hks, size, List.length_append, List.length_append, List.length_cons]
    rfl

theorem SplitOf.search_eq_none_iff (h : SplitOf ks v) :
    v.search = none ↔ ∀ k ∈ ks, k.kind ≠ .search := by
  cases h with
  | without hks => exact iff_of_true rfl hks
  | @taken before after k hks hbefore hk =>
    refine iff_of_false (by simp) fun hnone => hnone k ?_ hk
    rw [hks]
    exact List.mem_append_right _ List.mem_cons_self

theorem SplitOf.mem_of_search (h : SplitOf ks v) (hk : v.search = some k) :
    k ∈ ks ∧ k.kind = .search := by
  cases h with
  | without hks => cases hk
  | taken hks hbefore hkind =>
    obtain rfl := Option.some.inj hk
    rw [hks]
    exact ⟨List.mem_append_right _ List.mem_cons_self, hkind⟩

end VisibleKeys

/-! ## Schemas -/

namespace FilterSchema

variable {s : FilterSchema} {k : FilterKey} {shown : List FilterKey} {v : VisibleKeys}

theorem searchKey?_eq_some_iff : s.searchKey? = some k ↔ k ∈ s.keys ∧ k.kind = .search := by
  rw [searchKey?, ← FilterKey.isSearch_iff]
  constructor
  · intro h
    exact ⟨List.mem_of_find?_eq_some h, List.find?_some h⟩
  · rintro ⟨hmem, hk⟩
    have hfilter := List.mem_filter.mpr ⟨hmem, hk⟩
    -- the one search box is the first
    obtain ⟨j, hj⟩ := List.length_eq_one_iff.mp
      (Nat.le_antisymm s.one_search (List.length_pos_of_mem hfilter))
    rw [hj, List.mem_singleton] at hfilter
    rw [← List.head?_filter, hj, hfilter]
    rfl

section shown

variable (hshown : shown.Sublist s.keys) (h : VisibleKeys.SplitOf shown v)

include hshown h

/-- No second search box is left where the schema has one at most. -/
theorem kind_ne_search_of_splitOf : ∀ j ∈ v.others, j.kind ≠ .search := by
  cases h with
  | without hnone => exact hnone
  | @taken before after k hks hbefore hk =>
    have hone := Nat.le_trans (hshown.filter FilterKey.isSearch).length_le s.one_search
    intro j hj hkind
    rcases List.mem_append.mp hj with hj | hj
    · exact hbefore j hj hkind
    · have hpos := List.length_pos_of_mem
        (List.mem_filter.mpr ⟨hj, FilterKey.isSearch_iff.mpr hkind⟩)
      rw [hks, List.filter_append, List.filter_cons_of_pos (FilterKey.isSearch_iff.mpr hk),
        List.length_append, List.length_cons] at hone
      omega

theorem search_eq_some_iff_of_splitOf :
    v.search = some k ↔ s.searchKey? = some k ∧ k ∈ shown := by
  constructor
  · intro hk
    obtain ⟨hmem, hkind⟩ := h.mem_of_search hk
    exact ⟨searchKey?_eq_some_iff.mpr ⟨hshown.subset hmem, hkind⟩, hmem⟩
  · rintro ⟨hsearch, hmem⟩
    obtain ⟨-, hkind⟩ := searchKey?_eq_some_iff.mp hsearch
    cases hv : v.search with
    | none => exact absurd hkind (h.search_eq_none_iff.mp hv k hmem)
    | some j =>
      -- both are the search box of the schema
      obtain ⟨hj, hjkind⟩ := h.mem_of_search hv
      rw [← searchKey?_eq_some_iff.mpr ⟨hshown.subset hj, hjkind⟩, hsearch]

end shown

end FilterSchema

/-- **The keys that are shown**: the first search box is set apart from the keys that are not
hidden, and all others stay as they were declared. A schema leaves no search box among them, and
the one that it declares is set apart unless it is hidden. -/
theorem VisibleKeys.partition (ks : List FilterKey) (p : Preset) :
    let shown := ks.filter (p ∉ ·.hiddenIn)
    let v := ofKeys ks p
    SplitOf shown v ∧ v = shown.foldl add ⟨none, []⟩ ∧
      (v.search = none ↔ ∀ k ∈ shown, k.kind ≠ .search) ∧
      v.size = shown.length ∧
      ∀ s : FilterSchema,
        (∀ k ∈ (s.visible p).others, k.kind ≠ .search) ∧
          (∀ k, (s.visible p).search = some k ↔ s.searchKey? = some k ∧ p ∉ k.hiddenIn) ∧
          ∀ k, s.searchKey? = some k ↔ k ∈ s.keys ∧ k.kind = .search := by
  intro shown v
  have hsplit : SplitOf shown v := splitOf_iff.mpr rfl
  refine ⟨hsplit, splitOf_iff.mp (splitOf_foldl shown), hsplit.search_eq_none_iff, hsplit.size_eq,
    fun s => ?_⟩
  have hshown : (s.keys.filter (·.isVisibleIn p)).Sublist s.keys := List.filter_sublist
  have hvisible : SplitOf (s.keys.filter (·.isVisibleIn p)) (s.visible p) := splitOf_iff.mpr rfl
  refine ⟨FilterSchema.kind_ne_search_of_splitOf hshown hvisible, fun k => ?_,
    fun k => FilterSchema.searchKey?_eq_some_iff⟩
  rw [FilterSchema.search_eq_some_iff_of_splitOf hshown hvisible, List.mem_filter]
  refine and_congr_right fun hsearch => ?_
  rw [and_iff_right (FilterSchema.searchKey?_eq_some_iff.mp hsearch).1]
  exact decide_eq_true_iff

/-- A hidden search box is passed over, and of two equal ones the second stays where it is. -/
example :
    let q : FilterKey := .ofSearch "q" "Search"
    let mine : FilterKey := .ofBoolean "mine" "Mine"
    let old : FilterKey := { q with hiddenIn := .ofList [.pmWork] }
    let v := VisibleKeys.ofKeys [old, mine, q, q] .pmWork
    v.search = some q ∧ v.others = [mine, q] ∧ v.size = 3 := by
  decide

end Wayfinder
