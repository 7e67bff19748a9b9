import Wayfinder.OrderedMap
import Mathlib.Data.List.Nodup
import Mathlib.Data.List.Perm.Subperm
import Mathlib.Data.List.Sort
import Mathlib.Data.String.Basic

/-!
# Maps in insertion order: equality and construction

`sameEntries_iff`: two maps have the same entries, in any order, if and only if every look-up gives
the same in both. `entries_ofList`: a list of pairs with distinct keys is the list of entries of the
map it makes. `get?_insertAll`: a value in a map after insertions was there before or was inserted.
-/

namespace Wayfinder.OrderedMap

variable {α : Type}

theorem eq_empty_of_isEmpty {m : OrderedMap α} (h : m.isEmpty = true) : m = {} :=
  ext_entries (List.isEmpty_iff.mp h)

/-! ## Look-up by membership -/

theorem contains_iff {m : OrderedMap α} {k : String} : m.contains k = true ↔ k ∈ m.keys := by
  rw [contains, Option.isSome_iff_ne_none, ne_eq, get?_eq_none, not_not]

theorem mem_keys_iff {m : OrderedMap α} {k : String} : k ∈ m.keys ↔ ∃ v, m.get? k = some v := by
  rw [← contains_iff, contains, Option.isSome_iff_exists]

theorem get?_insert_eq_some_iff {m : OrderedMap α} {j k : String} {v w : α} :
    (m.insert j w).get? k = some v ↔ (j = k ∧ w = v) ∨ m.get? k = some v ∧ j ≠ k := by
  rw [get?_insert]
  by_cases hj : j = k <;> simp [hj]

theorem get?_filter_eq_some_iff {m : OrderedMap α} {p : String → α → Bool} {k : String} {v : α} :
    (m.filter p).get? k = some v ↔ m.get? k = some v ∧ p k v = true := by
  rw [get?_filter, Option.filter_eq_some_iff]

theorem get?_erase_eq_some_iff {m : OrderedMap α} {j k : String} {v : α} :
    (m.erase j).get? k = some v ↔ m.get? k = some v ∧ j ≠ k := by
  rw [erase, get?_filter_eq_some_iff, decide_eq_true_eq, ne_comm]

theorem filter_filter_self (m : OrderedMap α) (p : String → α → Bool) :
    (m.filter p).filter p = m.filter p := by
  refine ext_entries (List.filter_filter.trans ?_)
  simp only [Bool.and_self]
  rfl

theorem nodup_entries (m : OrderedMap α) : m.entries.Nodup :=
  List.Nodup.of_map Prod.fst m.nodup_keys

/-- Maps that look up alike have the same entries up to order. -/
theorem entries_perm {m n : OrderedMap α} (h : ∀ k, m.get? k = n.get? k) :
    m.entries.Perm n.entries := by
  refine (List.perm_ext_iff_of_nodup m.nodup_entries n.nodup_entries).mpr fun e => ?_
  obtain ⟨k, v⟩ := e
  rw [← get?_eq_some, ← get?_eq_some, h]

/-- The entries of one key that pass a test: its value, if that does. -/
theorem entries_filter_key (m : OrderedMap α) (k : String) (p : α → Bool) :
    (m.filter fun j v => k = j && p v).entries = (((m.get? k).filter p).map (k, ·)).toList := by
  obtain ⟨es, hn⟩ := m
  show es.filter (fun e => decide (k = e.1) && p e.2) = (((find? k es).filter p).map (k, ·)).toList
  induction es with
  | nil => rfl
  | cons e es ih =>
    obtain ⟨j, v⟩ := e
    rw [List.map_cons, List.nodup_cons] at hn
    by_cases hj : j = k
    · -- no later pair has this key
      subst hj
      have hrest : es.filter (fun e => decide (j = e.1) && p e.2) = [] := by
        rw [ih hn.2, find?_eq_none.mpr hn.1]
        rfl
      cases hp : p v <;> simp [find?, Option.filter, hp, hrest]
    · have hj' : ¬ k = j := fun h => hj h.symm
      rw [find?, if_neg hj, ← ih hn.2, List.filter_cons_of_neg (by simp [hj'])]

/-! ## The same entries -/

section sameEntries

variable [DecidableEq α]

theorem sameEntries_iff {m n : OrderedMap α} :
    m.sameEntries n = true ↔ ∀ k, m.get? k = n.get? k := by
  simp only [sameEntries, Bool.and_eq_true, decide_eq_true_eq, List.all_eq_true]
  constructor
  · rintro ⟨hsize, hentries⟩ k
    have hsub : m.entries ⊆ n.entries := fun e he => get?_eq_some.mp (hentries e he)
    -- as long as `n` and within it, the entries of `m` are all of `n`'s
    have hperm : m.entries.Perm n.entries :=
      (m.nodup_entries.subperm hsub).perm_of_length_le (Nat.le_of_eq hsize.symm)
    cases hm : m.get? k with
    | some v => exact (get?_eq_some.mpr (hsub (get?_eq_some.mp hm))).symm
    | none =>
      rw [get?_eq_none] at hm
      exact (get?_eq_none.mpr fun hk => hm ((hperm.map Prod.fst).mem_iff.mpr hk)).symm
  · intro h
    refine ⟨(entries_perm h).length_eq, fun e he => ?_⟩
    rw [← h]
    exact get?_eq_some.mpr he

end sameEntries

/-! ## Pairs named by a function -/

section named

variable {β : Type} {name : β → String} {f : β → Option α} {bs : List β}

/-- Among pairs that are the same whenever their names are, looking up a name gives its pair. -/
theorem find?_filterMap (hf : ∀ a ∈ bs, ∀ b ∈ bs, name a = name b → f a = f b) {b : β}
    (hb : b ∈ bs) : find? (name b) (bs.filterMap fun c => (f c).map (name c, ·)) = f b := by
  cases hfind : find? (name b) (bs.filterMap fun c => (f c).map (name c, ·)) with
  | some v =>
    obtain ⟨c, hc, hpair⟩ := List.mem_filterMap.mp (mem_of_find? hfind)
    obtain ⟨w, hw, he⟩ := Option.map_eq_some_iff.mp hpair
    obtain ⟨hname, rfl⟩ := Prod.mk.inj he
    rw [hf b hb c hc hname.symm, hw]
  | none =>
    rw [find?_eq_none] at hfind
    cases hfb : f b with
    | none => rfl
    | some v =>
      have hmem : (name b, v) ∈ bs.filterMap fun c => (f c).map (name c, ·) :=
        List.mem_filterMap.mpr ⟨b, hb, by rw [hfb]; rfl⟩
      exact absurd (List.mem_map_of_mem hmem) hfind

theorem map_fst_filterMap_sublist :
    ((bs.filterMap fun c => (f c).map (name c, ·)).map Prod.fst).Sublist (bs.map name) := by
  induction bs with
  | nil => exact List.Sublist.slnil
  | cons b bs ih =>
    cases hb : f b with
    | none =>
      rw [List.filterMap_cons_none (by rw [hb]; rfl)]
      exact ih.cons _
    | some v =>
      rw [List.filterMap_cons_some (by rw [hb]; rfl)]
      exact ih.cons_cons _

end named

/-! ## Maps of lists -/

theorem put_of_not_mem {k : String} {v : α} {es : List (String × α)} (h : k ∉ es.map Prod.fst) :
    put k v es = es ++ [(k, v)] := by
  induction es with
  | nil => rfl
  | cons e es ih =>
    obtain ⟨k', v'⟩ := e
    rw [List.map_cons, List.mem_cons, not_or] at h
    rw [put, if_neg (fun he => h.1 he.symm), ih h.2, List.cons_append]

theorem entries_insertAll (m : OrderedMap α) {es : List (String × α)}
    (h : (m.keys ++ es.map Prod.fst).Nodup) :
    (m.insertAll es).entries = m.entries ++ es := by
  induction es generalizing m with
  | nil => simp [insertAll]
  | cons e es ih =>
    rw [List.map_cons, List.append_cons] at h
    have hfresh : e.1 ∉ m.keys := by
      intro hm
      exact (List.nodup_append.mp (List.nodup_append.mp h).1).2.2 _ hm _ (by simp) rfl
    have hentries : (m.insert e.1 e.2).entries = m.entries ++ [e] := put_of_not_mem hfresh
    have hkeys : (m.insert e.1 e.2).keys = m.keys ++ [e.1] := by
      rw [keys, hentries, List.map_append]
      rfl
    show ((m.insert e.1 e.2).insertAll es).entries = _
    rw [ih _ (by rwa [hkeys]), hentries, List.append_assoc, List.singleton_append]

/-- A value in a map after insertions was there before or is one of the inserted. -/
theorem get?_insertAll {m : OrderedMap α} {es : List (String × α)} {k : String} {v : α}
    (h : (m.insertAll es).get? k = some v) : m.get? k = some v ∨ (k, v) ∈ es := by
  induction es generalizing m with
  | nil => exact Or.inl h
  | cons e es ih =>
    obtain ⟨j, w⟩ := e
    rcases ih h with hm | hes
    · rcases get?_insert_eq_some_iff.mp hm with ⟨rfl, rfl⟩ | ⟨hm, -⟩
      · exact Or.inr List.mem_cons_self
      · exact Or.inl hm
    · exact Or.inr (List.mem_cons_of_mem _ hes)

/-- Of inserted pairs with distinct keys each gives its key its value. -/
theorem get?_insertAll_of_nodup (m : OrderedMap α) {es : List (String × α)}
    (h : (es.map Prod.fst).Nodup) (k : String) :
    (m.insertAll es).get? k = (find? k es).or (m.get? k) := by
  induction es generalizing m with
  | nil => rfl
  | cons e es ih =>
    obtain ⟨j, v⟩ := e
    rw [List.map_cons, List.nodup_cons] at h
    show ((m.insert j v).insertAll es).get? k = _
    rw [ih (m.insert j v) h.2, get?_insert, find?]
    by_cases hj : j = k
    · -- no later pair has this key
      subst hj
      rw [find?_eq_none.mpr h.1, if_pos rfl, if_pos rfl, Option.none_or, Option.some_or]
    · rw [if_neg hj, if_neg hj]

theorem mem_of_get?_ofList {es : List (String × α)} {k : String} {v : α}
    (h : (ofList es).get? k = some v) : (k, v) ∈ es := by
  rcases get?_insertAll h with h | h
  · cases h
  · exact h

/-- A key that has a value keeps its place, and any other goes to the end. -/
theorem keys_insert (m : OrderedMap α) (j : String) (v : α) :
    (m.insert j v).keys = if j ∈ m.keys then m.keys else m.keys ++ [j] :=
  keys_put j v m.entries

theorem keys_filter_sublist (m : OrderedMap α) (p : String → α → Bool) :
    (m.filter p).keys.Sublist m.keys :=
  List.filter_sublist.map Prod.fst

theorem keys_erase (m : OrderedMap α) (j : String) : (m.erase j).keys = m.keys.filter (· ≠ j) := by
  rw [keys, keys, List.filter_map]
  rfl

theorem mem_keys_insert {m : OrderedMap α} {j k : String} {v : α} :
    k ∈ (m.insert j v).keys ↔ k ∈ m.keys ∨ k = j := by
  rw [keys_insert]
  split_ifs with hmem
  · exact ⟨Or.inl, fun h => h.elim id fun he => he ▸ hmem⟩
  · rw [List.mem_append, List.mem_singleton]

theorem mem_keys_insertAll {m : OrderedMap α} {es : List (String × α)} {k : String} :
    k ∈ (m.insertAll es).keys ↔ k ∈ m.keys ∨ k ∈ es.map Prod.fst := by
  induction es generalizing m with
  | nil => simp [insertAll]
  | cons e es ih =>
    show k ∈ ((m.insert e.1 e.2).insertAll es).keys ↔ _
    rw [ih, mem_keys_insert, List.map_cons, List.mem_cons, or_assoc]

theorem get?_ofList_eq_none {es : List (String × α)} {k : String} :
    (ofList es).get? k = none ↔ k ∉ es.map Prod.fst := by
  have hempty : k ∉ (empty : OrderedMap α).keys := List.not_mem_nil
  rw [get?_eq_none, ofList, mem_keys_insertAll, or_iff_right hempty]

/-- Pairs with distinct keys are the entries of their map. -/
theorem entries_ofList {es : List (String × α)} (h : (es.map Prod.fst).Nodup) :
    (ofList es).entries = es :=
  entries_insertAll empty h

/-! ## Ascending keys -/

section sorted

variable {m n : OrderedMap α}

theorem sorted_perm (m : OrderedMap α) : m.sorted.Perm m.entries :=
  List.mergeSort_perm _ _

theorem mem_keys_sorted {k : String} : k ∈ m.sorted.map Prod.fst ↔ k ∈ m.keys :=
  (m.sorted_perm.map Prod.fst).mem_iff

/-- The keys ascend strictly, for none occurs twice. -/
theorem pairwise_sorted (m : OrderedMap α) : m.sorted.Pairwise fun a b => a.1 < b.1 := by
  have hle : m.sorted.Pairwise fun a b => (!decide (b.1 < a.1)) = true := by
    refine List.pairwise_mergeSort (fun a b c hab hbc => ?_) (fun a b => ?_) _
    · rw [Bool.not_eq_true', decide_eq_false_iff_not, not_lt] at hab hbc ⊢
      exact hab.trans hbc
    · rw [Bool.or_eq_true, Bool.not_eq_true', Bool.not_eq_true', decide_eq_false_iff_not,
        decide_eq_false_iff_not, not_lt, not_lt]
      exact le_total _ _
  have hne : m.sorted.Pairwise fun a b => a.1 ≠ b.1 :=
    List.pairwise_map.mp ((m.sorted_perm.map Prod.fst).nodup_iff.mpr m.nodup_keys)
  refine (hle.and hne).imp fun {a b} h => lt_of_le_of_ne ?_ h.2
  have hab := h.1
  rwa [Bool.not_eq_true', decide_eq_false_iff_not, not_lt] at hab

/-- The order in which entries were inserted does not show. -/
theorem sorted_congr (h : m.entries.Perm n.entries) : m.sorted = n.sorted := by
  refine List.Perm.eq_of_pairwise (fun a b _ _ hab hba => ?_) m.pairwise_sorted n.pairwise_sorted
    (m.sorted_perm.trans (h.trans n.sorted_perm.symm))
  exact absurd hab hba.asymm

end sorted

/-! ## Some of the keys -/

section some

variable (p : String → Bool)

theorem filter_put (k : String) (v : α) (es : List (String × α)) :
    (put k v es).filter (fun e => p e.1) =
      if p k then put k v (es.filter fun e => p e.1) else es.filter fun e => p e.1 := by
  induction es with
  | nil => cases hk : p k <;> simp [put, hk]
  | cons e es ih =>
    obtain ⟨j, w⟩ := e
    by_cases hj : j = k
    · subst hj
      cases hp : p j <;> simp [put, hp]
    · rw [put, if_neg hj, List.filter_cons, List.filter_cons, ih]
      split_ifs
      · rw [put, if_neg hj]
      all_goals rfl

/-- To keep some of the keys, it is enough to insert their pairs. -/
theorem filter_insertAll (m : OrderedMap α) (es : List (String × α)) :
    (m.insertAll es).filter (fun k _ => p k) =
      (m.filter fun k _ => p k).insertAll (es.filter fun e => p e.1) := by
  induction es generalizing m with
  | nil => rfl
  | cons e es ih =>
    have hinsert : (m.insert e.1 e.2).filter (fun k _ => p k) =
        if p e.1 then (m.filter fun k _ => p k).insert e.1 e.2 else m.filter fun k _ => p k := by
      apply ext_entries
      refine (filter_put p e.1 e.2 m.entries).trans ?_
      split_ifs <;> rfl
    show ((m.insert e.1 e.2).insertAll es).filter (fun k _ => p k) = _
    rw [ih, hinsert, List.filter_cons]
    split_ifs <;> rfl

theorem filter_ofList (es : List (String × α)) :
    (ofList es).filter (fun k _ => p k) = ofList (es.filter fun e => p e.1) :=
  filter_insertAll p empty es

end some

end Wayfinder.OrderedMap
