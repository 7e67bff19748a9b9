import Wayfinder.Proofs.Filter.Active
import Wayfinder.Proofs.Filter.RoundTrip

/-!
# Canonical queries

`ofQuery_canonical`: whatever a query looks like, the query that is written for the values read from
it gives the active ones of these values, in the same order, and is written again for them. So one
reading and writing makes a query canonical. Keys may be declared several times, also as different
kinds.

A text that a key takes from a query is the text that is written for it, unless it is empty
(`queryText_of_readValue?`). So the second reading finds under each declared name the text that the
first one found, or nothing if that was empty (`bind_returned?_ofParams`); every declaration of the
name then answers as before. Empty texts are the inactive values, and leaving out all pairs of some
names leaves out the entries of these names (`OrderedMap.filter_ofList`).
-/

namespace Wayfinder

/-! ## A text that a key takes -/

namespace FilterKey

variable {k : FilterKey} {raw : String} {v : FilterValue}

theorem queryText_of_readValue? (h : k.readValue? raw = some v) : v.queryText = raw := by
  rw [readValue?] at h
  split_ifs at h with hkind htrue
  · cases h
    exact htrue.symm
  · cases h
    rfl

theorem isActive_of_readValue? (h : k.readValue? raw = some v) :
    v.isActive = true ↔ raw ≠ "" := by
  rw [readValue?] at h
  split_ifs at h with hkind htrue
  · cases h
    rw [htrue]
    decide
  · cases h
    simp [FilterValue.isActive]

/-- An active value comes back as the key reads the text that is written for it. -/
theorem returned?_of_isActive (k : FilterKey) (h : v.isActive = true) :
    k.returned? v = k.readValue? v.queryText := by
  have hround := k.readValue?_queryText (some v)
  rw [Option.filter_some, if_pos h] at hround
  exact hround.symm

end FilterKey

namespace FilterStore

/-! ## Values read from parameters -/

variable (params : List (String × String)) (keys : List FilterKey)

/-- The values that the parameters of a query give to declared keys. -/
def ofParams : FilterStore :=
  .ofList (keys.filterMap (readKey? params))

variable {params keys}

/-- A value that is read was taken from the first parameter with its name, by some declaration of
that name. -/
theorem exists_reading_of_get? {j : String} {v : FilterValue}
    (h : (ofParams params keys).get? j = some v) :
    ∃ k ∈ keys, k.key = j ∧ ∃ raw, OrderedMap.find? j params = some raw ∧
      k.readValue? raw = some v := by
  obtain ⟨k, hk, hread⟩ := List.mem_filterMap.mp (OrderedMap.mem_of_get?_ofList h)
  obtain ⟨w, hw, hpair⟩ := Option.map_eq_some_iff.mp hread
  obtain ⟨rfl, rfl⟩ := Prod.mk.inj hpair
  obtain ⟨raw, hraw, hvalue⟩ := Option.bind_eq_some_iff.mp hw
  exact ⟨k, hk, rfl, raw, hraw, hvalue⟩

theorem readValue?_of_get?_eq_none {k : FilterKey} (hk : k ∈ keys) {raw : String}
    (hraw : OrderedMap.find? k.key params = some raw)
    (h : (ofParams params keys).get? k.key = none) : k.readValue? raw = none := by
  rw [ofParams, OrderedMap.get?_ofList_eq_none] at h
  by_contra hne
  obtain ⟨v, hv⟩ := Option.ne_none_iff_exists'.mp hne
  have hread : readKey? params k = some (k.key, v) := by
    rw [readKey?, hraw, Option.bind_some, hv]
    rfl
  exact h (List.mem_map_of_mem (List.mem_filterMap.mpr ⟨k, hk, hread⟩))

/-- Under a declared name the second reading finds the text that the first one found, unless that
was empty. -/
theorem bind_returned?_ofParams {k : FilterKey} (hk : k ∈ keys) :
    ((ofParams params keys).get? k.key).bind k.returned? =
      ((OrderedMap.find? k.key params).filter (· ≠ "")).bind k.readValue? := by
  cases hv : (ofParams params keys).get? k.key with
  | none =>
    cases hraw : OrderedMap.find? k.key params with
    | none => rfl
    | some raw =>
      have hrefused := readValue?_of_get?_eq_none hk hraw hv
      rw [Option.filter_some]
      split_ifs
      · exact hrefused.symm
      · rfl
  | some v =>
    obtain ⟨k', -, -, raw, hraw, hread⟩ := exists_reading_of_get? hv
    have hactive := FilterKey.isActive_of_readValue? hread
    rw [hraw, Option.filter_some, Option.bind_some]
    by_cases hne : raw = ""
    · rw [if_neg (by simp [hne]), k.returned?_of_not_isActive]
      · rfl
      · rw [← Bool.not_eq_true, hactive]
        exact fun h => h hne
    · rw [if_pos (decide_eq_true hne), k.returned?_of_isActive (hactive.mpr hne),
        FilterKey.queryText_of_readValue? hread]
      rfl

variable (params keys)

/-- The active values are those that parameters with a text give. -/
theorem normalized_ofParams :
    normalized (ofParams params keys) =
      (ofParams params keys).filter fun j _ => OrderedMap.find? j params ≠ some "" := by
  apply OrderedMap.ext_entries
  refine List.filter_congr fun e he => ?_
  obtain ⟨k, -, -, raw, hraw, hread⟩ :=
    exists_reading_of_get? (OrderedMap.get?_eq_some.mpr he : _ = some e.2)
  rw [Bool.eq_iff_iff, FilterKey.isActive_of_readValue? hread, decide_eq_true_eq, hraw, ne_eq,
    ne_eq, Option.some.injEq]

/-- The values that come back for the values read are the active ones, each in its place. -/
theorem ofQuery_toQuery_ofParams :
    FilterStore.ofQuery (FilterStore.toQuery (ofParams params keys) keys) keys =
      normalized (ofParams params keys) := by
  rw [ofQuery_toQuery_eq, normalized_ofParams, ofParams, OrderedMap.filter_ofList,
    List.filter_filterMap]
  refine congrArg OrderedMap.ofList (List.filterMap_congr fun k hk => ?_)
  have hreturned : ((ofParams params keys).get? k.key).bind k.returned? = _ :=
    bind_returned?_ofParams hk
  rw [ofParams] at hreturned
  -- all pairs of a name stay or all go
  have hfilter : ∀ v : Option FilterValue,
      (v.map (k.key, ·)).filter (fun e => OrderedMap.find? e.1 params ≠ some "") =
        if OrderedMap.find? k.key params ≠ some "" then v.map (k.key, ·) else none := by
    intro v
    cases v <;> simp [Option.filter]
  rw [hreturned, readKey?, hfilter]
  cases OrderedMap.find? k.key params with
  | none => rfl
  | some raw => by_cases hne : raw = "" <;> simp [Option.filter, hne]

/-! ## The fixed point -/

/-- **Canonical queries.** The query written for the values of a query gives the active ones of these
values, in their order, and is written for them again. -/
theorem ofQuery_canonical (query : String) (keys : List FilterKey) :
    let d := FilterStore.ofQuery query keys
    let c := FilterStore.toQuery d keys
    FilterStore.ofQuery c keys = normalized d ∧
      FilterStore.toQuery (FilterStore.ofQuery c keys) keys = c := by
  intro d c
  have hread : FilterStore.ofQuery c keys = normalized d :=
    ofQuery_toQuery_ofParams (Url.decodePairs (withoutMark query.toList)) keys
  refine ⟨hread, ?_⟩
  rw [hread]
  exact (sameActive_normalized d).toQuery_eq keys

/-- A stray percent sign, an octet that is no UTF-8, and a key that is declared as two kinds. -/
example :
    let keys := [FilterKey.ofSearch "q" "Search", .ofBoolean "mine" "Mine", .ofSearch "mine" "Mine"]
    FilterStore.toQuery (FilterStore.ofQuery "?mine=true&q=%z%FF+&q=1&mine" keys) keys =
      "q=%25z%EF%BF%BD+&mine=true&mine=true" := by
  decide

end FilterStore

end Wayfinder
