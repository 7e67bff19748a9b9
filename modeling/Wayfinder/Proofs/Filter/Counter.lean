import Wayfinder.Proofs.Filter.Reload

/-!
# The counter of a filter bar and its query

`counter_query`: however a filter bar was opened and edited, the number of active values that it shows
is the number of pairs in its query, and the names of these pairs are the keys that the active values
have, in the order of the schema.

The counter goes through everything that is stored, the query through the declared keys. They agree
because all that is ever stored has a declared key (`declared_of_stored`) and the schema declares no
key twice: the declared keys with an active value are those of the normalized store, up to order
(`filter_isActive_perm`).
-/

namespace Wayfinder

/-! ## The pairs of a query -/

namespace FilterStore

variable {s : FilterStore} {keys : List FilterKey}

/-- A query names the declared keys that have active values. -/
theorem names_queryPairs :
    (keys.filterMap (·.queryPair? s)).map Prod.fst =
      (keys.map FilterKey.key).filter (isActive s ·) := by
  induction keys with
  | nil => rfl
  | cons k keys ih =>
    rw [List.map_cons, List.filter_cons, isActive_eq_isSome, active?, List.filterMap_cons,
      FilterKey.queryPair?]
    cases (s.get? k.key).filter FilterValue.isActive with
    | none => exact ih
    | some v => exact congrArg (k.key :: ·) ih

section declared

variable (hkeys : (keys.map FilterKey.key).Nodup)
  (hdeclared : ∀ key ∈ s.keys, key ∈ keys.map FilterKey.key)

include hkeys hdeclared

theorem filter_isActive_perm :
    ((keys.map FilterKey.key).filter (isActive s ·)).Perm (normalized s).keys := by
  refine (List.perm_ext_iff_of_nodup (hkeys.filter _) (normalized s).nodup_keys).mpr fun key => ?_
  rw [List.mem_filter, isActive_iff_mem_normalized]
  refine and_iff_right_of_imp fun hactive => hdeclared key ?_
  exact (List.filter_sublist.map Prod.fst).subset hactive

theorem length_queryPairs : (keys.filterMap (·.queryPair? s)).length = activeCount s := by
  rw [← List.length_map Prod.fst, names_queryPairs,
    (filter_isActive_perm hkeys hdeclared).length_eq, OrderedMap.keys, List.length_map,
    activeCount_eq_length]

end declared

theorem toQuery_eq_empty_iff : toQuery s keys = "" ↔ keys.filterMap (·.queryPair? s) = [] := by
  constructor
  · intro h
    rw [← Url.decodePairs_encodePairs (keys.filterMap (·.queryPair? s)), ← toQuery, h]
    rfl
  · intro h
    rw [toQuery, h]
    rfl

end FilterStore

/-! ## After any edits -/

namespace FilterState

theorem set_eq_error_iff {s : FilterState} {key : String} {value : Option FilterValue}
    {err : FilterError} :
    s.set key value = .error err ↔
      err = .unknownKey key ∧ key ∉ s.schema.keys.map FilterKey.key := by
  rw [← FilterSchema.contains_iff, set]
  split_ifs with hkey <;> simp [hkey, eq_comm]

/-- **The counter and the query agree**, and only declared keys are ever counted. -/
theorem counter_query (schema : FilterSchema) (query : Option String) (edits : List FilterEdit) :
    let s := (opened schema query).run edits
    (∀ key ∈ s.values.keys, key ∈ schema.keys.map FilterKey.key ∧ s.values.keys.count key = 1) ∧
      (∀ key value err, s.set key value = .error err ↔
        err = .unknownKey key ∧ key ∉ schema.keys.map FilterKey.key) ∧
      (∀ key value, key ∉ schema.keys.map FilterKey.key → s.after (.set key value) = s) ∧
      (Url.decodePairs s.toQuery.toList).length = s.activeCount ∧
      (Url.decodePairs s.toQuery.toList).map Prod.fst =
        (schema.keys.map FilterKey.key).filter (FilterStore.isActive s.values ·) ∧
      (s.toQuery = "" ↔ s.activeCount = 0) := by
  intro s
  have hschema : s.schema = schema := (schema_run _ edits).trans schema_opened
  have hdeclared : ∀ key ∈ s.values.keys, key ∈ schema.keys.map FilterKey.key := by
    intro key hkey
    obtain ⟨v, hv⟩ := OrderedMap.mem_keys_iff.mp hkey
    exact declared_of_stored hv
  have hpairs : Url.decodePairs s.toQuery.toList =
      schema.keys.filterMap (·.queryPair? s.values) := by
    rw [toQuery, hschema, FilterStore.toQuery, Url.decodePairs_encodePairs]
  have hlength := FilterStore.length_queryPairs schema.nodup_keys hdeclared
  refine ⟨fun key hkey => ⟨hdeclared key hkey, ?_⟩, ?_, ?_, ?_, ?_, ?_⟩
  · exact List.count_eq_one_of_mem s.values.nodup_keys hkey
  · intro key value err
    rw [set_eq_error_iff, hschema]
  · intro key value hkey
    rw [after_set, if_neg]
    rwa [FilterSchema.contains_iff, hschema]
  · rw [hpairs, hlength, activeCount]
  · rw [hpairs, FilterStore.names_queryPairs]
  · rw [toQuery, hschema, FilterStore.toQuery_eq_empty_iff, ← List.length_eq_zero_iff, hlength,
      activeCount]

/-- A parameter that is not declared, a refused edit and a toggle that is off count for nothing. -/
example :
    let schema : FilterSchema :=
      ⟨[.ofBoolean "mine" "Mine", .ofSearch "q" "Search"], by decide, by decide, by decide, by decide⟩
    let s := (opened schema (some "?page=2&q=a b")).run
      [.set "page" (some (.text "3")), .set "mine" (some (.flag false))]
    s.values.entries = [("q", .text "a b"), ("mine", .flag false)] ∧ s.activeCount = 1 ∧
      s.toQuery = "q=a+b" := by
  decide

end FilterState

end Wayfinder
