import Wayfinder.Proofs.Filter.Edits
import Wayfinder.Proofs.Filter.Canonical

/-!
# Reloading a filter bar from its own query

`reload`: however a filter bar was opened and edited, the bar restored from its query has the same
active values if and only if each of them is of its key's kind, as it is when every active value
that the edits wrote under a declared key is. Edits do not look at the kind of a value: a text set
for a toggle is lost on the way (`reload_text_under_toggle`).

Every stored value is one that a query gave to its key, and such values fit (`fits_of_readValue?`),
or one that an edit wrote under a declared key (`stored_run`). So the stored keys are all declared,
and the round trip of a store settles the rest.
-/

namespace Wayfinder

/-! ## Values that a query gives -/

theorem FilterKey.fits_of_readValue? {k : FilterKey} {raw : String} {v : FilterValue}
    (h : k.readValue? raw = some v) : k.Fits v := by
  rw [FilterKey.readValue?] at h
  split_ifs at h with hkind htrue
  · cases h
    exact hkind
  · cases h
    exact hkind

theorem FilterStore.exists_key_of_get?_ofQuery {query : String} {keys : List FilterKey}
    {j : String} {v : FilterValue} (h : (FilterStore.ofQuery query keys).get? j = some v) :
    ∃ k ∈ keys, k.key = j ∧ k.Fits v := by
  obtain ⟨k, hk, hkey, raw, -, hread⟩ := exists_reading_of_get? h
  exact ⟨k, hk, hkey, k.fits_of_readValue? hread⟩

theorem FilterSchema.contains_iff {schema : FilterSchema} {j : String} :
    schema.contains j = true ↔ j ∈ schema.keys.map FilterKey.key := by
  rw [FilterSchema.contains, FilterSchema.get?, List.find?_isSome, List.mem_map]
  simp only [decide_eq_true_eq]

/-! ## Opened and edited -/

/-- Each active value that the edit writes under a declared key is of the key's kind. -/
def FilterEdit.Fits (edit : FilterEdit) (schema : FilterSchema) : Prop :=
  ∀ k ∈ schema.keys, ∀ v, edit.Writes k.key v → v.isActive = true → k.Fits v

namespace FilterState

open FilterStore (normalized)

/-- A filter bar as it is opened: without values, or from a query. -/
def opened (schema : FilterSchema) : Option String → FilterState
  | none => ⟨schema, {}⟩
  | some query => .ofQuery schema query

variable {schema : FilterSchema} {query : Option String} {edits : List FilterEdit}

theorem schema_opened : (opened schema query).schema = schema := by
  cases query <;> rfl

theorem exists_key_of_opened {j : String} {v : FilterValue}
    (h : (opened schema query).values.get? j = some v) :
    ∃ k ∈ schema.keys, k.key = j ∧ k.Fits v := by
  cases query with
  | none => cases h
  | some query => exact FilterStore.exists_key_of_get?_ofQuery h

/-- Only declared keys have values. -/
theorem declared_of_stored {j : String} {v : FilterValue}
    (h : ((opened schema query).run edits).values.get? j = some v) :
    j ∈ schema.keys.map FilterKey.key := by
  rcases stored_run h with hstart | ⟨hdeclared, -⟩
  · obtain ⟨k, hk, rfl, -⟩ := exists_key_of_opened hstart
    exact List.mem_map_of_mem hk
  · rw [schema_opened] at hdeclared
    exact FilterSchema.contains_iff.mp hdeclared

theorem fits_of_stored (hedits : ∀ edit ∈ edits, edit.Fits schema) {k : FilterKey}
    (hk : k ∈ schema.keys) {v : FilterValue}
    (h : ((opened schema query).run edits).values.get? k.key = some v)
    (hactive : v.isActive = true) : k.Fits v := by
  rcases stored_run h with hstart | ⟨-, edit, hedit, hwrites⟩
  · obtain ⟨k', hk', hkey, hfits⟩ := exists_key_of_opened hstart
    rwa [List.inj_on_of_nodup_map schema.nodup_keys hk' hk hkey] at hfits
  · exact hedits edit hedit k hk v hwrites hactive

/-- A bar whose keys are all declared is restored from its query if and only if its active values
are of their keys' kinds. -/
theorem sameEntries_reload_iff {s : FilterState}
    (hdeclared : ∀ j v, s.values.get? j = some v → j ∈ s.schema.keys.map FilterKey.key) :
    (ofQuery s.schema s.toQuery).values.sameEntries (normalized s.values) = true ↔
      ∀ k ∈ s.schema.keys, ∀ v, s.values.get? k.key = some v → v.isActive = true → k.Fits v := by
  have hkept : (normalized s.values).filter (fun j _ => j ∈ s.schema.keys.map FilterKey.key) =
      normalized s.values := by
    apply OrderedMap.ext_entries
    refine List.filter_eq_self.mpr fun e he => ?_
    have hstored : e ∈ s.values.entries := (List.mem_filter.mp he).1
    exact decide_eq_true (hdeclared e.1 e.2 (OrderedMap.get?_eq_some.mpr hstored))
  have hround := FilterStore.sameEntries_ofQuery_toQuery_iff s.schema.nodup_keys s.values
  rwa [hkept] at hround

/-! ## The reload -/

/-- A text set for a toggle is lost: the bar restored from the query has no value. -/
theorem reload_text_under_toggle :
    let schema : FilterSchema :=
      ⟨[.ofBoolean "mine" "Mine"], by decide, by decide, by decide, by decide⟩
    let s := (opened schema none).run [.set "mine" (some (.text "on"))]
    s.values.entries = [("mine", .text "on")] ∧ (ofQuery schema s.toQuery).values.entries = [] ∧
      (ofQuery schema s.toQuery).values.sameEntries (normalized s.values) = false := by
  decide

/-- **A filter bar restored from its own query** has the active values that it had if and only if
each is of its key's kind, as each is if only such values were written. -/
theorem reload (schema : FilterSchema) (query : Option String) (edits : List FilterEdit) :
    let s := (opened schema query).run edits
    ((ofQuery schema s.toQuery).values.sameEntries (normalized s.values) = true ↔
        ∀ k ∈ schema.keys, ∀ v, s.values.get? k.key = some v → v.isActive = true → k.Fits v) ∧
      ((∀ edit ∈ edits, edit.Fits schema) →
        (ofQuery schema s.toQuery).values.sameEntries (normalized s.values) = true) := by
  intro s
  have hschema : s.schema = schema := (schema_run _ edits).trans schema_opened
  have hiff := sameEntries_reload_iff (s := s) fun j v h => by
    rw [hschema]
    exact declared_of_stored h
  rw [hschema] at hiff
  exact ⟨hiff, fun hedits => hiff.mpr fun k hk v => fits_of_stored hedits hk⟩

/-- A search text with reserved characters, a toggle that the opening query did not set, and an
empty text under the toggle that no longer counts. -/
theorem reload_reserved :
    let schema : FilterSchema :=
      ⟨[.ofSearch "q" "Search", .ofBoolean "mine" "Mine"], by decide, by decide, by decide, by decide⟩
    let edits := [.set "mine" (some (.text "")), .set "q" (some (.text "a&b")),
      .set "mine" (some (.flag true))]
    let s := (opened schema (some "?mine=no&q=x")).run edits
    (∀ edit ∈ edits, edit.Fits schema) ∧
      s.values.entries = [("q", .text "a&b"), ("mine", .flag true)] ∧
      (ofQuery schema s.toQuery).values.sameEntries (normalized s.values) = true := by
  intro schema edits s
  have hfits : ∀ edit ∈ edits, edit.Fits schema := by
    simp [edits, schema, FilterEdit.Fits, FilterEdit.Writes, FilterKey.ofSearch,
      FilterKey.ofBoolean, FilterKey.Fits, FilterValue.isActive]
  exact ⟨hfits, by decide, (reload schema (some "?mine=no&q=x") edits).2 hfits⟩

end FilterState

end Wayfinder
