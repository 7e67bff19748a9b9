import Wayfinder.Proofs.Filter.Reload
import Wayfinder.Proofs.Session.Screens

/-!
# Filters of a screen when it opens

`openScreen_filters`: a query that sets a filter is taken as it is, and the defaults of the policy are
left alone. A query that sets none leaves the screen to the defaults: each that the schema declares a
key for has its value, whatever inactive value the query gave the key, and nothing else is active.

What sets a filter is read off the query (`isActive_ofParams_iff`): the first parameter with a declared
name has a text, and the text is `true` if the key is a toggle. What the defaults do is one equation
for look-up (`get?_seed`).
-/

namespace Wayfinder

/-! ## What a query sets -/

/-- The first parameter with the name of the key has a text, which is `true` if the key is a toggle. -/
def FilterKey.IsSetBy (k : FilterKey) (params : List (String × String)) : Prop :=
  ∃ raw, OrderedMap.find? k.key params = some raw ∧ raw ≠ "" ∧ (k.kind = .boolean → raw = "true")

theorem FilterKey.readValue?_ne_none_iff {k : FilterKey} {raw : String} :
    k.readValue? raw ≠ none ↔ (k.kind = .boolean → raw = "true") := by
  rw [FilterKey.readValue?]
  split_ifs <;> simp_all

theorem FilterStore.isActive_ofParams_iff {params : List (String × String)}
    {keys : List FilterKey} {j : String} :
    isActive (ofParams params keys) j = true ↔ ∃ k ∈ keys, k.key = j ∧ k.IsSetBy params := by
  rw [isActive, Option.any_eq_true]
  constructor
  · rintro ⟨v, hv, hactive⟩
    obtain ⟨k, hk, hkey, raw, hraw, hread⟩ := exists_reading_of_get? hv
    subst hkey
    refine ⟨k, hk, rfl, raw, hraw, (FilterKey.isActive_of_readValue? hread).mp hactive, ?_⟩
    refine FilterKey.readValue?_ne_none_iff.mp ?_
    rw [hread]
    exact Option.some_ne_none v
  · rintro ⟨k, hk, rfl, raw, hraw, hne, htoggle⟩
    cases hv : (ofParams params keys).get? k.key with
    | none =>
      exact absurd (readValue?_of_get?_eq_none hk hraw hv)
        (FilterKey.readValue?_ne_none_iff.mpr htoggle)
    | some v =>
      -- another declaration of the name may have given the value, from the same text
      obtain ⟨k', -, -, raw', hraw', hread⟩ := exists_reading_of_get? hv
      rw [hraw] at hraw'
      obtain rfl := Option.some.inj hraw'
      exact ⟨v, rfl, (FilterKey.isActive_of_readValue? hread).mpr hne⟩

/-! ## What the defaults do -/

namespace FilterState

variable {s : FilterState} {defaults : OrderedMap FilterValue}

theorem schema_seed : (s.seed defaults).schema = s.schema :=
  s.schema_after (.seed defaults)

theorem seed_of_active (h : ∃ key, FilterStore.isActive s.values key = true) :
    s.seed defaults = s := by
  rw [seed, if_neg]
  rw [FilterStore.activeCount_eq_zero_iff]
  intro hnone
  obtain ⟨key, hkey⟩ := h
  rw [hnone key] at hkey
  cases hkey

theorem get?_seed (h : ∀ key, FilterStore.isActive s.values key = false) (key : String) :
    (s.seed defaults).values.get? key =
      ((defaults.get? key).filter fun _ => s.schema.contains key).or (s.values.get? key) := by
  have hdeclared : OrderedMap.find? key (s.declaredDefaults defaults) =
      (defaults.get? key).filter fun _ => s.schema.contains key :=
    defaults.get?_filter (fun key _ => s.schema.contains key) key
  rw [seed, if_pos ((FilterStore.activeCount_eq_zero_iff _).mpr h), ← hdeclared]
  exact s.values.get?_insertAll_of_nodup (OrderedMap.nodup_filter defaults.nodup_keys) key

theorem active?_seed (h : ∀ key, FilterStore.isActive s.values key = false) (key : String) :
    FilterStore.active? (s.seed defaults).values key =
      ((defaults.get? key).filter fun _ => s.schema.contains key).filter FilterValue.isActive := by
  have hold : FilterStore.active? s.values key = none := by
    rw [← Option.not_isSome_iff_eq_none, ← FilterStore.isActive_eq_isSome, h key]
    exact Bool.false_ne_true
  rw [FilterStore.active?, get?_seed h]
  cases (defaults.get? key).filter fun _ => s.schema.contains key with
  | none => exact hold
  | some v => rfl

end FilterState

/-! ## The screen -/

namespace Session

/-- **Filters of a screen when it opens**: those of the query if it sets any, else the declared
defaults of the policy in effect. -/
theorem openScreen_filters (s : Session) {n : Node} (hn : n ∈ s.visible) (schema : FilterSchema)
    (query : Option String) :
    let declared := schema.keys.map FilterKey.key
    let params := Url.decodePairs (FilterStore.withoutMark (query.getD "").toList)
    let d := FilterStore.ofQuery (query.getD "") schema.keys
    ∃ screen, s.openScreen n.id schema query = .ok screen ∧
      screen.policy.policy =
        ((n.policies.get? s.lens.current).or (n.policies.get? n.defaultPreset)).getD
          Policy.baseline ∧
      (let defaults := screen.policy.policy.defaultFilters
       let values := screen.filters.values
       screen.filters.schema = schema ∧
        (∀ key ∈ values.keys, key ∈ declared) ∧
        ((∃ key, FilterStore.isActive d key = true) ↔
          ∃ k ∈ schema.keys, k.IsSetBy params) ∧
        ((∃ key, FilterStore.isActive d key = true) → values = d) ∧
        ((∀ key, FilterStore.isActive d key = false) →
          (∀ key v, key ∈ declared → defaults.get? key = some v → values.get? key = some v) ∧
            (∀ key, key ∉ declared ∨ defaults.get? key = none → values.get? key = d.get? key) ∧
            ∀ key v, FilterStore.active? values key = some v ↔
              key ∈ declared ∧ defaults.get? key = some v ∧ v.isActive = true)) := by
  intro declared params d
  have hopen : s.openScreen n.id schema query = .ok (s.screenOf schema query n) :=
    openScreen_eq_ok_iff.mpr ⟨n, node_eq_ok_iff.mpr ⟨hn, rfl⟩, rfl⟩
  refine ⟨s.screenOf schema query n, hopen, policy_of_openScreen hopen, ?_⟩
  intro defaults values
  let opened := FilterState.ofQuery schema (query.getD "")
  have hiff : ∀ key, schema.contains key = true ↔ key ∈ declared := fun key =>
    FilterSchema.contains_iff
  refine ⟨FilterState.schema_seed, fun key hkey => ?_, ?_, fun hactive => ?_, fun hnone => ?_⟩
  · obtain ⟨v, hv⟩ := OrderedMap.mem_keys_iff.mp hkey
    have hstored : (opened.after (.seed defaults)).values.get? key = some v := hv
    rcases FilterState.stored_after hstored with hread | ⟨hkey, -⟩
    · obtain ⟨k, hk, rfl, -⟩ := FilterStore.exists_key_of_get?_ofQuery hread
      exact List.mem_map_of_mem hk
    · exact (hiff key).mp hkey
  · constructor
    · rintro ⟨key, hactive⟩
      obtain ⟨k, hk, rfl, hset⟩ := FilterStore.isActive_ofParams_iff.mp hactive
      exact ⟨k, hk, hset⟩
    · rintro ⟨k, hk, hset⟩
      exact ⟨k.key, FilterStore.isActive_ofParams_iff.mpr ⟨k, hk, rfl, hset⟩⟩
  · exact congrArg FilterState.values (opened.seed_of_active hactive)
  · have hget : ∀ key, values.get? key =
        ((defaults.get? key).filter fun _ => schema.contains key).or (d.get? key) :=
      opened.get?_seed hnone
    refine ⟨fun key v hkey hv => ?_, fun key hkey => ?_, fun key v => ?_⟩
    · rw [hget, hv, Option.filter_some, if_pos ((hiff key).mpr hkey), Option.some_or]
    · have hleft : ((defaults.get? key).filter fun _ => schema.contains key) = none := by
        rw [Option.filter_eq_none_iff]
        rintro v hv hkey'
        rcases hkey with hkey | hkey
        · exact hkey ((hiff key).mp hkey')
        · rw [hkey] at hv
          cases hv
      rw [hget, hleft, Option.none_or]
    · have hactive : FilterStore.active? values key =
          ((defaults.get? key).filter fun _ => schema.contains key).filter
            FilterValue.isActive :=
        opened.active?_seed hnone key
      rw [hactive, Option.filter_eq_some_iff, Option.filter_eq_some_iff, hiff, and_assoc,
        and_left_comm]

/-- A toggle with another word, an empty text and a parameter that is not declared leave the screen to
the defaults; the default of a key that is not declared is left out. -/
theorem openScreen_filters_unset :
    let schema : FilterSchema := ⟨[.ofSearch "q" "Search", .ofBoolean "mine" "Mine",
      { key := "owner", label := "Owner", kind := .string }], by decide, by decide, by decide, by decide⟩
    let defaults : OrderedMap FilterValue :=
      .ofList [("page", .text "1"), ("mine", .flag true), ("q", .text "true")]
    let n : Node := { id := "issues", label := "Issues", route := "/issues", domain := .execution,
                      defaultPreset := .pmWork,
                      policies := .ofList [(.pmWork, { defaultFilters := defaults })] }
    let s := start { registry := ⟨[n], by decide, by decide, by decide⟩ } "" "auditor" .empty
    n ∈ s.visible ∧
      ∃ screen, s.openScreen "issues" schema (some "?mine=yes&q=&owner=&page=2") = .ok screen ∧
        FilterStore.active? screen.filters.values "mine" = some (.flag true) ∧
        FilterStore.active? screen.filters.values "q" = some (.text "true") ∧
        screen.filters.values.get? "owner" = some (.text "") ∧
        screen.filters.values.get? "page" = none := by
  intro schema defaults n s
  have hn : n ∈ s.visible := mem_visible.mpr ⟨List.mem_cons_self, by decide⟩
  have hnone : ∀ key, FilterStore.isActive
      (FilterStore.ofQuery "?mine=yes&q=&owner=&page=2" schema.keys) key = false :=
    (FilterStore.activeCount_eq_zero_iff _).mp (by decide)
  obtain ⟨screen, hopen, hpolicy, -, -, -, -, hunset⟩ :=
    openScreen_filters s hn schema (some "?mine=yes&q=&owner=&page=2")
  obtain ⟨-, hother, hactive⟩ := hunset hnone
  have hdefaults : screen.policy.policy.defaultFilters = defaults := by
    rw [hpolicy]
    rfl
  rw [hdefaults] at hother hactive
  refine ⟨hn, screen, hopen, ?_, ?_, ?_, ?_⟩
  · exact (hactive "mine" _).mpr ⟨by decide, by decide, rfl⟩
  · exact (hactive "q" _).mpr ⟨by decide, by decide, by decide⟩
  · exact (hother "owner" (Or.inr (by decide))).trans (by decide)
  · exact (hother "page" (Or.inl (by decide))).trans (by decide)

end Session

end Wayfinder
