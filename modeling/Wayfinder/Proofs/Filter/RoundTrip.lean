import Wayfinder.Filter.Query
import Wayfinder.Proofs.OrderedMap
import Wayfinder.Proofs.Url.Form

/-!
# Filter values survive a round trip through a URL

`ofQuery_toQuery`: the values that are read back from the query written for a store are, in the
order in which the keys are declared, what `returned?` says about each stored value: a toggle that
is off and an empty text are gone, a value of the kind that its key has comes back as it was, and a
value of another kind comes back as that kind reads the text that was written for it, or not at all.
So a round trip keeps the active values of the declared keys if and only if each of them is of its
key's kind (`Fits`).

The query is decoded to the pairs it was written from (`decodePairs_encodePairs`), whatever the
keys. The rest follows one key: equal keys wrote equal pairs, so the first pair with its name is
the one that was written for it.
-/

namespace Wayfinder

/-! ## What comes back -/

namespace FilterKey

/-- What is read back for a value that is stored under a key. -/
def returned? (k : FilterKey) : FilterValue → Option FilterValue
  | .flag false => none
  | .flag true => some (if k.kind = .boolean then .flag true else .text "true")
  | .text t =>
    if t = "" then none
    else if k.kind = .boolean then if t = "true" then some (.flag true) else none
    else some (.text t)

/-- The value is of the key's kind: toggles have flags, all other keys have texts. -/
def Fits (k : FilterKey) : FilterValue → Prop
  | .flag _ => k.kind = .boolean
  | .text _ => k.kind ≠ .boolean

/-- Only an active value of the key's kind comes back as it was. -/
theorem returned?_eq_self_iff (k : FilterKey) (v : FilterValue) :
    k.returned? v = some v ↔ v.isActive = true ∧ k.Fits v := by
  cases v with
  | flag b =>
    cases b with
    | false => simp [returned?, FilterValue.isActive]
    | true => by_cases hk : k.kind = .boolean <;> simp [returned?, FilterValue.isActive, Fits, hk]
  | text t =>
    by_cases ht : t = ""
    · simp [returned?, FilterValue.isActive, ht]
    · by_cases hk : k.kind = .boolean
      · by_cases htrue : t = "true" <;> simp [returned?, Fits, hk, htrue]
      · simp [returned?, FilterValue.isActive, Fits, hk, ht]

theorem returned?_of_not_isActive (k : FilterKey) {v : FilterValue} (h : v.isActive = false) :
    k.returned? v = none := by
  cases v with
  | flag b =>
    subst h
    rfl
  | text t =>
    have ht : t = "" := by simpa [FilterValue.isActive] using h
    rw [returned?, if_pos ht]

/-- Writing the value, if it is active, and reading the text for the key. -/
theorem readValue?_queryText (k : FilterKey) (v : Option FilterValue) :
    ((v.filter FilterValue.isActive).map FilterValue.queryText).bind k.readValue? =
      v.bind k.returned? := by
  cases v with
  | none => rfl
  | some v =>
    cases hv : v.isActive with
    | false => simp [Option.filter, hv, k.returned?_of_not_isActive hv]
    | true =>
      cases v with
      | flag b =>
        have hb : b = true := hv
        subst hb
        by_cases hk : k.kind = .boolean <;>
          simp [Option.filter, FilterValue.isActive, FilterValue.queryText, readValue?, returned?, hk]
      | text t =>
        have ht : t ≠ "" := by simpa [FilterValue.isActive] using hv
        simp [Option.filter, hv, FilterValue.queryText, readValue?, returned?, ht]

end FilterKey

/-! ## Pairs of a query -/

namespace FilterStore

theorem withoutMark_of_head? {cs : List Char} (h : cs.head? ≠ some '?') : withoutMark cs = cs := by
  unfold withoutMark
  split
  · exact absurd rfl h
  · rfl

theorem withoutMark_of_not_mem {cs : List Char} (h : '?' ∉ cs) : withoutMark cs = cs :=
  withoutMark_of_head? fun hhead => h (List.mem_of_head? hhead)

/-- A written query is decoded to the pairs it was written from. -/
theorem params_toQuery (s : FilterStore) (keys : List FilterKey) :
    Url.decodePairs (withoutMark (FilterStore.toQuery s keys).toList) =
      keys.filterMap (·.queryPair? s) := by
  rw [toQuery, withoutMark_of_not_mem
    (Url.not_mem_encodePairs (by rfl) (by decide) (by decide) _), Url.decodePairs_encodePairs]

theorem queryPair?_eq (k : FilterKey) (s : FilterStore) :
    k.queryPair? s =
      (((s.get? k.key).filter FilterValue.isActive).map FilterValue.queryText).map (k.key, ·) := by
  rw [FilterKey.queryPair?, Option.map_map]
  rfl

/-- The first pair with the name of a declared key is the one written for that key. -/
theorem find?_queryPairs (s : FilterStore) {keys : List FilterKey} {k : FilterKey} (hk : k ∈ keys) :
    OrderedMap.find? k.key (keys.filterMap (·.queryPair? s)) =
      ((s.get? k.key).filter FilterValue.isActive).map FilterValue.queryText := by
  simp only [queryPair?_eq]
  exact OrderedMap.find?_filterMap (fun a _ b _ hname => by rw [hname]) hk

/-- What a key reads from a written query is what comes back for its stored value. -/
theorem readKey?_toQuery (s : FilterStore) {keys : List FilterKey} {k : FilterKey} (hk : k ∈ keys) :
    readKey? (keys.filterMap (·.queryPair? s)) k = ((s.get? k.key).bind k.returned?).map (k.key, ·) := by
  rw [readKey?, find?_queryPairs s hk, k.readValue?_queryText]

theorem ofQuery_toQuery_eq (s : FilterStore) (keys : List FilterKey) :
    FilterStore.ofQuery (FilterStore.toQuery s keys) keys =
      .ofList (keys.filterMap fun k => ((s.get? k.key).bind k.returned?).map (k.key, ·)) := by
  rw [ofQuery, params_toQuery]
  exact congrArg OrderedMap.ofList
    (List.filterMap_congr fun k hk => readKey?_toQuery s hk)

/-! ## Distinct keys -/

section distinct

variable {keys : List FilterKey} (hkeys : (keys.map FilterKey.key).Nodup)

include hkeys

theorem entries_ofQuery_toQuery (s : FilterStore) :
    (FilterStore.ofQuery (FilterStore.toQuery s keys) keys).entries =
      keys.filterMap fun k => ((s.get? k.key).bind k.returned?).map (k.key, ·) := by
  rw [ofQuery_toQuery_eq]
  exact OrderedMap.entries_ofList (hkeys.sublist OrderedMap.map_fst_filterMap_sublist)

theorem get?_ofQuery_toQuery (s : FilterStore) {k : FilterKey} (hk : k ∈ keys) :
    (FilterStore.ofQuery (FilterStore.toQuery s keys) keys).get? k.key =
      (s.get? k.key).bind k.returned? := by
  rw [OrderedMap.get?, entries_ofQuery_toQuery hkeys]
  refine OrderedMap.find?_filterMap (f := fun k : FilterKey => (s.get? k.key).bind k.returned?) ?_ hk
  intro a ha b hb hname
  rw [List.inj_on_of_nodup_map hkeys ha hb hname]

theorem get?_ofQuery_toQuery_of_not_mem (s : FilterStore) {j : String}
    (hj : j ∉ keys.map FilterKey.key) :
    (FilterStore.ofQuery (FilterStore.toQuery s keys) keys).get? j = none := by
  rw [OrderedMap.get?_eq_none, OrderedMap.keys, entries_ofQuery_toQuery hkeys]
  exact fun h => hj (OrderedMap.map_fst_filterMap_sublist.subset h)

/-- The active values of the declared keys are kept if and only if each is of its key's kind. -/
theorem sameEntries_ofQuery_toQuery_iff (s : FilterStore) :
    (FilterStore.ofQuery (FilterStore.toQuery s keys) keys).sameEntries
        ((FilterStore.normalized s).filter fun j _ => j ∈ keys.map FilterKey.key) = true ↔
      ∀ k ∈ keys, ∀ v, s.get? k.key = some v → v.isActive = true → k.Fits v := by
  have hstored : ∀ k ∈ keys,
      ((FilterStore.normalized s).filter fun j _ => j ∈ keys.map FilterKey.key).get? k.key =
        (s.get? k.key).filter FilterValue.isActive := by
    intro k hk
    have hdecl : decide (k.key ∈ keys.map FilterKey.key) = true :=
      decide_eq_true (List.mem_map_of_mem hk)
    rw [OrderedMap.get?_filter, normalized, OrderedMap.get?_filter, hdecl]
    cases (s.get? k.key).filter FilterValue.isActive <;> rfl
  rw [OrderedMap.sameEntries_iff]
  constructor
  · intro h k hk v hv hactive
    have hkey := h k.key
    rw [get?_ofQuery_toQuery hkeys s hk, hstored k hk, hv, Option.filter_some, if_pos hactive]
      at hkey
    exact ((k.returned?_eq_self_iff v).mp hkey).2
  · intro h j
    by_cases hj : j ∈ keys.map FilterKey.key
    · obtain ⟨k, hk, rfl⟩ := List.mem_map.mp hj
      rw [get?_ofQuery_toQuery hkeys s hk, hstored k hk]
      cases hv : s.get? k.key with
      | none => rfl
      | some v =>
        rw [Option.bind_some, Option.filter_some]
        split_ifs with hactive
        · exact (k.returned?_eq_self_iff v).mpr ⟨hactive, h k hk v hv hactive⟩
        · exact k.returned?_of_not_isActive (by simpa using hactive)
    · rw [get?_ofQuery_toQuery_of_not_mem hkeys s hj, OrderedMap.get?_filter, decide_eq_false hj]
      cases (FilterStore.normalized s).get? j <;> rfl

end distinct

/-- **A store read back from its own query.** The entries are those that `returned?` leaves, in the
order of the keys; they are the active values of the declared keys if and only if each of these is of
its key's kind. -/
theorem ofQuery_toQuery (s : FilterStore) (keys : List FilterKey)
    (hkeys : (keys.map FilterKey.key).Nodup) :
    (FilterStore.ofQuery (FilterStore.toQuery s keys) keys).entries =
        keys.filterMap (fun k => ((s.get? k.key).bind k.returned?).map (k.key, ·)) ∧
      ((FilterStore.ofQuery (FilterStore.toQuery s keys) keys).sameEntries
          ((FilterStore.normalized s).filter fun j _ => j ∈ keys.map FilterKey.key) = true ↔
        ∀ k ∈ keys, ∀ v, s.get? k.key = some v → v.isActive = true → k.Fits v) :=
  ⟨entries_ofQuery_toQuery hkeys s, sameEntries_ofQuery_toQuery_iff hkeys s⟩

/-- Reserved characters come back, and a text other than `true` is lost under a toggle. -/
theorem ofQuery_toQuery_reserved :
    let keys := [FilterKey.ofSearch "?q" "Search", .ofBoolean "mine" "Mine", .ofBoolean "late" "Late"]
    let s : FilterStore := .ofList
      [("late", .text "on"), ("?q", .text "a&b=c+d%é ?"), ("mine", .flag true), ("page", .text "2")]
    (keys.map FilterKey.key).Nodup ∧
      (FilterStore.ofQuery (FilterStore.toQuery s keys) keys).entries =
        [("?q", .text "a&b=c+d%é ?"), ("mine", .flag true)] ∧
      (FilterStore.ofQuery (FilterStore.toQuery s keys) keys).sameEntries
        ((FilterStore.normalized s).filter fun j _ => j ∈ keys.map FilterKey.key) = false := by
  intro keys s
  have hkeys : (keys.map FilterKey.key).Nodup := by decide
  obtain ⟨hentries, hsame⟩ := ofQuery_toQuery s keys hkeys
  refine ⟨hkeys, hentries.trans (by decide), ?_⟩
  rw [← Bool.not_eq_true, hsame]
  intro h
  exact h (.ofBoolean "late" "Late") (by decide) (.text "on") (by decide) (by decide) rfl

end FilterStore

end Wayfinder
