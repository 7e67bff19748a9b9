import Wayfinder.Preset.Basic
import Wayfinder.Vocabulary.TermSet

/-!
# Filter keys and schemas

A screen declares the keys of its filter bar. In a schema no key is blank or declared twice, an
enumeration has options, and at most one key is the search box. `FilterSchema.ofKeys` is the only
way to make one; it reports the first fault in the order of declaration.
-/

namespace Wayfinder

/-! ## Keys -/

/-- The input and the type of value that a filter key has. -/
inductive FilterKind
  | choice | string | boolean | date | search
deriving DecidableEq, Repr

namespace FilterKind

/-- The spelling of a kind. -/
def name : FilterKind → String
  | choice => "enum"
  | string => "string"
  | boolean => "boolean"
  | date => "date"
  | search => "search"

instance : Term FilterKind where
  all := [choice, string, boolean, date, search]
  kind := "filter kind"
  name := name
  mem_all a := by cases a <;> decide
  nodup_all := by decide
  name_injective a b := by cases a <;> cases b <;> decide

end FilterKind

/-- One choice of an enumeration. -/
structure FilterOption where
  value : String
  label : String
deriving DecidableEq, Repr

/-- A key of a filter bar. -/
structure FilterKey where
  key : String
  label : String
  kind : FilterKind
  /-- The choices of an enumeration. -/
  options : List FilterOption := []
  placeholder : Option String := none
  /-- Presets under which the key is not shown. -/
  hiddenIn : TermSet Preset := .empty
deriving DecidableEq

namespace FilterKey

/-- The key is the search box. -/
def isSearch (k : FilterKey) : Bool := k.kind = .search

theorem isSearch_iff {k : FilterKey} : k.isSearch = true ↔ k.kind = .search :=
  decide_eq_true_iff

/-- The key is shown under a preset. -/
def isVisibleIn (k : FilterKey) (p : Preset) : Bool := p ∉ k.hiddenIn

/-- A search box. -/
def ofSearch (key label : String) : FilterKey := ⟨key, label, .search, [], none, .empty⟩

/-- A toggle. -/
def ofBoolean (key label : String) : FilterKey := ⟨key, label, .boolean, [], none, .empty⟩

/-- An enumeration. -/
def ofChoice (key label : String) (options : List FilterOption) : FilterKey :=
  ⟨key, label, .choice, options, none, .empty⟩

end FilterKey

/-! ## Keys to show -/

/-- The keys of a filter bar under one preset. -/
structure VisibleKeys where
  /-- The search box. -/
  search : Option FilterKey
  /-- All other keys. -/
  others : List FilterKey

namespace VisibleKeys

/-- How many keys there are. -/
def size (v : VisibleKeys) : Nat := v.others.length + if v.search.isSome then 1 else 0

/-- No keys. -/
def isEmpty (v : VisibleKeys) : Bool := v.size = 0

/-- Takes the first search box out of a list of keys. -/
def split : List FilterKey → VisibleKeys
  | [] => ⟨none, []⟩
  | k :: ks =>
    if k.isSearch then ⟨some k, ks⟩ else ⟨(split ks).search, k :: (split ks).others⟩

/-- The keys that are shown under a preset. -/
def ofKeys (ks : List FilterKey) (p : Preset) : VisibleKeys :=
  split (ks.filter (·.isVisibleIn p))

end VisibleKeys

/-! ## Faults -/

/-- Why keys make no schema, or a key cannot be set. -/
inductive FilterError
  | emptyKey
  | duplicateKey (key : String)
  | multipleSearchKeys (first second : String)
  | missingOptions (key : String)
  | unknownKey (key : String)
deriving DecidableEq, Repr

/-- The wording of a fault. -/
def FilterError.message : FilterError → String
  | emptyKey => "filter key cannot be empty"
  | duplicateKey k => s!"duplicate filter key: {k}"
  | multipleSearchKeys a b => s!"schema declares more than one search key: {a}, {b}"
  | missingOptions k => s!"enum filter key '{k}' declares no options"
  | unknownKey k => s!"unknown filter key: {k}"

/-- The fault of a key that comes after the keys `seen`, of which `search` is the search box. -/
def FilterKey.fault? (k : FilterKey) (seen : List String) (search : Option String) :
    Option FilterError :=
  if Text.isBlankText k.key then some .emptyKey
  else if k.key ∈ seen then some (.duplicateKey k.key)
  else if k.kind = .choice ∧ k.options = [] then some (.missingOptions k.key)
  else if k.isSearch then search.map fun first => .multipleSearchKeys first k.key
  else none

/-- The first fault among keys that come after the keys `seen`. -/
def firstKeyFault? (seen : List String) (search : Option String) :
    List FilterKey → Option FilterError
  | [] => none
  | k :: ks =>
    (k.fault? seen search).or
      (firstKeyFault? (k.key :: seen) (if k.isSearch then some k.key else search) ks)

theorem FilterKey.fault?_eq_none {k : FilterKey} {seen : List String} {search : Option String}
    (h : k.fault? seen search = none) :
    Text.isBlankText k.key = false ∧ k.key ∉ seen ∧ (k.kind = .choice → k.options ≠ []) ∧
      (k.isSearch = true → search = none) := by
  unfold FilterKey.fault? at h
  split at h
  · simp at h
  · next hb =>
    split at h
    · simp at h
    · next hs =>
      split at h
      · simp at h
      · next ho =>
        refine ⟨by simpa using hb, hs, fun hc he => ho ⟨hc, he⟩, fun hk => ?_⟩
        rw [if_pos hk] at h
        simpa using h

theorem firstKeyFault?_eq_none {seen : List String} {search : Option String}
    {ks : List FilterKey} (h : firstKeyFault? seen search ks = none) :
    (∀ k ∈ ks, Text.isBlankText k.key = false) ∧ (ks.map FilterKey.key).Nodup ∧
      (∀ k ∈ ks, k.kind = .choice → k.options ≠ []) ∧
      (ks.filter FilterKey.isSearch).length + (if search.isSome then 1 else 0) ≤ 1 ∧
      ∀ k ∈ ks, k.key ∉ seen := by
  induction ks generalizing seen search with
  | nil => cases search <;> simp
  | cons k ks ih =>
    rw [firstKeyFault?, Option.or_eq_none_iff] at h
    obtain ⟨hb, hs, ho, hk⟩ := FilterKey.fault?_eq_none h.1
    obtain ⟨ihb, ihn, iho, ihl, ihs⟩ := ih h.2
    refine ⟨List.forall_mem_cons.mpr ⟨hb, ihb⟩, ?_, List.forall_mem_cons.mpr ⟨ho, iho⟩, ?_, ?_⟩
    · refine List.nodup_cons.mpr ⟨fun hm => ?_, ihn⟩
      obtain ⟨m, hm, e⟩ := List.mem_map.mp hm
      exact ihs m hm (by simp [e])
    · by_cases hse : k.isSearch = true
      · simp_all
      · simp_all
    · intro m hm
      rcases List.mem_cons.mp hm with rfl | hm
      · exact hs
      · exact fun h => ihs m hm (List.mem_cons_of_mem _ h)

/-! ## Schemas -/

/-- Checked filter keys in the order of declaration. -/
structure FilterSchema where
  keys : List FilterKey
  key_not_blank : ∀ k ∈ keys, Text.isBlankText k.key = false
  nodup_keys : (keys.map FilterKey.key).Nodup
  choice_has_options : ∀ k ∈ keys, k.kind = .choice → k.options ≠ []
  one_search : (keys.filter FilterKey.isSearch).length ≤ 1

namespace FilterSchema

/-- The schema of keys without a fault. -/
def ofKeys (ks : List FilterKey) : Except FilterError FilterSchema :=
  match h : firstKeyFault? [] none ks with
  | some e => .error e
  | none =>
    have ok := firstKeyFault?_eq_none h
    .ok ⟨ks, ok.1, ok.2.1, ok.2.2.1, by simpa using ok.2.2.2.1⟩

/-- The declaration of a key. -/
def get? (s : FilterSchema) (key : String) : Option FilterKey :=
  s.keys.find? (·.key = key)

/-- The key is declared. -/
def contains (s : FilterSchema) (key : String) : Bool :=
  (s.get? key).isSome

/-- The search box. -/
def searchKey? (s : FilterSchema) : Option FilterKey :=
  s.keys.find? FilterKey.isSearch

/-- The keys that are shown under a preset. -/
def visible (s : FilterSchema) (p : Preset) : VisibleKeys :=
  .ofKeys s.keys p

/-- How many keys there are. -/
def size (s : FilterSchema) : Nat := s.keys.length

/-- No keys. -/
def isEmpty (s : FilterSchema) : Bool := s.keys.isEmpty

end FilterSchema

end Wayfinder
