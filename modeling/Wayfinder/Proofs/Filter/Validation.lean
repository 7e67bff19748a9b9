import Wayfinder.Filter.Schema
import Wayfinder.Proofs.FirstFault
import Wayfinder.Proofs.Named
import Wayfinder.Proofs.Text.Blank

/-!
# Which filter keys make a schema

Filter keys make a schema if and only if they are `Acceptable` (`exists_ofKeys_eq_ok_iff`); otherwise
the error is the fault (`FilterKey.Fault`) of the first key that has one after acceptable keys
(`firstKeyFault?_nil_eq_some_iff`).

One pass carries the names it has seen and the search box among them. What these say of the keys
before is the invariant `Tracks`: it makes what a key is checked against a matter of the keys
before it (`FilterKey.fault?_eq_some_iff`), and a key without a fault keeps it (`Tracks.concat`).
-/

namespace Wayfinder

/-! ## Rules -/

/-- No key is blank or declared twice, every enumeration has options, and at most one key is the
search box. -/
structure FilterSchema.Acceptable (ks : List FilterKey) : Prop where
  key_not_blank : ∀ k ∈ ks, Text.trim k.key ≠ ""
  nodup_keys : (ks.map FilterKey.key).Nodup
  choice_has_options : ∀ k ∈ ks, k.kind = .choice → k.options ≠ []
  one_search : (ks.filter FilterKey.isSearch).length ≤ 1

/-- What is wrong with a key after the keys `before`: a blank key before all else, then a key that
is declared already, then an enumeration without options, then a second search box. -/
inductive FilterKey.Fault (k : FilterKey) (before : List FilterKey) : FilterError → Prop
  | blank (hkey : Text.trim k.key = "") : k.Fault before .emptyKey
  | duplicate (hkey : Text.trim k.key ≠ "") (hold : k.key ∈ before.map FilterKey.key) :
      k.Fault before (.duplicateKey k.key)
  | noOptions (hkey : Text.trim k.key ≠ "") (hnew : k.key ∉ before.map FilterKey.key)
      (hkind : k.kind = .choice) (hoptions : k.options = []) :
      k.Fault before (.missingOptions k.key)
  | secondSearch {first : FilterKey} (hkey : Text.trim k.key ≠ "")
      (hnew : k.key ∉ before.map FilterKey.key) (hkind : k.kind = .search)
      (hfirst : first ∈ before) (hfirstKind : first.kind = .search) :
      k.Fault before (.multipleSearchKeys first.key k.key)

/-! ## What the pass carries -/

/-- The names of the keys that were passed, and the name of the search box among them. -/
structure FilterSchema.Tracks (before : List FilterKey) (s : List String × Option String) : Prop where
  mem_seen : ∀ key, key ∈ s.1 ↔ key ∈ before.map FilterKey.key
  search_iff : ∀ key, s.2 = some key ↔ ∃ k ∈ before, k.kind = .search ∧ k.key = key

variable {k : FilterKey} {ks before : List FilterKey} {s : List String × Option String}
  {e : FilterError}

theorem FilterSchema.tracks_nil : Tracks [] ([], none) := by
  constructor <;> simp

theorem FilterKey.fault?_eq_some_iff (h : FilterSchema.Tracks before s) :
    k.fault? s.1 s.2 = some e ↔ k.Fault before e := by
  unfold FilterKey.fault?
  simp only [← Text.trim_eq_empty_iff, FilterKey.isSearch_iff, h.mem_seen]
  constructor
  · intro hfault
    split_ifs at hfault with hkey hold hchoice hsearch
    · cases hfault
      exact .blank hkey
    · cases hfault
      exact .duplicate hkey hold
    · cases hfault
      exact .noOptions hkey hold hchoice.1 hchoice.2
    · obtain ⟨key, hfirst, rfl⟩ := Option.map_eq_some_iff.mp hfault
      obtain ⟨first, hmem, hkind, rfl⟩ := (h.search_iff key).mp hfirst
      exact .secondSearch hkey hold hsearch hmem hkind
  · intro hfault
    cases hfault with
    | blank hkey => rw [if_pos hkey]
    | duplicate hkey hold => rw [if_neg hkey, if_pos hold]
    | noOptions hkey hnew hkind hoptions =>
      rw [if_neg hkey, if_neg hnew, if_pos ⟨hkind, hoptions⟩]
    | @secondSearch first hkey hnew hkind hfirst hfirstKind =>
      have hchoice : ¬ (k.kind = .choice ∧ k.options = []) := by
        rw [hkind]
        rintro ⟨hkind, -⟩
        cases hkind
      have hsearch : s.2 = some first.key :=
        (h.search_iff first.key).mpr ⟨first, hfirst, hfirstKind, rfl⟩
      rw [if_neg hkey, if_neg hnew, if_neg hchoice, if_pos hkind, hsearch]
      rfl

/-- A key without a fault is passed. -/
theorem FilterSchema.Tracks.concat (h : Tracks before s) (hk : k.fault? s.1 s.2 = none) :
    Tracks (before ++ [k]) (k.key :: s.1, if k.isSearch then some k.key else s.2) where
  mem_seen key := by
    rw [List.mem_cons, h.mem_seen, List.map_append, List.mem_append, or_comm]
    simp
  search_iff key := by
    obtain ⟨-, -, -, hfirst⟩ := FilterKey.fault?_eq_none hk
    split_ifs with hsearch
    · -- the box is the first one, so no key before it is one
      have hnone : ∀ j ∈ before, j.kind ≠ .search := by
        intro j hj hkind
        have hsome := (h.search_iff j.key).mpr ⟨j, hj, hkind, rfl⟩
        rw [hfirst hsearch] at hsome
        cases hsome
      rw [FilterKey.isSearch_iff] at hsearch
      constructor
      · intro hkey
        exact ⟨k, by simp, hsearch, Option.some.inj hkey⟩
      · rintro ⟨j, hj, hkind, rfl⟩
        rcases List.mem_append.mp hj with hj | hj
        · exact absurd hkind (hnone j hj)
        · rw [List.mem_singleton.mp hj]
    · rw [FilterKey.isSearch_iff] at hsearch
      rw [h.search_iff]
      constructor
      · rintro ⟨j, hj, hkind⟩
        exact ⟨j, List.mem_append_left _ hj, hkind⟩
      · rintro ⟨j, hj, hkind, hkey⟩
        rcases List.mem_append.mp hj with hj | hj
        · exact ⟨j, hj, hkind, hkey⟩
        · rw [List.mem_singleton.mp hj] at hkind
          exact absurd hkind hsearch

/-! ## The first fault among keys -/

theorem faultScan_filterKeys :
    FaultScan (fun s => firstKeyFault? s.1 s.2) (fun s k => k.fault? s.1 s.2)
      (fun s k => (k.key :: s.1, if k.isSearch then some k.key else s.2)) FilterSchema.Tracks
      (fun before k => k.Fault before) where
  nil _ := rfl
  cons _ _ _ := rfl
  fault?_eq_some_iff := FilterKey.fault?_eq_some_iff
  concat := FilterSchema.Tracks.concat

namespace FilterSchema

theorem acceptable_of_firstKeyFault?_eq_none (h : firstKeyFault? [] none ks = none) :
    Acceptable ks := by
  obtain ⟨hkeys, hnodup, hoptions, hsearch, -⟩ := firstKeyFault?_eq_none h
  refine ⟨fun k hk hblank => ?_, hnodup, hoptions, by simpa using hsearch⟩
  rw [Text.trim_eq_empty_iff, hkeys k hk] at hblank
  cases hblank

theorem not_acceptable_of_fault {front back : List FilterKey} (h : k.Fault front e) :
    ¬ Acceptable (front ++ k :: back) := by
  intro hok
  have hk : k ∈ front ++ k :: back := List.mem_append_right _ List.mem_cons_self
  cases h with
  | blank hkey => exact hok.key_not_blank k hk hkey
  | duplicate hkey hold =>
    have hnodup := hok.nodup_keys
    rw [List.map_append, List.map_cons, List.nodup_append] at hnodup
    exact hnodup.2.2 _ hold _ List.mem_cons_self rfl
  | noOptions hkey hnew hkind hoptions => exact hok.choice_has_options k hk hkind hoptions
  | secondSearch hkey hnew hkind hfirst hfirstKind =>
    have hone := hok.one_search
    have hbefore := List.mem_filter.mpr ⟨hfirst, FilterKey.isSearch_iff.mpr hfirstKind⟩
    have hpos := List.length_pos_of_mem hbefore
    rw [List.filter_append, List.filter_cons_of_pos (FilterKey.isSearch_iff.mpr hkind),
      List.length_append, List.length_cons] at hone
    omega

theorem firstKeyFault?_nil_eq_some_iff :
    firstKeyFault? [] none ks = some e ↔
      ∃ front k back, ks = front ++ k :: back ∧ Acceptable front ∧ k.Fault front e :=
  faultScan_filterKeys.eq_some_iff_acceptable tracks_nil acceptable_of_firstKeyFault?_eq_none
    not_acceptable_of_fault

theorem firstKeyFault?_nil_eq_none_iff : firstKeyFault? [] none ks = none ↔ Acceptable ks :=
  faultScan_filterKeys.eq_none_iff tracks_nil acceptable_of_firstKeyFault?_eq_none
    not_acceptable_of_fault

/-! ## The schema -/

theorem ofKeys_eq_ok_iff {s : FilterSchema} :
    ofKeys ks = .ok s ↔ firstKeyFault? [] none ks = none ∧ s.keys = ks := by
  unfold ofKeys
  split
  case h_1 e he => simp [he]
  case h_2 he =>
    rw [and_iff_right he, Except.ok.injEq, FilterSchema.mk.injEq]
    exact eq_comm

theorem ofKeys_eq_error_iff : ofKeys ks = .error e ↔ firstKeyFault? [] none ks = some e := by
  unfold ofKeys
  split
  case h_1 e' he => rw [he, Except.error.injEq, Option.some.injEq]
  case h_2 he => simp [he]

theorem exists_ofKeys_eq_ok_iff : (∃ s, ofKeys ks = .ok s) ↔ Acceptable ks := by
  rw [← firstKeyFault?_nil_eq_none_iff]
  constructor
  · rintro ⟨s, hs⟩
    exact (ofKeys_eq_ok_iff.mp hs).1
  · intro h
    cases hks : ofKeys ks with
    | ok s => exact ⟨s, rfl⟩
    | error e =>
      rw [ofKeys_eq_error_iff, h] at hks
      cases hks

/-- The keys of a schema make that schema. -/
theorem ofKeys_keys (s : FilterSchema) : ofKeys s.keys = .ok s := by
  refine ofKeys_eq_ok_iff.mpr ⟨firstKeyFault?_nil_eq_none_iff.mpr ?_, rfl⟩
  refine ⟨fun k hk hblank => ?_, s.nodup_keys, s.choice_has_options, s.one_search⟩
  rw [Text.trim_eq_empty_iff, s.key_not_blank k hk] at hblank
  cases hblank

theorem get?_eq_some_iff {s : FilterSchema} {key : String} :
    s.get? key = some k ↔ k ∈ s.keys ∧ k.key = key :=
  find?_name_eq_some_iff s.nodup_keys

end FilterSchema

end Wayfinder
