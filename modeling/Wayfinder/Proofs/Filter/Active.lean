import Wayfinder.Filter.Query
import Wayfinder.Proofs.OrderedMap

/-!
# Active values

What counts of a store is the active value of each key (`active?`): an absent value, an empty text
and a toggle that is off leave none. Stores with the same active values (`SameActive`) have the same
number of them and write the same query; removal of all but the search text leaves the very same
entries in both, and the same writes keep them alike.
-/

namespace Wayfinder

namespace FilterStore

/-- The active value of a key. -/
def active? (s : FilterStore) (key : String) : Option FilterValue :=
  (s.get? key).filter FilterValue.isActive

section active

variable (s : FilterStore) (key : String)

theorem get?_normalized : (normalized s).get? key = active? s key :=
  OrderedMap.get?_filter s _ key

theorem isActive_eq_isSome : isActive s key = (active? s key).isSome := by
  rw [isActive, active?]
  cases s.get? key with
  | none => rfl
  | some v => cases hv : v.isActive <;> simp [Option.filter, hv]

theorem isActive_iff_mem_normalized : isActive s key = true ↔ key ∈ (normalized s).keys := by
  rw [isActive_eq_isSome, ← get?_normalized, ← OrderedMap.contains, OrderedMap.contains_iff]

theorem activeCount_eq_length : activeCount s = (normalized s).entries.length :=
  List.countP_eq_length_filter

theorem activeCount_eq_zero_iff : activeCount s = 0 ↔ ∀ key, isActive s key = false := by
  rw [activeCount_eq_length, List.length_eq_zero_iff]
  simp only [← Bool.not_eq_true, isActive_iff_mem_normalized]
  constructor
  · intro h key hkey
    rw [OrderedMap.keys, h] at hkey
    cases hkey
  · intro h
    exact List.eq_nil_iff_forall_not_mem.mpr fun e he => h e.1 (List.mem_map_of_mem he)

theorem active?_insert (v : FilterValue) (j : String) :
    active? (s.insert key v) j =
      if key = j then (some v).filter FilterValue.isActive else active? s j := by
  rw [active?, OrderedMap.get?_insert]
  split_ifs <;> rfl

theorem active?_set (value : Option FilterValue) (j : String) :
    active? (set s key value) j =
      if key = j then value.filter FilterValue.isActive else active? s j := by
  cases value with
  | some v => exact active?_insert s key v j
  | none =>
    have hgone : (set s key none).get? j = if j = key then none else s.get? j :=
      OrderedMap.get?_erase s key j
    rw [active?, hgone]
    by_cases hj : key = j
    · rw [if_pos hj.symm, if_pos hj]
    · rw [if_neg (fun h => hj h.symm), if_neg hj, active?]

/-- Nothing is left but the active value of the search key. -/
theorem entries_clear (searchKey : Option String) :
    (clear s searchKey).entries =
      (searchKey.bind fun key => (active? s key).map (key, ·)).toList := by
  cases searchKey with
  | none => exact List.filter_eq_nil_iff.mpr fun e _ => by simp
  | some key =>
    rw [Option.bind_some, active?, ← OrderedMap.entries_filter_key]
    exact List.filter_congr fun e _ => by simp only [Option.some.injEq]

end active

/-! ## Stores with the same active values -/

/-- Every key has the same active value in both stores, or none in either. -/
def SameActive (s t : FilterStore) : Prop :=
  ∀ key, active? s key = active? t key

theorem sameActive_iff {s t : FilterStore} :
    SameActive s t ↔ (normalized s).sameEntries (normalized t) = true := by
  simp only [OrderedMap.sameEntries_iff, get?_normalized, SameActive]

theorem sameActive_normalized (s : FilterStore) : SameActive (normalized s) s := by
  intro key
  rw [active?, get?_normalized, active?, Option.filter_filter]
  simp only [Bool.and_self]

namespace SameActive

variable {s t : FilterStore} (h : SameActive s t)

include h

theorem set (key : String) (value : Option FilterValue) :
    SameActive (FilterStore.set s key value) (FilterStore.set t key value) := by
  intro j
  rw [active?_set, active?_set, h]

theorem insertAll (es : List (String × FilterValue)) :
    SameActive (s.insertAll es) (t.insertAll es) := by
  induction es generalizing s t with
  | nil => exact h
  | cons e es ih =>
    refine ih fun j => ?_
    rw [active?_insert, active?_insert, h]

theorem clear_eq (searchKey : Option String) :
    FilterStore.clear s searchKey = FilterStore.clear t searchKey := by
  apply OrderedMap.ext_entries
  simp only [entries_clear, h _]

theorem isActive_eq (key : String) : FilterStore.isActive s key = FilterStore.isActive t key := by
  rw [isActive_eq_isSome, isActive_eq_isSome, h]

theorem activeCount_eq : FilterStore.activeCount s = FilterStore.activeCount t := by
  have hperm : (normalized s).entries.Perm (normalized t).entries :=
    OrderedMap.entries_perm fun k => by rw [get?_normalized, get?_normalized, h]
  rw [activeCount_eq_length, activeCount_eq_length, hperm.length_eq]

theorem toQuery_eq (keys : List FilterKey) :
    FilterStore.toQuery s keys = FilterStore.toQuery t keys := by
  have hpair : ∀ k : FilterKey, k.queryPair? s = k.queryPair? t := fun k =>
    congrArg (Option.map fun v : FilterValue => (k.key, v.queryText)) (h k.key)
  rw [FilterStore.toQuery, FilterStore.toQuery]
  simp only [hpair]

end SameActive

end FilterStore

end Wayfinder
