/-!
# Maps in insertion order

A map from texts to values whose entries stay in the order in which their keys were first
inserted: a second value for a key takes the place of the first, and removal keeps the rest in
order. `get?_insert`, `get?_erase` and `get?_filter` say what each operation does to look-up.
-/

namespace Wayfinder

/-- A list of key and value pairs without repeated keys. -/
structure OrderedMap (α : Type) where
  entries : List (String × α)
  nodup_keys : (entries.map Prod.fst).Nodup

namespace OrderedMap

variable {α : Type}

/-! ## Pairs in a list -/

/-- The value that the first pair with the key `k` carries. -/
def find? (k : String) : List (String × α) → Option α
  | [] => none
  | (k', v) :: es => if k' = k then some v else find? k es

/-- Puts `v` in the place of the value of `k`, or at the end if there is none. -/
def put (k : String) (v : α) : List (String × α) → List (String × α)
  | [] => [(k, v)]
  | (k', v') :: es => if k' = k then (k, v) :: es else (k', v') :: put k v es

theorem keys_put (k : String) (v : α) (es : List (String × α)) :
    (put k v es).map Prod.fst =
      if k ∈ es.map Prod.fst then es.map Prod.fst else es.map Prod.fst ++ [k] := by
  induction es with
  | nil => rfl
  | cons e es ih =>
    obtain ⟨k', v'⟩ := e
    by_cases h : k' = k
    · simp [put, h]
    · have h' : ¬ k = k' := fun e => h e.symm
      by_cases hk : k ∈ es.map Prod.fst <;> simp_all [put]

theorem nodup_put {k : String} {v : α} {es : List (String × α)}
    (h : (es.map Prod.fst).Nodup) : ((put k v es).map Prod.fst).Nodup := by
  rw [keys_put]
  split
  · exact h
  · next hk => exact List.nodup_append.mpr ⟨h, by simp, by
      intro a ha b hb
      simp only [List.mem_singleton] at hb
      exact fun e => hk (by rw [← hb, ← e]; exact ha)⟩

theorem find?_put (k j : String) (v : α) (es : List (String × α)) :
    find? j (put k v es) = if k = j then some v else find? j es := by
  induction es with
  | nil => simp [put, find?]
  | cons e es ih =>
    obtain ⟨k', v'⟩ := e
    by_cases h : k' = k <;> by_cases hj : k = j <;> simp_all [put, find?]

theorem find?_eq_none {k : String} {es : List (String × α)} :
    find? k es = none ↔ k ∉ es.map Prod.fst := by
  induction es with
  | nil => simp [find?]
  | cons e es ih =>
    obtain ⟨k', v'⟩ := e
    by_cases h : k' = k
    · simp [find?, h]
    · have h' : ¬ k = k' := fun e => h e.symm
      simp_all [find?]

theorem mem_of_find? {k : String} {v : α} {es : List (String × α)} (h : find? k es = some v) :
    (k, v) ∈ es := by
  induction es with
  | nil => simp [find?] at h
  | cons e es ih =>
    obtain ⟨k', v'⟩ := e
    by_cases hk : k' = k
    · simp_all [find?]
    · simp only [find?, hk, if_false] at h
      exact List.mem_cons_of_mem _ (ih h)

theorem find?_of_mem {k : String} {v : α} {es : List (String × α)}
    (hn : (es.map Prod.fst).Nodup) (h : (k, v) ∈ es) : find? k es = some v := by
  induction es with
  | nil => simp at h
  | cons e es ih =>
    obtain ⟨k', v'⟩ := e
    simp only [List.map_cons, List.nodup_cons] at hn
    rcases List.mem_cons.mp h with h | h
    · simp_all [find?]
    · have hk : ¬ k' = k := fun e => hn.1 (e ▸ List.mem_map_of_mem h)
      simp [find?, hk, ih hn.2 h]

theorem nodup_filter {p : String × α → Bool} {es : List (String × α)}
    (h : (es.map Prod.fst).Nodup) : ((es.filter p).map Prod.fst).Nodup :=
  h.sublist (List.filter_sublist.map _)

/-! ## The map -/

/-- The map without entries. -/
def empty : OrderedMap α := ⟨[], List.nodup_nil⟩

/-- The value of a key. -/
def get? (m : OrderedMap α) (k : String) : Option α := find? k m.entries

/-- The key has a value. -/
def contains (m : OrderedMap α) (k : String) : Bool := (m.get? k).isSome

/-- The keys in order. -/
def keys (m : OrderedMap α) : List String := m.entries.map Prod.fst

/-- How many entries there are. -/
def size (m : OrderedMap α) : Nat := m.entries.length

/-- No entries. -/
def isEmpty (m : OrderedMap α) : Bool := m.entries.isEmpty

/-- Gives `k` the value `v`. -/
def insert (m : OrderedMap α) (k : String) (v : α) : OrderedMap α :=
  ⟨put k v m.entries, nodup_put m.nodup_keys⟩

/-- Keeps the entries that pass a test. -/
def filter (m : OrderedMap α) (p : String → α → Bool) : OrderedMap α :=
  ⟨m.entries.filter fun e => p e.1 e.2, nodup_filter m.nodup_keys⟩

/-- Removes a key and its value. -/
def erase (m : OrderedMap α) (k : String) : OrderedMap α := m.filter fun j _ => j ≠ k

/-- Inserts pairs from first to last. -/
def insertAll (m : OrderedMap α) (es : List (String × α)) : OrderedMap α :=
  es.foldl (fun m e => m.insert e.1 e.2) m

/-- The map of a list of pairs: a repeated key keeps its first place and its last value. -/
def ofList (es : List (String × α)) : OrderedMap α := empty.insertAll es

/-- The entries in ascending order of their keys. -/
def sorted (m : OrderedMap α) : List (String × α) :=
  m.entries.mergeSort fun a b => !decide (b.1 < a.1)

/-- The same keys with the same values, in any order. -/
def sameEntries [DecidableEq α] (m n : OrderedMap α) : Bool :=
  m.size = n.size && m.entries.all fun e => n.get? e.1 = some e.2

instance : EmptyCollection (OrderedMap α) := ⟨empty⟩

instance [DecidableEq α] : DecidableEq (OrderedMap α) := fun m n =>
  decidable_of_iff (m.entries = n.entries) (by cases m; cases n; simp)

/-! ## Look-up -/

@[ext] theorem ext_entries {m n : OrderedMap α} (h : m.entries = n.entries) : m = n := by
  cases m; cases n; simp_all

theorem get?_insert (m : OrderedMap α) (k j : String) (v : α) :
    (m.insert k v).get? j = if k = j then some v else m.get? j :=
  find?_put k j v m.entries

theorem get?_eq_some {m : OrderedMap α} {k : String} {v : α} :
    m.get? k = some v ↔ (k, v) ∈ m.entries :=
  ⟨mem_of_find?, find?_of_mem m.nodup_keys⟩

theorem get?_eq_none {m : OrderedMap α} {k : String} : m.get? k = none ↔ k ∉ m.keys :=
  find?_eq_none

theorem get?_filter (m : OrderedMap α) (p : String → α → Bool) (k : String) :
    (m.filter p).get? k = (m.get? k).filter (p k) := by
  cases h : m.get? k with
  | none =>
    rw [Option.filter_none, get?_eq_none]
    rw [get?_eq_none] at h
    intro hk
    obtain ⟨e, he, rfl⟩ := List.mem_map.mp hk
    exact h (List.mem_map_of_mem (List.mem_filter.mp he).1)
  | some v =>
    rw [get?_eq_some] at h
    by_cases hp : p k v = true
    · rw [Option.filter_some, if_pos hp, get?_eq_some]
      exact List.mem_filter.mpr ⟨h, hp⟩
    · rw [Option.filter_some, if_neg hp, get?_eq_none]
      intro hk
      obtain ⟨⟨k', v'⟩, he, rfl⟩ := List.mem_map.mp hk
      obtain ⟨hm, hp'⟩ := List.mem_filter.mp he
      have e1 := find?_of_mem m.nodup_keys h
      have e2 := find?_of_mem m.nodup_keys hm
      rw [e1] at e2
      exact hp (Option.some.inj e2 ▸ hp')

theorem get?_erase (m : OrderedMap α) (k j : String) :
    (m.erase k).get? j = if j = k then none else m.get? j := by
  rw [erase, get?_filter]
  by_cases h : j = k <;> cases hm : m.get? j <;> simp [h, Option.filter]

end OrderedMap

end Wayfinder
