import Mathlib.Data.List.Induction
import Wayfinder.Proofs.Filter.Active
import Wayfinder.Proofs.Since

/-!
# What edits leave in a store

A store holds what its edits left: of each key the value that was written last, if nothing has
removed it since, and the keys in the order in which they came in. A key comes in with the first
write to it after its last removal (`EnteredAt`); a later write keeps its place. Main result
`FilterStore.insertion_order`, for the edits since the store was empty.

That a store follows its edits (`Follows`) is the invariant. One edit changes the values of a key as
it says (`get?_after`), and the keys are then some of those before, or one more at the end
(`keys_after`); so one edit keeps the invariant (`Follows.after`), and all edits do (`Follows.run`).
-/

namespace Wayfinder

/-- An edit of a store. -/
inductive StoreEdit
  | set (key : String) (value : Option FilterValue)
  | insert (key : String) (value : FilterValue)
  | clear (searchKey : Option String)
  | normalize

namespace StoreEdit

/-- The edit gives the key this value. -/
def Writes : StoreEdit → String → FilterValue → Prop
  | .set key value, k, v => key = k ∧ value = some v
  | .insert key value, k, v => key = k ∧ value = v
  | .clear _, _, _ => False
  | .normalize, _, _ => False

/-- The edit removes the key when it has this value. -/
def Removes : StoreEdit → String → FilterValue → Prop
  | .set key value, k, _ => key = k ∧ value = none
  | .insert _ _, _, _ => False
  | .clear searchKey, k, v => searchKey = some k → v.isActive = false
  | .normalize, _, v => v.isActive = false

/-- The edit neither writes to the key nor removes it when it has this value. -/
def Leaves (e : StoreEdit) (k : String) (v : FilterValue) : Prop :=
  (∀ w, ¬ e.Writes k w) ∧ ¬ e.Removes k v

section leaves

variable {key k : String} {value : Option FilterValue} {v w : FilterValue}
  {searchKey : Option String}

theorem leaves_set : (set key value).Leaves k v ↔ key ≠ k := by
  cases value <;> simp [Leaves, Writes, Removes]

theorem leaves_insert : (insert key w).Leaves k v ↔ key ≠ k := by
  simp [Leaves, Writes, Removes]

theorem leaves_clear :
    (clear searchKey).Leaves k v ↔ searchKey = some k ∧ v.isActive = true := by
  simp [Leaves, Writes, Removes]

theorem leaves_normalize : normalize.Leaves k v ↔ v.isActive = true := by
  simp [Leaves, Writes, Removes]

end leaves

end StoreEdit

namespace FilterStore

/-- The store after an edit. -/
def after (s : FilterStore) : StoreEdit → FilterStore
  | .set key value => set s key value
  | .insert key value => s.insert key value
  | .clear searchKey => clear s searchKey
  | .normalize => normalized s

/-- The store after edits. -/
def run (s : FilterStore) (edits : List StoreEdit) : FilterStore :=
  edits.foldl after s

/-! ## What edits say -/

/-- Some edit gave the key this value, and every later one has left it. -/
def Holds (history : List StoreEdit) (k : String) (v : FilterValue) : Prop :=
  Since (·.Writes k v) (·.Leaves k v) history

/-- Some value of the key is left. -/
def Has (history : List StoreEdit) (k : String) : Prop :=
  ∃ v, Holds history k v

/-- Edit `i` wrote to the key when it had no value, and the key has had one since. -/
structure EnteredAt (history : List StoreEdit) (k : String) (i : Nat) : Prop where
  written : ∃ e v, history[i]? = some e ∧ e.Writes k v
  absent : ¬ Has (history.take i) k
  present : ∀ j, i < j → j ≤ history.length → Has (history.take j) k

variable {history : List StoreEdit} {e : StoreEdit} {s : FilterStore} {k : String} {v : FilterValue}
  {i j : Nat}

theorem holds_concat :
    Holds (history ++ [e]) k v ↔ e.Writes k v ∨ Holds history k v ∧ e.Leaves k v :=
  since_concat

theorem EnteredAt.lt_length (h : EnteredAt history k i) : i < history.length := by
  obtain ⟨e, v, he, -⟩ := h.written
  exact (List.getElem?_eq_some_iff.mp he).1

theorem EnteredAt.has (h : EnteredAt history k i) : Has history k := by
  have hlast := h.present history.length h.lt_length (Nat.le_refl _)
  rwa [List.take_length] at hlast

/-- A key that has a value came in once. -/
theorem EnteredAt.unique (hi : EnteredAt history k i) (hj : EnteredAt history k j) : i = j := by
  rcases Nat.lt_trichotomy i j with hlt | heq | hgt
  · exact absurd (hi.present j hlt (Nat.le_of_lt hj.lt_length)) hj.absent
  · exact heq
  · exact absurd (hj.present i hgt (Nat.le_of_lt hi.lt_length)) hi.absent

/-- What came in stays so as long as its key has a value. -/
theorem EnteredAt.concat (h : EnteredAt history k i) (hhas : Has (history ++ [e]) k) :
    EnteredAt (history ++ [e]) k i := by
  have hi := h.lt_length
  obtain ⟨edit, v, hedit, hwrites⟩ := h.written
  refine ⟨⟨edit, v, ?_, hwrites⟩, ?_, fun j hij hj => ?_⟩
  · rwa [List.getElem?_append_left hi]
  · rw [List.take_append_of_le_length (Nat.le_of_lt hi)]
    exact h.absent
  · rw [List.length_append, List.length_singleton] at hj
    rcases Nat.le_or_eq_of_le_succ hj with hj | rfl
    · rw [List.take_append_of_le_length hj]
      exact h.present j hij hj
    · have hall : (history ++ [e]).length ≤ history.length.succ := Nat.le_of_eq List.length_append
      rwa [List.take_of_length_le hall]

/-- The last edit brings in the key that it writes to, if that has no value. -/
theorem enteredAt_length (habsent : ¬ Has history k) (hwrites : e.Writes k v) :
    EnteredAt (history ++ [e]) k history.length := by
  refine ⟨⟨e, v, List.getElem?_concat_length, hwrites⟩, ?_, fun j hlt hj => ?_⟩
  · rwa [List.take_left]
  · rw [List.take_of_length_le (by rw [List.length_append]; exact hlt)]
    exact ⟨v, holds_concat.mpr (Or.inl hwrites)⟩

/-- A key came in before the last edit, or had no value then. -/
theorem EnteredAt.of_concat (h : EnteredAt (history ++ [e]) k i) :
    EnteredAt history k i ∨ i = history.length ∧ ¬ Has history k := by
  have hlt := h.lt_length
  rw [List.length_append, List.length_singleton] at hlt
  have habsent := h.absent
  rcases Nat.lt_succ_iff_lt_or_eq.mp hlt with hi | rfl
  · obtain ⟨edit, v, hedit, hwrites⟩ := h.written
    rw [List.getElem?_append_left hi] at hedit
    rw [List.take_append_of_le_length (Nat.le_of_lt hi)] at habsent
    refine Or.inl ⟨⟨edit, v, hedit, hwrites⟩, habsent, fun j hij hj => ?_⟩
    rw [← List.take_append_of_le_length hj]
    exact h.present j hij (by rw [List.length_append]; omega)
  · rw [List.take_left] at habsent
    exact Or.inr ⟨rfl, habsent⟩

/-- A key has a value if and only if it came in. -/
theorem has_iff_exists_enteredAt : Has history k ↔ ∃ i, EnteredAt history k i := by
  refine ⟨?_, fun ⟨i, hi⟩ => hi.has⟩
  induction history using List.reverseRecOn with
  | nil => exact fun ⟨v, hv⟩ => absurd hv not_since_nil
  | append_singleton history e ih =>
    intro hhas
    by_cases hbefore : Has history k
    · obtain ⟨i, hi⟩ := ih hbefore
      exact ⟨i, hi.concat hhas⟩
    · obtain ⟨v, hv⟩ := hhas
      rcases holds_concat.mp hv with hwrites | ⟨hold, -⟩
      · exact ⟨history.length, enteredAt_length hbefore hwrites⟩
      · exact absurd ⟨v, hold⟩ hbefore

/-! ## One edit -/

/-- After an edit a key has the value that it wrote, or the one it has left. -/
theorem get?_after :
    (after s e).get? k = some v ↔ e.Writes k v ∨ s.get? k = some v ∧ e.Leaves k v := by
  cases e with
  | set key value =>
    rw [StoreEdit.leaves_set]
    cases value with
    | some w => exact OrderedMap.get?_insert_eq_some_iff.trans (by simp [StoreEdit.Writes])
    | none => exact OrderedMap.get?_erase_eq_some_iff.trans (by simp [StoreEdit.Writes])
  | insert key w =>
    rw [StoreEdit.leaves_insert]
    exact OrderedMap.get?_insert_eq_some_iff
  | clear searchKey =>
    rw [StoreEdit.leaves_clear]
    exact OrderedMap.get?_filter_eq_some_iff.trans (by simp [StoreEdit.Writes])
  | normalize =>
    rw [StoreEdit.leaves_normalize]
    exact OrderedMap.get?_filter_eq_some_iff.trans (by simp [StoreEdit.Writes])

/-- An edit keeps some of the keys in order, or all of them with one more at the end. -/
theorem keys_after :
    (after s e).keys.Sublist s.keys ∨ ∃ k, k ∉ s.keys ∧ (after s e).keys = s.keys ++ [k] := by
  have hinsert : ∀ key v,
      (s.insert key v).keys.Sublist s.keys ∨
        ∃ k, k ∉ s.keys ∧ (s.insert key v).keys = s.keys ++ [k] := by
    intro key v
    rw [OrderedMap.keys_insert]
    split_ifs with hkey
    · exact Or.inl (List.Sublist.refl _)
    · exact Or.inr ⟨key, hkey, rfl⟩
  cases e with
  | set key value =>
    cases value with
    | some v => exact hinsert key v
    | none => exact Or.inl (s.keys_filter_sublist _)
  | insert key v => exact hinsert key v
  | clear searchKey => exact Or.inl (s.keys_filter_sublist _)
  | normalize => exact Or.inl (s.keys_filter_sublist _)

/-! ## Stores and their edits -/

/-- The store has the values that the edits left, in the order in which their keys came in. -/
structure Follows (s : FilterStore) (history : List StoreEdit) : Prop where
  get?_eq_some_iff : ∀ k v, s.get? k = some v ↔ Holds history k v
  ordered : s.keys.Pairwise fun a b =>
    ∀ i j, EnteredAt history a i → EnteredAt history b j → i < j

theorem follows_empty : Follows {} [] where
  get?_eq_some_iff _ _ := iff_of_false (by rintro ⟨⟩) not_since_nil
  ordered := List.Pairwise.nil

namespace Follows

theorem mem_keys_iff (h : Follows s history) : k ∈ s.keys ↔ Has history k := by
  rw [OrderedMap.mem_keys_iff]
  exact exists_congr fun v => h.get?_eq_some_iff k v

theorem after (h : Follows s history) (e : StoreEdit) :
    Follows (FilterStore.after s e) (history ++ [e]) where
  get?_eq_some_iff k v := by rw [get?_after, holds_concat, h.get?_eq_some_iff]
  ordered := by
    -- a key that was there came in before
    have hbefore : ∀ {k i}, k ∈ s.keys → EnteredAt (history ++ [e]) k i → EnteredAt history k i := by
      intro k i hk hi
      rcases hi.of_concat with hi | ⟨-, habsent⟩
      · exact hi
      · exact absurd (h.mem_keys_iff.mp hk) habsent
    have hordered : s.keys.Pairwise fun a b =>
        ∀ i j, EnteredAt (history ++ [e]) a i → EnteredAt (history ++ [e]) b j → i < j :=
      h.ordered.imp_of_mem fun ha hb hab i j hi hj => hab i j (hbefore ha hi) (hbefore hb hj)
    rcases keys_after with hsub | ⟨key, hkey, hkeys⟩
    · exact hordered.sublist hsub
    · rw [hkeys, List.pairwise_append]
      refine ⟨hordered, List.pairwise_singleton _ _, fun a ha b hb i j hi hj => ?_⟩
      rw [List.mem_singleton.mp hb] at hj
      rcases hj.of_concat with hj | ⟨rfl, -⟩
      · exact absurd (h.mem_keys_iff.mpr hj.has) hkey
      · exact (hbefore ha hi).lt_length

theorem run (h : Follows s history) (edits : List StoreEdit) :
    Follows (FilterStore.run s edits) (history ++ edits) := by
  induction edits generalizing s history with
  | nil => rwa [List.append_nil]
  | cons edit edits ih =>
    rw [List.append_cons]
    exact ih (h.after edit)

end Follows

theorem follows_ofList (pairs : List (String × FilterValue)) :
    Follows (.ofList pairs) (pairs.map fun e => .insert e.1 e.2) := by
  have hrun := follows_empty.run (pairs.map fun e => .insert e.1 e.2)
  rwa [run, List.foldl_map] at hrun

/-! ## Clearing -/

theorem normalized_normalized (s : FilterStore) : normalized (normalized s) = normalized s :=
  OrderedMap.filter_filter_self s _

theorem clear_clear (s : FilterStore) (searchKey : Option String) :
    clear (clear s searchKey) searchKey = clear s searchKey :=
  OrderedMap.filter_filter_self s _

theorem size_clear_le (s : FilterStore) (searchKey : Option String) :
    (clear s searchKey).size ≤ 1 := by
  rw [OrderedMap.size, entries_clear]
  cases searchKey.bind fun key => (active? s key).map (key, ·) with
  | none => exact Nat.zero_le 1
  | some e => exact Nat.le_refl 1

/-- **A store is a map in insertion order**: after edits of a store that was made of pairs, a key
has the value that was written last if nothing has removed it since, and the keys stand in the order
in which they came in. -/
theorem insertion_order (pairs : List (String × FilterValue)) (edits : List StoreEdit) :
    let s := run (.ofList pairs) edits
    let history := pairs.map (fun e => StoreEdit.insert e.1 e.2) ++ edits
    s.keys.Nodup ∧
      (∀ k v, s.get? k = some v ↔ Holds history k v) ∧
      (∀ k, (k ∈ s.keys ↔ ∃ i, EnteredAt history k i) ∧
        ∀ i j, EnteredAt history k i → EnteredAt history k j → i = j) ∧
      (s.keys.Pairwise fun a b => ∀ i j, EnteredAt history a i → EnteredAt history b j → i < j) ∧
      (∀ k ∈ s.keys, ∀ v, (set s k (some v)).keys = s.keys) ∧
      (∀ k, (set s k none).keys = s.keys.filter (· ≠ k)) ∧
      normalized (normalized s) = normalized s ∧
      (normalized s).size = activeCount s ∧
      ∀ searchKey, clear (clear s searchKey) searchKey = clear s searchKey ∧
        (clear s searchKey).size ≤ 1 ∧
        ∀ k v, (clear s searchKey).get? k = some v ↔
          searchKey = some k ∧ s.get? k = some v ∧ v.isActive = true := by
  intro s history
  have hfollows : Follows s history := (follows_ofList pairs).run edits
  refine ⟨s.nodup_keys, hfollows.get?_eq_some_iff, fun k => ⟨?_, fun i j => EnteredAt.unique⟩,
    hfollows.ordered, fun k hk v => ?_, s.keys_erase, normalized_normalized s,
    (activeCount_eq_length s).symm, fun searchKey => ⟨clear_clear s searchKey,
      size_clear_le s searchKey, fun k v => ?_⟩⟩
  · rw [hfollows.mem_keys_iff, has_iff_exists_enteredAt]
  · exact (s.keys_insert k v).trans (if_pos hk)
  · refine OrderedMap.get?_filter_eq_some_iff.trans ?_
    rw [Bool.and_eq_true, decide_eq_true_eq]
    exact and_left_comm

/-- A second value keeps the place of the first; a value after a removal goes to the end. -/
example :
    (run (.ofList [("q", .text "x"), ("mine", .flag true), ("owner", .text "")])
        [.set "q" (some (.text "y")), .set "mine" none, .normalize, .set "owner" (some (.text "me")),
          .insert "mine" (.flag false)]).entries =
      [("q", .text "y"), ("owner", .text "me"), ("mine", .flag false)] := by
  decide

end FilterStore

end Wayfinder
