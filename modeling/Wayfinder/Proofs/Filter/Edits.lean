import Wayfinder.Filter.State
import Wayfinder.Proofs.Filter.Active

/-!
# Editing a filter bar

A filter bar is edited by setting or removing one value, by clearing it, and by filling in defaults.
`indistinguishable`: two bars over one schema with the same active values answer every sequence of
edits alike and keep the same active values, so they write the same query, count the same values
and keep the same search text. Which inactive values are stored, and in which order values were set,
never shows.

One edit respects `Alike` (`Alike.answer_eq`, `Alike.after`), and so do sequences. For what else is
stored after a sequence, `stored_run` traces each value to the start or to the edit that wrote it.
-/

namespace Wayfinder

/-- An edit of a filter bar. -/
inductive FilterEdit
  | set (key : String) (value : Option FilterValue)
  | clear
  | seed (defaults : OrderedMap FilterValue)

/-- The edit gives the key this value. -/
def FilterEdit.Writes : FilterEdit → String → FilterValue → Prop
  | .set key value, j, v => key = j ∧ value = some v
  | .clear, _, _ => False
  | .seed defaults, j, v => (j, v) ∈ defaults.entries

namespace FilterState

open FilterStore (SameActive normalized)

/-- The answer to an edit: why it is refused, or whether it filled in defaults. -/
def answer (s : FilterState) : FilterEdit → Except FilterError Bool
  | .set key value => (s.set key value).map fun _ => false
  | .clear => .ok false
  | .seed defaults => .ok (s.seeds defaults)

/-- The filter bar after an edit; a refused one changes nothing. -/
def after (s : FilterState) : FilterEdit → FilterState
  | .set key value =>
    match s.set key value with
    | .ok s' => s'
    | .error _ => s
  | .clear => s.clear
  | .seed defaults => s.seed defaults

/-- The filter bar after edits. -/
def run (s : FilterState) (edits : List FilterEdit) : FilterState :=
  edits.foldl after s

/-- The answers to edits made one after the other. -/
def answers (s : FilterState) : List FilterEdit → List (Except FilterError Bool)
  | [] => []
  | edit :: edits => s.answer edit :: (s.after edit).answers edits

/-! ## One edit -/

section one

variable (s : FilterState) (key : String) (value : Option FilterValue) (edit : FilterEdit)

theorem after_set :
    s.after (.set key value) =
      if s.schema.contains key then { s with values := FilterStore.set s.values key value }
      else s := by
  rw [after, set]
  split_ifs <;> rfl

theorem answer_set :
    s.answer (.set key value) =
      if s.schema.contains key then .ok false else .error (.unknownKey key) := by
  rw [answer, set]
  split_ifs <;> rfl

theorem schema_after : (s.after edit).schema = s.schema := by
  cases edit with
  | set key value =>
    rw [after_set]
    split_ifs <;> rfl
  | clear => rfl
  | seed defaults =>
    rw [after, seed]
    split_ifs <;> rfl

theorem schema_run (edits : List FilterEdit) : (s.run edits).schema = s.schema := by
  induction edits generalizing s with
  | nil => rfl
  | cons edit edits ih => exact (ih (s.after edit)).trans (s.schema_after edit)

end one

/-! ## Where stored values come from -/

section stored

variable {s : FilterState} {j : String} {v : FilterValue}

theorem stored_after {edit : FilterEdit} (h : (s.after edit).values.get? j = some v) :
    s.values.get? j = some v ∨ (s.schema.contains j = true ∧ edit.Writes j v) := by
  cases edit with
  | set key value =>
    rw [after_set] at h
    split_ifs at h with hkey
    · cases value with
      | some w =>
        rcases OrderedMap.get?_insert_eq_some_iff.mp h with ⟨rfl, rfl⟩ | ⟨hold, -⟩
        · exact Or.inr ⟨hkey, rfl, rfl⟩
        · exact Or.inl hold
      | none => exact Or.inl (OrderedMap.get?_erase_eq_some_iff.mp h).1
    · exact Or.inl h
  | clear => exact Or.inl (OrderedMap.get?_filter_eq_some_iff.mp h).1
  | seed defaults =>
    rw [after, seed] at h
    split_ifs at h with hcount
    · rcases OrderedMap.get?_insertAll h with hold | hdefault
      · exact Or.inl hold
      · obtain ⟨hmem, hdeclared⟩ := List.mem_filter.mp hdefault
        exact Or.inr ⟨hdeclared, hmem⟩
    · exact Or.inl h

/-- A stored value was there at the start, or an edit has written it under a declared key. -/
theorem stored_run {edits : List FilterEdit} (h : (s.run edits).values.get? j = some v) :
    s.values.get? j = some v ∨
      (s.schema.contains j = true ∧ ∃ edit ∈ edits, edit.Writes j v) := by
  induction edits generalizing s with
  | nil => exact Or.inl h
  | cons edit edits ih =>
    rcases ih h with hnext | ⟨hdeclared, edit', hmem, hwrites⟩
    · rcases stored_after hnext with hold | ⟨hdeclared, hwrites⟩
      · exact Or.inl hold
      · exact Or.inr ⟨hdeclared, edit, List.mem_cons_self, hwrites⟩
    · rw [schema_after] at hdeclared
      exact Or.inr ⟨hdeclared, edit', List.mem_cons_of_mem _ hmem, hwrites⟩

end stored

/-! ## Bars with the same active values -/

/-- The same schema and the same active values. -/
structure Alike (s t : FilterState) : Prop where
  schema_eq : s.schema = t.schema
  values : SameActive s.values t.values

namespace Alike

variable {s t : FilterState} (h : Alike s t)

include h

theorem clear_values_eq : s.clear.values = t.clear.values := by
  rw [clear, clear, h.schema_eq, h.values.clear_eq]

theorem answer_eq (edit : FilterEdit) : s.answer edit = t.answer edit := by
  cases edit with
  | set key value => rw [answer_set, answer_set, h.schema_eq]
  | clear => rfl
  | seed defaults =>
    rw [answer, answer, seeds, seeds, declaredDefaults, declaredDefaults, h.schema_eq,
      h.values.activeCount_eq]

theorem after (edit : FilterEdit) : Alike (s.after edit) (t.after edit) := by
  refine ⟨by rw [schema_after, schema_after, h.schema_eq], ?_⟩
  cases edit with
  | set key value =>
    rw [after_set, after_set, h.schema_eq]
    split_ifs
    · exact h.values.set key value
    · exact h.values
  | clear =>
    intro key
    exact congrArg (FilterStore.active? · key) h.clear_values_eq
  | seed defaults =>
    rw [FilterState.after, FilterState.after, seed, seed, declaredDefaults, declaredDefaults,
      h.schema_eq, h.values.activeCount_eq]
    split_ifs
    · exact h.values.insertAll _
    · exact h.values

theorem answers_eq (edits : List FilterEdit) : s.answers edits = t.answers edits := by
  induction edits generalizing s t with
  | nil => rfl
  | cons edit edits ih => rw [answers, answers, h.answer_eq, ih (h.after edit)]

theorem run (edits : List FilterEdit) : Alike (s.run edits) (t.run edits) := by
  induction edits generalizing s t with
  | nil => exact h
  | cons edit edits ih => exact ih (h.after edit)

end Alike

/-- **Absent, empty and off are the same**: bars with the same active values cannot be told apart,
whatever is done to both. -/
theorem indistinguishable (schema : FilterSchema) (u v : FilterStore)
    (h : (normalized u).sameEntries (normalized v) = true) (edits : List FilterEdit) :
    let s := (FilterState.mk schema u).run edits
    let t := (FilterState.mk schema v).run edits
    (FilterState.mk schema u).answers edits = (FilterState.mk schema v).answers edits ∧
      (normalized s.values).sameEntries (normalized t.values) = true ∧
      s.toQuery = t.toQuery ∧
      s.activeCount = t.activeCount ∧
      (∀ key, FilterStore.isActive s.values key = FilterStore.isActive t.values key) ∧
      s.clear.values = t.clear.values := by
  intro s t
  have hstart : Alike ⟨schema, u⟩ ⟨schema, v⟩ := ⟨rfl, FilterStore.sameActive_iff.mpr h⟩
  have hrun : Alike s t := hstart.run edits
  refine ⟨hstart.answers_eq edits, FilterStore.sameActive_iff.mp hrun.values, ?_,
    hrun.values.activeCount_eq, hrun.values.isActive_eq, hrun.clear_values_eq⟩
  rw [toQuery, toQuery, hrun.schema_eq, hrun.values.toQuery_eq]

/-- Leftovers of a toggle and of an owner do not show, whether defaults are filled in or not. -/
theorem indistinguishable_leftovers :
    let schema : FilterSchema :=
      ⟨[.ofSearch "q" "Search", .ofBoolean "mine" "Mine"], by decide, by decide, by decide, by decide⟩
    let u : FilterStore := .ofList [("mine", .flag false), ("q", .text "x")]
    let v : FilterStore := .ofList [("q", .text "x"), ("owner", .text "")]
    let mine : OrderedMap FilterValue := .ofList [("mine", .flag true)]
    let edits := [.set "owner" none, .seed mine, .set "q" (some (.text "")), .seed mine]
    u ≠ v ∧ (normalized u).sameEntries (normalized v) = true ∧
      (FilterState.mk schema u).answers edits = (FilterState.mk schema v).answers edits ∧
      ((FilterState.mk schema u).run edits).toQuery =
        ((FilterState.mk schema v).run edits).toQuery := by
  intro schema u v mine edits
  have hsame : (normalized u).sameEntries (normalized v) = true := by decide
  obtain ⟨hanswers, -, hquery, -⟩ := indistinguishable schema u v hsame edits
  exact ⟨by decide, hsame, hanswers, hquery⟩

end FilterState

end Wayfinder
