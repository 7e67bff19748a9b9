/-!
# What has held since

Of a list of events, something holds that one of them began and no later one ended (`Since`).
Whether it holds after two lists of events, the second decides alone unless it only keeps it
(`since_append`).
-/

namespace Wayfinder

variable {α : Type} {begins keeps : α → Prop} {xs ys : List α} {x : α}

/-- Some item of the list begins it, and every later one keeps it. -/
def Since (begins keeps : α → Prop) (xs : List α) : Prop :=
  ∃ before x later, xs = before ++ x :: later ∧ begins x ∧ ∀ y ∈ later, keeps y

theorem Since.exists_mem (h : Since begins keeps xs) : ∃ x ∈ xs, begins x := by
  obtain ⟨before, x, later, rfl, hx, -⟩ := h
  exact ⟨x, List.mem_append_right _ List.mem_cons_self, hx⟩

theorem not_since_nil : ¬ Since begins keeps [] := by
  intro h
  obtain ⟨x, hx, -⟩ := h.exists_mem
  cases hx

theorem since_append :
    Since begins keeps (xs ++ ys) ↔
      Since begins keeps ys ∨ Since begins keeps xs ∧ ∀ y ∈ ys, keeps y := by
  constructor
  · rintro ⟨before, x, later, happend, hx, hlater⟩
    rcases List.append_eq_append_iff.mp happend with ⟨middle, -, hys⟩ | ⟨middle, hxs, hrest⟩
    · exact Or.inl ⟨middle, x, later, hys, hx, hlater⟩
    · cases middle with
      | nil => exact Or.inl ⟨[], x, later, hrest.symm, hx, hlater⟩
      | cons z middle =>
        obtain ⟨rfl, rfl⟩ := List.cons.inj hrest
        obtain ⟨hmiddle, hys⟩ := List.forall_mem_append.mp hlater
        exact Or.inr ⟨⟨before, x, middle, hxs, hx, hmiddle⟩, hys⟩
  · rintro (⟨before, x, later, rfl, hx, hlater⟩ | ⟨⟨before, x, later, rfl, hx, hlater⟩, hys⟩)
    · exact ⟨xs ++ before, x, later, (List.append_assoc _ _ _).symm, hx, hlater⟩
    · exact ⟨before, x, later ++ ys, List.append_assoc _ _ _, hx,
        List.forall_mem_append.mpr ⟨hlater, hys⟩⟩

theorem since_concat :
    Since begins keeps (xs ++ [x]) ↔ begins x ∨ Since begins keeps xs ∧ keeps x := by
  have hone : Since begins keeps [x] ↔ begins x := by
    constructor
    · intro h
      obtain ⟨y, hy, hbegins⟩ := h.exists_mem
      rwa [← List.mem_singleton.mp hy]
    · intro h
      exact ⟨[], x, [], rfl, h, List.forall_mem_nil _⟩
  rw [since_append, hone, List.forall_mem_singleton]

end Wayfinder
