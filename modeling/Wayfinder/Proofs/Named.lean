import Mathlib.Data.List.Nodup

/-!
# Items with distinct names

In a list without repeated names, the item found by a name is the item that has it
(`find?_name_eq_some_iff`), and no other item of the list has that name
(`filter_name_eq_singleton_iff`).
-/

namespace Wayfinder

section named

variable {α : Type} {name : α → String} {xs : List α} {key : String} {x : α}

theorem find?_name_eq_none_iff : xs.find? (name · = key) = none ↔ ∀ x ∈ xs, name x ≠ key := by
  rw [List.find?_eq_none]
  simp only [decide_eq_true_eq, ne_eq]

variable (hxs : (xs.map name).Nodup)

include hxs

theorem find?_name_eq_some_iff : xs.find? (name · = key) = some x ↔ x ∈ xs ∧ name x = key := by
  constructor
  · intro h
    exact ⟨List.mem_of_find?_eq_some h, by simpa using List.find?_some h⟩
  · rintro ⟨hx, rfl⟩
    cases hfind : xs.find? (name · = name x) with
    | none => exact absurd rfl (find?_name_eq_none_iff.mp hfind x hx)
    | some y =>
      have hname : name y = name x := by simpa using List.find?_some hfind
      rw [List.inj_on_of_nodup_map hxs (List.mem_of_find?_eq_some hfind) hx hname]

theorem filter_name_eq_singleton_iff : xs.filter (name · = key) = [x] ↔ x ∈ xs ∧ name x = key := by
  constructor
  · intro h
    have hx : x ∈ xs.filter (name · = key) := by
      rw [h]
      exact List.mem_cons_self
    simpa using hx
  · rintro ⟨hx, rfl⟩
    obtain ⟨before, after, rfl⟩ := List.append_of_mem hx
    rw [List.map_append, List.map_cons, List.nodup_append, List.nodup_cons] at hxs
    obtain ⟨-, ⟨hafter, -⟩, hbefore⟩ := hxs
    have hfront : before.filter (name · = name x) = [] := by
      refine List.filter_eq_nil_iff.mpr fun y hy he => ?_
      exact hbefore _ (List.mem_map_of_mem hy) _ List.mem_cons_self (of_decide_eq_true he)
    have hback : after.filter (name · = name x) = [] := by
      refine List.filter_eq_nil_iff.mpr fun y hy he => hafter ?_
      rw [← of_decide_eq_true he]
      exact List.mem_map_of_mem hy
    rw [List.filter_append, List.filter_cons_of_pos (by simp), hfront, hback, List.nil_append]

end named

end Wayfinder
