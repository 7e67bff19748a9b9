import Wayfinder.Vocabulary.Term

/-!
# Sets of terms

A set of terms is kept as the sublist of its vocabulary that it selects, so that its members come
in the order of declaration and two sets with the same members are equal (`TermSet.ext_mem`).
-/

namespace Wayfinder

/-- A set of terms of one vocabulary, listed in the order of declaration. -/
structure TermSet (α : Type) [DecidableEq α] [Term α] where
  toList : List α
  canonical : toList = Term.all.filter (· ∈ toList)

namespace TermSet

variable {α : Type} [DecidableEq α] [Term α]

instance : Membership α (TermSet α) := ⟨fun s a => a ∈ s.toList⟩

instance (a : α) (s : TermSet α) : Decidable (a ∈ s) :=
  inferInstanceAs (Decidable (a ∈ s.toList))

instance : DecidableEq (TermSet α) := fun s t =>
  decidable_of_iff (s.toList = t.toList) (by cases s; cases t; simp)

/-- The terms that a test accepts. -/
def ofPred (p : α → Bool) : TermSet α where
  toList := Term.all.filter p
  canonical := List.filter_congr fun a _ => by simp [List.mem_filter, Term.mem_all]

theorem mem_ofPred {p : α → Bool} {a : α} : a ∈ ofPred p ↔ p a = true := by
  show a ∈ Term.all.filter p ↔ _
  simp [Term.mem_all]

/-- Sets with the same members are equal. -/
theorem ext_mem {s t : TermSet α} (h : ∀ a, a ∈ s ↔ a ∈ t) : s = t := by
  obtain ⟨s, hs⟩ := s
  obtain ⟨t, ht⟩ := t
  have key : s = t := by
    rw [hs, ht]
    exact List.filter_congr fun a _ => decide_eq_decide.mpr (h a)
  subst key
  rfl

/-! ## Construction -/

/-- The set without members. -/
def empty : TermSet α := ofPred fun _ => false

/-- The set of all terms. -/
def full : TermSet α := ofPred fun _ => true

/-- The members of a list. -/
def ofList (as : List α) : TermSet α := ofPred (· ∈ as)

/-- Adds a term. -/
def insert (s : TermSet α) (a : α) : TermSet α := ofPred fun b => b = a || b ∈ s

/-- Adds the members of a list. -/
def extend (s : TermSet α) (as : List α) : TermSet α := ofPred fun b => b ∈ as || b ∈ s

/-! ## Comparison -/

/-- How many members there are. -/
def size (s : TermSet α) : Nat := s.toList.length

/-- No members. -/
def isEmpty (s : TermSet α) : Bool := s.toList.isEmpty

/-- Every member of `t` is one of `s`. -/
def covers (s t : TermSet α) : Bool := t.toList.all (· ∈ s)

/-- The members of `wanted` that `s` lacks. -/
def missing (s wanted : TermSet α) : List α := wanted.toList.filter (· ∉ s)

/-- The members that the two sets share. -/
def inter (s t : TermSet α) : TermSet α := ofPred fun a => a ∈ s && a ∈ t

end TermSet

end Wayfinder
