import Wayfinder.Vocabulary.TermSet
import Mathlib.Tactic.Common

/-!
# Covering and missing terms

One set covers another if and only if it misses none of its terms (`covers_iff_missing_eq_nil`), and
it covers every set whose missing terms it is extended by (`covers_extend_missing`).
-/

namespace Wayfinder.TermSet

variable {α : Type} [DecidableEq α] [Term α] {s t : TermSet α} {a : α} {as : List α}

theorem nodup_toList (s : TermSet α) : s.toList.Nodup := by
  rw [s.canonical]
  exact Term.nodup_all.sublist List.filter_sublist

/-- The members of a set ascend in the order of declaration. -/
theorem pairwise_index (s : TermSet α) :
    s.toList.Pairwise fun a b => Term.index a < Term.index b := by
  have hall : (Term.all : List α).Pairwise fun a b => Term.index a < Term.index b := by
    rw [List.pairwise_iff_getElem]
    intro i j hi hj hij
    rwa [Term.index, Term.index, Term.nodup_all.idxOf_getElem i hi, Term.nodup_all.idxOf_getElem j hj]
  rw [s.canonical]
  exact hall.sublist List.filter_sublist

theorem eq_empty_of_isEmpty (h : s.isEmpty = true) : s = empty := by
  have hnil : s.toList = [] := List.isEmpty_iff.mp h
  refine ext_mem fun a => ?_
  rw [empty, mem_ofPred]
  show a ∈ s.toList ↔ _
  rw [hnil]
  simp

theorem mem_ofList : a ∈ ofList as ↔ a ∈ as := by
  rw [ofList, mem_ofPred, decide_eq_true_eq]

theorem ofList_toList (s : TermSet α) : ofList s.toList = s :=
  ext_mem fun _ => mem_ofList

theorem mem_extend : a ∈ s.extend as ↔ a ∈ as ∨ a ∈ s := by
  rw [extend, mem_ofPred, Bool.or_eq_true, decide_eq_true_eq, decide_eq_true_eq]

theorem mem_inter : a ∈ s.inter t ↔ a ∈ s ∧ a ∈ t := by
  rw [inter, mem_ofPred, Bool.and_eq_true, decide_eq_true_eq, decide_eq_true_eq]

theorem covers_iff : s.covers t = true ↔ ∀ a ∈ t, a ∈ s := by
  simp only [covers, List.all_eq_true, decide_eq_true_eq]
  rfl

theorem covers_of_subset {u : TermSet α} (h : ∀ a ∈ s, a ∈ u) (hcovers : s.covers t = true) :
    u.covers t = true :=
  covers_iff.mpr fun a ha => h a (covers_iff.mp hcovers a ha)

/-- Missing terms come in the order of the vocabulary. -/
theorem missing_eq_filter_all (s t : TermSet α) :
    s.missing t = Term.all.filter fun a => a ∈ t ∧ a ∉ s := by
  rw [missing, t.canonical, List.filter_filter]
  refine List.filter_congr fun a _ => ?_
  rw [← Bool.decide_and]
  exact decide_eq_decide.mpr and_comm

theorem mem_missing : a ∈ s.missing t ↔ a ∈ t ∧ a ∉ s := by
  rw [missing, List.mem_filter, decide_eq_true_eq]
  rfl

theorem covers_iff_missing_eq_nil : s.covers t = true ↔ s.missing t = [] := by
  rw [covers_iff, List.eq_nil_iff_forall_not_mem]
  simp only [mem_missing, not_and, not_not]

theorem covers_extend_missing (s t : TermSet α) : (s.extend (s.missing t)).covers t = true := by
  rw [covers_iff]
  intro a ha
  rw [mem_extend, mem_missing]
  by_cases hs : a ∈ s
  · exact Or.inr hs
  · exact Or.inl ⟨ha, hs⟩

end Wayfinder.TermSet
