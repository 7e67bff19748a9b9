import Wayfinder.Text.Basic
import Mathlib.Data.List.Sort
import Mathlib.Data.String.Basic

/-!
# Ascending lists of texts

`ascending` lists the members of a list, strictly ascending (`mem_ascending`, `pairwise_ascending`).
`distinct` lists them in the order in which they first occur (`mem_distinct`, `pairwise_distinct`), and
comes about by going through the list and adding what is not there yet (`foldl_addNew`).
-/

namespace Wayfinder.Text

theorem mem_insertAscending {s t : String} {ts : List String} :
    t ∈ insertAscending s ts ↔ t = s ∨ t ∈ ts := by
  induction ts with
  | nil => simp [insertAscending]
  | cons u ts ih =>
    unfold insertAscending
    split_ifs with hlt heq
    · exact List.mem_cons
    · subst heq
      simp
    · rw [List.mem_cons, ih, List.mem_cons]
      exact or_left_comm

theorem pairwise_insertAscending (s : String) {ts : List String} (h : ts.Pairwise (· < ·)) :
    (insertAscending s ts).Pairwise (· < ·) := by
  induction ts with
  | nil => exact List.pairwise_singleton _ _
  | cons u ts ih =>
    obtain ⟨hu, hts⟩ := List.pairwise_cons.mp h
    unfold insertAscending
    split_ifs with hlt heq
    · refine List.pairwise_cons.mpr ⟨fun t ht => ?_, h⟩
      rcases List.mem_cons.mp ht with rfl | ht
      · exact hlt
      · exact hlt.trans (hu t ht)
    · exact h
    · refine List.pairwise_cons.mpr ⟨fun t ht => ?_, ih hts⟩
      rcases mem_insertAscending.mp ht with rfl | ht
      · exact lt_of_le_of_ne (not_lt.mp hlt) fun he => heq he.symm
      · exact hu t ht

theorem mem_ascending {t : String} {ss : List String} : t ∈ ascending ss ↔ t ∈ ss := by
  induction ss with
  | nil => exact Iff.rfl
  | cons s ss ih =>
    show t ∈ insertAscending s (ascending ss) ↔ _
    rw [mem_insertAscending, ih, List.mem_cons]

theorem pairwise_ascending (ss : List String) : (ascending ss).Pairwise (· < ·) := by
  induction ss with
  | nil => exact List.Pairwise.nil
  | cons s ss ih => exact pairwise_insertAscending s ih

/-! ## The order of first occurrence -/

/-- The one text first occurs in the list before the other. -/
def OccursBefore (ss : List String) (s t : String) : Prop :=
  ss.idxOf s < ss.idxOf t

instance (ss : List String) (s t : String) : Decidable (OccursBefore ss s t) :=
  inferInstanceAs (Decidable (_ < _))

theorem occursBefore_cons {s t u : String} {ss : List String} (ht : t ≠ s) (hu : u ≠ s) :
    OccursBefore (s :: ss) t u ↔ OccursBefore ss t u := by
  unfold OccursBefore
  rw [List.idxOf_cons_ne ss (Ne.symm ht), List.idxOf_cons_ne ss (Ne.symm hu)]
  omega

theorem occursBefore_head {s t : String} {ss : List String} (ht : t ≠ s) :
    OccursBefore (s :: ss) s t := by
  unfold OccursBefore
  rw [List.idxOf_cons_self, List.idxOf_cons_ne ss (Ne.symm ht)]
  omega

/-- Texts in the order of first occurrence are determined by their members. -/
theorem eq_of_pairwise_occursBefore {ss l m : List String} (hl : l.Pairwise (OccursBefore ss))
    (hm : m.Pairwise (OccursBefore ss)) (hmem : ∀ s, s ∈ l ↔ s ∈ m) : l = m := by
  have hirrefl : Std.Irrefl (OccursBefore ss) := ⟨fun s h => Nat.lt_irrefl _ h⟩
  have hantisymm : Std.Antisymm (OccursBefore ss) := by
    constructor
    intro s t hst hts
    exact absurd hst (Nat.lt_asymm hts)
  exact hl.eq_of_mem_iff hm hmem

theorem mem_distinct {t : String} {ss : List String} : t ∈ distinct ss ↔ t ∈ ss := by
  induction ss with
  | nil => exact Iff.rfl
  | cons s ss ih =>
    rw [distinct, List.mem_cons, List.mem_filter, ih, List.mem_cons, decide_eq_true_eq]
    by_cases hs : t = s <;> simp [hs]

theorem pairwise_distinct (ss : List String) : (distinct ss).Pairwise (OccursBefore ss) := by
  induction ss with
  | nil => exact List.Pairwise.nil
  | cons s ss ih =>
    have hne : ∀ t ∈ (distinct ss).filter (· ≠ s), t ≠ s := by
      intro t ht
      simpa using (List.mem_filter.mp ht).2
    refine List.pairwise_cons.mpr ⟨fun t ht => occursBefore_head (hne t ht), ?_⟩
    refine (ih.sublist List.filter_sublist).imp_of_mem fun {t u} ht hu htu => ?_
    exact (occursBefore_cons (hne t ht) (hne u hu)).mpr htu

/-- Leaving texts out before or after makes no difference. -/
theorem distinct_filter (p : String → Bool) (ss : List String) :
    distinct (ss.filter p) = (distinct ss).filter p := by
  induction ss with
  | nil => rfl
  | cons s ss ih =>
    rw [distinct, List.filter_cons]
    split_ifs with hs
    · rw [distinct, ih, List.filter_cons_of_pos hs, List.filter_comm]
    · rw [ih, List.filter_cons_of_neg hs, List.filter_filter]
      refine List.filter_congr fun t _ => ?_
      -- what is left out differs from the text that is not there
      by_cases ht : t = s
      · subst ht
        simp [hs]
      · simp [ht]

theorem nodup_distinct (ss : List String) : (distinct ss).Nodup := by
  refine (pairwise_distinct ss).imp ?_
  intro s t h he
  subst he
  exact Nat.lt_irrefl _ h

/-! ### One text after the other -/

/-- Puts a text at the end unless it is there. -/
def addNew (ss : List String) (s : String) : List String :=
  if s ∈ ss then ss else ss ++ [s]

theorem distinct_concat (ss : List String) (s : String) :
    distinct (ss ++ [s]) = addNew (distinct ss) s := by
  induction ss with
  | nil => simp [distinct, addNew]
  | cons u ss ih =>
    rw [List.cons_append, distinct, distinct, ih]
    unfold addNew
    by_cases hu : s = u
    · subst hu
      by_cases hs : s ∈ distinct ss <;> simp [hs]
    · by_cases hs : s ∈ distinct ss <;> simp [hs, hu]

theorem foldl_addNew (ss more : List String) :
    more.foldl addNew (distinct ss) = distinct (ss ++ more) := by
  induction more generalizing ss with
  | nil => rw [List.append_nil, List.foldl_nil]
  | cons s more ih => rw [List.foldl_cons, ← distinct_concat, ih, List.append_assoc,
      List.singleton_append]

end Wayfinder.Text
