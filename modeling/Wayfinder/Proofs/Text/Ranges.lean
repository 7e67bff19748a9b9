import Wayfinder.Text.Words
import Mathlib.Data.List.Chain

/-!
# Character classes by their ranges

A range list in ascending order has exactly the members of its ranges (`Ranges.has_iff`), so that facts
about classes can be read off the ranges: cased letters are alphanumeric
(`isAlphanumeric_of_isCased`), and lower case leaves every other character as it is
(`lowerAlone_of_not_alphanumeric`).
-/

namespace Wayfinder.Text

namespace Ranges

/-- Every range begins after the one before it. -/
def Ascending (rs : Ranges) : Prop :=
  rs.IsChain fun r s => r.1 < s.1

instance (rs : Ranges) : Decidable rs.Ascending :=
  inferInstanceAs (Decidable (List.IsChain _ _))

/-- Some range of the list contains all from `lo` to `hi`. -/
def Spans (rs : Ranges) (lo hi : Nat) : Prop :=
  ∃ r ∈ rs, r.1 ≤ lo ∧ hi ≤ r.2

/-- Every range lies within one of the other list, as one pass through both finds out. -/
def within : Ranges → Ranges → Bool
  | [], _ => true
  | r :: rs, ss =>
    match ss.dropWhile (·.2 < r.2) with
    | [] => false
    | s :: ss => s.1 ≤ r.1 && within rs (s :: ss)

theorem spans_of_within {rs ss : Ranges} (h : rs.within ss = true) : ∀ r ∈ rs, ss.Spans r.1 r.2 := by
  induction rs generalizing ss with
  | nil => simp
  | cons r rs ih =>
    rw [within] at h
    have hsub : ss.dropWhile (·.2 < r.2) ⊆ ss := (List.dropWhile_sublist _).subset
    cases hdrop : ss.dropWhile (·.2 < r.2) with
    | nil =>
      rw [hdrop] at h
      cases h
    | cons s ss' =>
      have hend := List.head_dropWhile_not (·.2 < r.2) (l := ss) (by rw [hdrop]; exact List.cons_ne_nil _ _)
      simp only [hdrop, Bool.and_eq_true, decide_eq_true_eq, List.head_cons, decide_eq_false_iff_not,
        Nat.not_lt] at h hend
      rw [hdrop] at hsub
      intro t ht
      rcases List.mem_cons.mp ht with rfl | ht
      · exact ⟨s, hsub List.mem_cons_self, h.1, hend⟩
      · obtain ⟨u, hu, hspan⟩ := ih h.2 t ht
        exact ⟨u, hsub hu, hspan⟩

theorem exists_of_has {rs : Ranges} {n : Nat} (h : rs.has n = true) :
    ∃ r ∈ rs, r.1 ≤ n ∧ n ≤ r.2 := by
  induction rs with
  | nil => cases h
  | cons r rs ih =>
    rw [has] at h
    split_ifs at h with hlt
    rw [Bool.or_eq_true, decide_eq_true_eq] at h
    rcases h with hle | hrest
    · exact ⟨r, List.mem_cons_self, by omega, hle⟩
    · obtain ⟨s, hs, hn⟩ := ih hrest
      exact ⟨s, List.mem_cons_of_mem _ hs, hn⟩

/-- Nothing is missed by not looking at ranges past the number. -/
theorem has_iff {rs : Ranges} (hrs : rs.Ascending) {n : Nat} :
    rs.has n = true ↔ ∃ r ∈ rs, r.1 ≤ n ∧ n ≤ r.2 := by
  have htrans : IsTrans (Nat × Nat) fun r s => r.1 < s.1 := ⟨fun _ _ _ h h' => Nat.lt_trans h h'⟩
  rw [Ascending, List.isChain_iff_pairwise] at hrs
  refine ⟨exists_of_has, ?_⟩
  induction rs with
  | nil => simp
  | cons r rs ih =>
    obtain ⟨hlater, hrs⟩ := List.pairwise_cons.mp hrs
    rintro ⟨s, hs, hlo, hhi⟩
    rcases List.mem_cons.mp hs with rfl | hs
    · rw [has, if_neg (by omega), decide_eq_true hhi, Bool.true_or]
    · have hfirst := hlater s hs
      rw [has, if_neg (by omega), ih hrs ⟨s, hs, hlo, hhi⟩, Bool.or_true]

theorem has_of_spans {rs : Ranges} (hrs : rs.Ascending) {lo hi n : Nat} (h : rs.Spans lo hi)
    (hlo : lo ≤ n) (hhi : n ≤ hi) : rs.has n = true := by
  obtain ⟨r, hr, hr1, hr2⟩ := h
  exact (has_iff hrs).mpr ⟨r, hr, by omega, by omega⟩

end Ranges

/-! ## Cased letters -/

theorem ascending_alphanumericRanges : alphanumericRanges.Ascending := by
  decide +kernel

theorem within_casedRanges : casedRanges.within alphanumericRanges = true := by
  decide +kernel

theorem isAlphanumeric_of_isCased {c : Char} (h : isCased c = true) : isAlphanumeric c = true := by
  obtain ⟨r, hr, hlo, hhi⟩ := Ranges.exists_of_has h
  exact Ranges.has_of_spans ascending_alphanumericRanges (Ranges.spans_of_within within_casedRanges r hr) hlo hhi

theorem not_isCased {c : Char} (h : isAlphanumeric c = false) : isCased c = false := by
  by_contra hcased
  rw [Bool.not_eq_false] at hcased
  rw [isAlphanumeric_of_isCased hcased] at h
  cases h

/-! ## Characters without a lower case -/

/-- The row applies to a number. -/
def CaseRow.Holds (r : CaseRow) (n : Nat) : Prop :=
  r.first ≤ n ∧ n ≤ r.last ∧ (n - r.first) % r.step = 0

theorem CaseRow.shift_eq_self {rows : List CaseRow} {n : Nat} (h : ∀ r ∈ rows, ¬ r.Holds n) :
    CaseRow.shift rows n = n := by
  induction rows with
  | nil => rfl
  | cons r rows ih =>
    have hr := h r List.mem_cons_self
    rw [CaseRow.shift]
    split_ifs with hlt hrow
    · rfl
    · rw [Bool.and_eq_true, decide_eq_true_eq, beq_iff_eq] at hrow
      exact absurd ⟨by omega, hrow.1, hrow.2⟩ hr
    · exact ih fun s hs => h s (List.mem_cons_of_mem _ hs)

/-- The numbers that a row applies to. -/
def CaseRow.ranges (r : CaseRow) : Ranges :=
  if r.step = 1 then [(r.first, r.last)]
  else (List.range ((r.last - r.first) / r.step + 1)).map fun i =>
    (r.first + r.step * i, r.first + r.step * i)

theorem CaseRow.spans_ranges {r : CaseRow} {n : Nat} (h : r.Holds n) : r.ranges.Spans n n := by
  obtain ⟨hlo, hhi, hstep⟩ := h
  unfold ranges
  split_ifs
  · exact ⟨_, List.mem_singleton_self _, hlo, hhi⟩
  · have hn : r.first + r.step * ((n - r.first) / r.step) = n := by
      rw [Nat.mul_div_cancel' (Nat.dvd_of_mod_eq_zero hstep), Nat.add_sub_cancel' hlo]
    have hdiv := Nat.div_le_div_right (c := r.step) (Nat.sub_le_sub_right hhi r.first)
    exact ⟨_, List.mem_map.mpr ⟨(n - r.first) / r.step, List.mem_range.mpr (by omega), rfl⟩,
      hn.le, hn.ge⟩

theorem within_lowerRows :
    Ranges.within (lowerRows.flatMap CaseRow.ranges) alphanumericRanges = true := by
  decide +kernel

theorem has_of_holds {r : CaseRow} (hr : r ∈ lowerRows) {n : Nat} (h : r.Holds n) :
    alphanumericRanges.has n = true := by
  obtain ⟨s, hs, hlo, hhi⟩ := CaseRow.spans_ranges h
  exact Ranges.has_of_spans ascending_alphanumericRanges
    (Ranges.spans_of_within within_lowerRows s (List.mem_flatMap.mpr ⟨r, hr, hs⟩)) hlo hhi

/-- A character that is no letter or digit is its own lower case. -/
theorem lowerAlone_of_not_alphanumeric {c : Char} (h : isAlphanumeric c = false) :
    lowerAlone c = [c] := by
  have hdot : c ≠ '\u0130' := by
    rintro rfl
    exact absurd h (by decide +kernel)
  have hshift : CaseRow.shift lowerRows c.toNat = c.toNat := by
    refine CaseRow.shift_eq_self fun r hr hc => ?_
    have hhas : isAlphanumeric c = true := has_of_holds hr hc
    rw [hhas] at h
    cases h
  rw [lowerAlone, if_neg hdot, lowerChar, hshift, Char.ofNat_toNat]

end Wayfinder.Text
