import Wayfinder.Text.Words
import Wayfinder.Proofs.Text.Lower
import Mathlib.Data.List.Infix

/-!
# The words of a part of a text

Words do not run across a separator, so a text that is put together from parts with separators between
them has the words of its parts (`words_lower_append_append`). A part that keeps its capital sigmas keeps
its words, and then its normal form is a part of the text's (`infix_normalizeChars`).
-/

namespace Wayfinder.Text

variable {cs ds front back : List Char}

/-! ## Splitting into words -/

theorem words_nil : words [] = [] := by
  rw [words, List.splitOnP_nil]
  rfl

theorem words_append_cons {c : Char} (hc : isAlphanumeric c = false) (cs ds : List Char) :
    words (cs ++ c :: ds) = words cs ++ words ds := by
  have hsep : (!isAlphanumeric c) = true := by rw [hc]; rfl
  rw [words, List.splitOnP_append_cons cs ds hsep, List.filter_append]
  rfl

theorem words_cons {c : Char} (hc : isAlphanumeric c = false) (ds : List Char) :
    words (c :: ds) = words ds := by
  have hwords := words_append_cons hc [] ds
  rwa [List.nil_append, words_nil, List.nil_append] at hwords

theorem words_append_of_endsApart (h : EndsApart cs) : words (cs ++ ds) = words cs ++ words ds := by
  rcases List.eq_nil_or_concat cs with rfl | ⟨cs, c, rfl⟩
  · rw [words_nil, List.nil_append, List.nil_append]
  · have hc : isAlphanumeric c = false := h c (by simp)
    rw [List.concat_eq_append, List.append_assoc, List.singleton_append, words_append_cons hc,
      words_append_cons hc, words_nil, List.append_nil]

theorem words_append_of_beginsApart (h : BeginsApart ds) : words (cs ++ ds) = words cs ++ words ds := by
  cases ds with
  | nil => rw [words_nil, List.append_nil, List.append_nil]
  | cons d ds =>
    have hd : isAlphanumeric d = false := h d rfl
    rw [words_append_cons hd, words_cons hd]

/-! ## Joining words -/

theorem intercalate_prefix_append (sep : List Char) (l m : List (List Char)) :
    sep.intercalate l <+: sep.intercalate (l ++ m) := by
  induction l with
  | nil => exact List.nil_prefix
  | cons w l ih =>
    cases l with
    | nil =>
      cases m with
      | nil => exact List.prefix_rfl
      | cons x m =>
        rw [List.intercalate_singleton, List.singleton_append, List.intercalate_cons_cons,
          List.append_assoc]
        exact List.prefix_append _ _
    | cons v l =>
      rw [List.cons_append, List.cons_append, List.intercalate_cons_cons, List.intercalate_cons_cons]
      exact (List.prefix_append_right_inj _).mpr ih

theorem intercalate_suffix_append (sep : List Char) (l m : List (List Char)) :
    sep.intercalate m <:+ sep.intercalate (l ++ m) := by
  induction l with
  | nil => exact List.suffix_rfl
  | cons w l ih =>
    cases hrest : l ++ m with
    | nil =>
      rw [(List.append_eq_nil_iff.mp hrest).2]
      exact List.nil_suffix
    | cons v rest =>
      rw [List.cons_append, hrest, List.intercalate_cons_cons]
      rw [hrest] at ih
      exact ih.trans (List.suffix_append _ _)

theorem intercalate_infix (sep : List Char) (l m r : List (List Char)) :
    sep.intercalate m <:+: sep.intercalate (l ++ m ++ r) :=
  (intercalate_suffix_append sep l m).isInfix.trans (intercalate_prefix_append sep (l ++ m) r).isInfix

/-! ## Parts between separators -/

/-- A part between separators has its words, as the text lowers them, to itself. -/
theorem words_lower_append_append (hfront : EndsApart front) (hback : BeginsApart back) :
    words (lower (front ++ cs ++ back)) =
      words (lowerBetween [] (cs ++ back) front) ++ words (lowerBetween front back cs) ++
        words (lowerBetween (front ++ cs) [] back) := by
  rw [lower_append_append, words_append_of_beginsApart (beginsApart_lowerBetween hback),
    words_append_of_endsApart (endsApart_lowerBetween hfront)]

/-- The normal form of a part that keeps its capital sigmas occurs in that of the text. -/
theorem infix_normalizeChars (hfront : EndsApart front) (hback : BeginsApart back)
    (hsigma : KeepsSigmas front cs back) :
    normalizeChars cs <:+: normalizeChars (front ++ cs ++ back) := by
  rw [normalizeChars, normalizeChars, words_lower_append_append hfront hback,
    lowerBetween_eq_lower_iff.mpr hsigma]
  exact intercalate_infix _ _ _ _

end Wayfinder.Text
