import Wayfinder.Proofs.Text.Lowered
import Wayfinder.Proofs.Text.Words

/-!
# Normal forms of texts

A text is in normal form if it consists of words in lower case with single spaces between them
(`IsNormal`). These are the texts that stay as they are (`isNormal_iff`), and every text has a normal
form that is one of them (`isNormal_normalizeChars`), so that taking the normal form twice is taking it
once. Lower case and words do not undo each other: a text in lower case stays in it whichever of its
characters are left out, and a word holds no separator.
-/

namespace Wayfinder.Text

/-- Letters and digits, at least one. -/
def IsWord (w : List Char) : Prop :=
  w ≠ [] ∧ ∀ c ∈ w, isAlphanumeric c = true

/-- Words in lower case, a single space between two of them. -/
structure IsNormal (cs : List Char) : Prop where
  spaced : ∃ ws, (∀ w ∈ ws, IsWord w) ∧ cs = [' '].intercalate ws
  lowered : ∀ c ∈ cs, lowerAlone c = [c]

variable {cs w : List Char} {ws : List (List Char)}

theorem space_not_alphanumeric : isAlphanumeric ' ' = false := by
  decide +kernel

theorem IsWord.space_not_mem (h : IsWord w) : ' ' ∉ w := by
  intro hspace
  have hletter := h.2 ' ' hspace
  rw [space_not_alphanumeric] at hletter
  cases hletter

/-! ## The words of a text -/

theorem flatten_splitOnP {α : Type} (p : α → Bool) (l : List α) :
    (l.splitOnP p).flatten = l.filter (!p ·) := by
  induction l with
  | nil => rfl
  | cons a l ih =>
    rw [List.splitOnP_cons_eq_if_modifyHead]
    cases hp : p a with
    | true => simp [hp, ih]
    | false =>
      obtain ⟨part, parts, hparts⟩ := List.exists_cons_of_ne_nil (List.splitOnP_ne_nil p l)
      rw [hparts, List.flatten_cons] at ih
      simp [hp, hparts, ih]

/-- The words of a text hold its letters and digits, in order. -/
theorem flatten_words (cs : List Char) : (words cs).flatten = cs.filter isAlphanumeric := by
  rw [words, List.flatten_filter_not_isEmpty, flatten_splitOnP]
  simp only [Bool.not_not]

theorem mem_of_mem_words (h : w ∈ words cs) {c : Char} (hc : c ∈ w) :
    c ∈ cs ∧ isAlphanumeric c = true := by
  have hmem : c ∈ (words cs).flatten := List.mem_flatten.mpr ⟨w, h, hc⟩
  rw [flatten_words] at hmem
  exact List.mem_filter.mp hmem

theorem isWord_of_mem_words (h : w ∈ words cs) : IsWord w := by
  refine ⟨?_, fun c hc => (mem_of_mem_words h hc).2⟩
  rintro rfl
  simp [words] at h

theorem words_eq_nil_iff : words cs = [] ↔ ∀ c ∈ cs, isAlphanumeric c = false := by
  have hflatten : words cs = [] ↔ (words cs).flatten = [] := by
    constructor
    · intro h
      rw [h, List.flatten_nil]
    · intro h
      rw [List.flatten_eq_nil_iff] at h
      exact List.eq_nil_iff_forall_not_mem.mpr fun w hw => (isWord_of_mem_words hw).1 (h w hw)
  rw [hflatten, flatten_words, List.filter_eq_nil_iff]
  simp only [Bool.not_eq_true]

theorem words_of_isWord (h : IsWord w) : words w = [w] := by
  have hsplit : w.splitOnP (!isAlphanumeric ·) = [w] :=
    List.splitOnP_eq_singleton fun c hc => by rw [h.2 c hc]; rfl
  have hne : (!w.isEmpty) = true := by
    rw [Bool.not_eq_true', List.isEmpty_eq_false_iff]
    exact h.1
  rw [words, hsplit, List.filter_singleton, hne]
  rfl

/-- Words with spaces between them are the words of what they make. -/
theorem words_intercalate (h : ∀ w ∈ ws, IsWord w) : words ([' '].intercalate ws) = ws := by
  induction ws with
  | nil => exact words_nil
  | cons w ws ih =>
    have hw := words_of_isWord (h w List.mem_cons_self)
    have hrest := ih fun v hv => h v (List.mem_cons_of_mem _ hv)
    cases ws with
    | nil => rw [List.intercalate_singleton, hw]
    | cons v ws =>
      rw [List.intercalate_cons_cons, List.append_assoc, List.singleton_append,
        words_append_cons space_not_alphanumeric, hw, hrest, List.singleton_append]

theorem mem_intercalate_space {c : Char} (h : c ∈ [' '].intercalate ws) : c = ' ' ∨ ∃ w ∈ ws, c ∈ w := by
  induction ws with
  | nil => cases h
  | cons w ws ih =>
    cases ws with
    | nil =>
      rw [List.intercalate_singleton] at h
      exact Or.inr ⟨w, List.mem_cons_self, h⟩
    | cons v ws =>
      rw [List.intercalate_cons_cons, List.mem_append, List.mem_append, List.mem_singleton] at h
      rcases h with (hword | hspace) | hrest
      · exact Or.inr ⟨w, List.mem_cons_self, hword⟩
      · exact Or.inl hspace
      · rcases ih hrest with hspace | ⟨u, hu, hc⟩
        · exact Or.inl hspace
        · exact Or.inr ⟨u, List.mem_cons_of_mem _ hu, hc⟩

/-! ## Normal forms -/

theorem isNormal_normalizeChars (cs : List Char) : IsNormal (normalizeChars cs) where
  spaced := ⟨words (lower cs), fun w hw => isWord_of_mem_words hw, rfl⟩
  lowered := by
    intro c hc
    rcases mem_intercalate_space hc with rfl | ⟨w, hw, hc⟩
    · exact lowerAlone_of_not_alphanumeric space_not_alphanumeric
    · exact lowerAlone_of_mem_lower (mem_of_mem_words hw hc).1

theorem IsNormal.normalizeChars_eq (h : IsNormal cs) : normalizeChars cs = cs := by
  obtain ⟨ws, hws, hcs⟩ := h.spaced
  rw [normalizeChars, lower_eq_self h.lowered, hcs, words_intercalate hws]

/-- The texts in normal form are those that are their own normal form. -/
theorem isNormal_iff : IsNormal cs ↔ normalizeChars cs = cs := by
  constructor
  · exact IsNormal.normalizeChars_eq
  · intro h
    rw [← h]
    exact isNormal_normalizeChars cs

theorem words_normalizeChars (cs : List Char) : words (normalizeChars cs) = words (lower cs) :=
  words_intercalate fun _ hw => isWord_of_mem_words hw

/-- No letter and no digit of the lower case is lost, and none moves. -/
theorem filter_normalizeChars (cs : List Char) :
    (normalizeChars cs).filter isAlphanumeric = (lower cs).filter isAlphanumeric := by
  rw [← flatten_words, words_normalizeChars, flatten_words]

theorem normalizeChars_eq_nil_iff :
    normalizeChars cs = [] ↔ ∀ c ∈ lower cs, isAlphanumeric c = false := by
  rw [← words_eq_nil_iff]
  constructor
  · intro h
    rw [← words_normalizeChars, h, words_nil]
  · intro h
    rw [normalizeChars, h, List.intercalate_nil]

/-! ## No space at the ends -/

theorem IsNormal.head?_ne (h : IsNormal cs) : cs.head? ≠ some ' ' := by
  obtain ⟨ws, hws, rfl⟩ := h.spaced
  cases ws with
  | nil => simp
  | cons w ws =>
    have hw : IsWord w := hws w List.mem_cons_self
    obtain ⟨rest, hrest⟩ := intercalate_prefix_append [' '] [w] ws
    rw [List.intercalate_singleton, List.singleton_append] at hrest
    rw [← hrest, List.head?_append_of_ne_nil _ hw.1]
    exact fun hspace => hw.space_not_mem (List.mem_of_head? hspace)

theorem IsNormal.getLast?_ne (h : IsNormal cs) : cs.getLast? ≠ some ' ' := by
  obtain ⟨ws, hws, rfl⟩ := h.spaced
  rcases List.eq_nil_or_concat ws with rfl | ⟨ws, w, rfl⟩
  · simp
  · rw [List.concat_eq_append] at hws ⊢
    have hw : IsWord w := hws w (List.mem_append_right _ List.mem_cons_self)
    obtain ⟨rest, hrest⟩ := intercalate_suffix_append [' '] ws [w]
    rw [List.intercalate_singleton] at hrest
    rw [← hrest, List.getLast?_append_of_ne_nil _ hw.1]
    exact fun hspace => hw.space_not_mem (List.mem_of_getLast? hspace)

/-! ## Texts as strings -/

theorem toList_normalize (t : String) : (normalize t).toList = normalizeChars t.toList :=
  String.toList_ofList

theorem normalize_normalize (t : String) : normalize (normalize t) = normalize t := by
  have hnormal := isNormal_iff.mp (isNormal_normalizeChars t.toList)
  rw [normalize, toList_normalize, hnormal]
  rfl

theorem normalize_eq_empty_iff {t : String} :
    normalize t = "" ↔ ∀ c ∈ lower t.toList, isAlphanumeric c = false := by
  rw [← normalizeChars_eq_nil_iff, ← toList_normalize, String.toList_eq_nil_iff]

end Wayfinder.Text
