import Wayfinder.Proofs.Resolve.Score
import Wayfinder.Proofs.Text.Words

/-!
# Keywords between separators

`matchedKeywords_apart`: a keyword that stands in a text with separators around it is matched, if its
capital sigmas are final in the text exactly as they are in the keyword. Some separators, such as the
full stop, do not keep a sigma from being seen as part of a longer word: the sigma that ends a keyword
is not final before a full stop and a letter, and the keyword is missed (`not_matched_before_stop`).
-/

namespace Wayfinder.Query

open Text (EndsApart BeginsApart KeepsSigmas)

theorem mem_matchedKeywords_of_infix {k text : String} {keywords : List String} (hk : k ∈ keywords)
    (hword : Text.normalize k ≠ "")
    (h : Text.normalizeChars k.toList <:+: Text.normalizeChars text.toList) :
    Text.normalize k ∈ matchedKeywords (Text.normalize text) keywords := by
  rw [mem_matchedKeywords]
  refine ⟨List.mem_map_of_mem hk, hword, ?_⟩
  rwa [Text.normalize, Text.normalize, String.toList_ofList, String.toList_ofList]

/-- **A keyword between separators is matched** if it keeps its final sigmas, that is, if it has in the
text the lower case that it has alone. It keeps them if it has no capital sigma, and if no ignorable
character stands next to it. The text before the keyword is empty or ends with a separator, and the
text after it is empty or begins with one. -/
theorem matchedKeywords_apart (front k back : String) (keywords : List String) (hk : k ∈ keywords)
    (hword : Text.normalize k ≠ "") (hfront : EndsApart front.toList)
    (hback : BeginsApart back.toList) :
    (KeepsSigmas front.toList k.toList back.toList →
        Text.normalize k ∈ matchedKeywords (Text.normalize (front ++ k ++ back)) keywords) ∧
      (KeepsSigmas front.toList k.toList back.toList ↔
        Text.lowerBetween front.toList back.toList k.toList = Text.lower k.toList) ∧
      ('Σ' ∉ k.toList → KeepsSigmas front.toList k.toList back.toList) ∧
      ((∀ c ∈ front.toList.getLast?, Text.isCaseIgnorable c = false) →
        (∀ d ∈ back.toList.head?, Text.isCaseIgnorable d = false) →
          KeepsSigmas front.toList k.toList back.toList) := by
  refine ⟨fun hsigma => ?_, Text.lowerBetween_eq_lower_iff.symm, Text.keepsSigmas_of_not_mem,
    Text.keepsSigmas_of_not_ignorable hfront hback⟩
  apply mem_matchedKeywords_of_infix hk hword
  rw [String.toList_append, String.toList_append]
  exact Text.infix_normalizeChars hfront hback hsigma

/-- The sigma is final before a hyphen, and the full stop farther on does not matter. -/
theorem matchedKeywords_apart_hyphen :
    let front := "Η "
    let k := "ΟΔΟΣ"
    let back := "-5.GR"
    k ∈ [k] ∧ Text.normalize k ≠ "" ∧ EndsApart front.toList ∧ BeginsApart back.toList ∧
      Text.normalize (front ++ k ++ back) = "η οδος 5 gr" ∧
      "οδος" ∈ matchedKeywords "η οδος 5 gr" [k] := by
  intro front k back
  have hk : k ∈ [k] := List.mem_singleton_self k
  have hnormal : Text.normalize k = "οδος" := by decide +kernel
  have htext : Text.normalize (front ++ k ++ back) = "η οδος 5 gr" := by decide +kernel
  have hword : Text.normalize k ≠ "" := by
    rw [hnormal]
    decide
  have hfront : EndsApart front.toList := by
    intro c hc
    obtain rfl : ' ' = c := by simpa [front] using hc
    decide +kernel
  have hback : BeginsApart back.toList := by
    intro d hd
    obtain rfl : '-' = d := by simpa [back] using hd
    decide +kernel
  obtain ⟨hmatched, -, -, hplain⟩ := matchedKeywords_apart front k back [k] hk hword hfront hback
  refine ⟨hk, hword, hfront, hback, htext, ?_⟩
  rw [← htext, ← hnormal]
  refine hmatched (hplain ?_ ?_)
  · intro c hc
    obtain rfl : ' ' = c := by simpa [front] using hc
    decide +kernel
  · intro d hd
    obtain rfl : '-' = d := by simpa [back] using hd
    decide +kernel

/-- A separator on either side is not enough: before a full stop and a letter the sigma of the keyword is
not final, and the text has another word in its place. -/
theorem not_matched_before_stop :
    ¬ ∀ (a k b : String) (c d : Char) (keywords : List String), Text.normalize k ≠ "" →
      Text.isAlphanumeric c = false → Text.isAlphanumeric d = false → k ∈ keywords →
        Text.normalize k ∈ matchedKeywords
          (Text.normalize (a ++ String.singleton c ++ k ++ String.singleton d ++ b)) keywords := by
  intro h
  have hmatched := h "ΝΕΑ" "ΟΔΟΣ" "GR" ' ' '.' ["ΟΔΟΣ"] (by decide +kernel) (by decide +kernel)
    (by decide +kernel) (List.mem_singleton_self _)
  revert hmatched
  decide +kernel

end Wayfinder.Query
