import Wayfinder.Resolve.Query
import Wayfinder.Proofs.Text.Normal

/-!
# Spellings of texts and keywords

`normal_spelling`: a text and its normal form are one query, and a keyword and its normal form are one
keyword, for all that is compared are normal forms, and a normal form is its own.
-/

namespace Wayfinder.Query

theorem normalizedText_normalize (q : Query) (t : String) :
    ({ q with text := some (Text.normalize t) } : Query).normalizedText =
      ({ q with text := some t } : Query).normalizedText := by
  show Text.normalize (Text.normalize t) = Text.normalize t
  exact Text.normalize_normalize t

theorem isEmpty_normalize (q : Query) (t : String) :
    ({ q with text := some (Text.normalize t) } : Query).isEmpty =
      ({ q with text := some t } : Query).isEmpty := by
  rw [isEmpty, isEmpty, normalizedText_normalize]

theorem keywordHit?_normalize (text k : String) :
    keywordHit? text (Text.normalize k) = keywordHit? text k := by
  rw [keywordHit?, keywordHit?, Text.normalize_normalize]

theorem matchedKeywords_normalize (text k : String) (before after : List String) :
    matchedKeywords text (before ++ Text.normalize k :: after) =
      matchedKeywords text (before ++ k :: after) := by
  have hhits : (before ++ Text.normalize k :: after).filterMap (keywordHit? text) =
      (before ++ k :: after).filterMap (keywordHit? text) := by
    rw [List.filterMap_append, List.filterMap_append, List.filterMap_cons, List.filterMap_cons,
      keywordHit?_normalize]
  rw [matchedKeywords, matchedKeywords, hhits]

/-- **Normal forms are canonical.** The normal form of a text is words in lower case with single spaces
between them and none at the ends, it is its own normal form, and its letters and digits are those of the
text in lower case, so that it is empty exactly if there are none. A keyword or a text can be replaced by
its normal form: the same keywords are matched, and the query asks for nothing exactly if it did before. -/
theorem normal_spelling (t : String) :
    (Text.IsNormal (Text.normalize t).toList ∧ (Text.normalize t).toList.head? ≠ some ' ' ∧
        (Text.normalize t).toList.getLast? ≠ some ' ') ∧
      Text.normalize (Text.normalize t) = Text.normalize t ∧
      (Text.normalize t).toList.filter Text.isAlphanumeric =
        (Text.lower t.toList).filter Text.isAlphanumeric ∧
      (Text.normalize t = "" ↔ ∀ c ∈ Text.lower t.toList, Text.isAlphanumeric c = false) ∧
      (∀ text before after, matchedKeywords text (before ++ Text.normalize t :: after) =
        matchedKeywords text (before ++ t :: after)) ∧
      ∀ q : Query,
        let asked : Query := { q with text := some t }
        let askedNormal : Query := { q with text := some (Text.normalize t) }
        (∀ keywords, matchedKeywords askedNormal.normalizedText keywords =
          matchedKeywords asked.normalizedText keywords) ∧
        askedNormal.isEmpty = asked.isEmpty := by
  have hnormal : Text.IsNormal (Text.normalize t).toList := by
    rw [Text.toList_normalize]
    exact Text.isNormal_normalizeChars t.toList
  have hletters : (Text.normalize t).toList.filter Text.isAlphanumeric =
      (Text.lower t.toList).filter Text.isAlphanumeric := by
    rw [Text.toList_normalize]
    exact Text.filter_normalizeChars t.toList
  refine ⟨⟨hnormal, hnormal.head?_ne, hnormal.getLast?_ne⟩, Text.normalize_normalize t,
    hletters, Text.normalize_eq_empty_iff,
    fun text before after => matchedKeywords_normalize text t before after,
    fun q => ⟨fun keywords => ?_, isEmpty_normalize q t⟩⟩
  rw [normalizedText_normalize]

/-- The dot of U+0130 ends a word, and a sigma is final where its word ends. -/
example : Text.normalize "  İstanbul — ΟΔΌΣ!" = "i stanbul οδός" := by
  decide +kernel

end Wayfinder.Query
