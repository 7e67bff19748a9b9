import Wayfinder.Resolve.Ranking
import Wayfinder.Proofs.Text.Ascending
import Wayfinder.Proofs.Vocabulary.TermSet
import Mathlib.Data.Finset.Card

/-!
# The score is the saturated weighted count

`toNat_score`: the score of a node is the weighted count of what the query and the node share,
`exactScore`, or the greatest score if that is less. Products and sums are cut off one at a time;
cutting off early changes nothing, since weights and counts only add to what is there.

What is shared is given as sets: intents and entities that both name, and normal forms of the node's
keywords that have a character and occur in the query's text.
-/

namespace Wayfinder

/-! ## What a query and a node share -/

theorem occursIn_iff {needle hay : List Char} : occursIn needle hay = true ↔ needle <:+: hay := by
  induction hay with
  | nil => rw [occursIn, List.isEmpty_iff, List.infix_nil]
  | cons c hay ih => rw [occursIn, Bool.or_eq_true, List.isPrefixOf_iff_prefix, ih,
      List.infix_cons_iff]

/-- A list without repeats is as long as the set of its members. -/
theorem length_eq_card {α : Type} [DecidableEq α] {l : List α} {s : Finset α} (hl : l.Nodup)
    (h : ∀ a, a ∈ l ↔ a ∈ s) : l.length = s.card := by
  rw [← List.toFinset_card_of_nodup hl]
  congr 1
  ext a
  rw [List.mem_toFinset, h]

namespace Query

variable (q : Query) (n : Node)

/-- The intents that the query and the node name. -/
def sharedIntents : Finset Intent :=
  n.intents.toList.toFinset.filter fun i => q.intent = some i

/-- The entities that the query and the node name. -/
def sharedEntities : Finset Entity :=
  n.entities.toList.toFinset.filter (· ∈ q.entityHints)

/-- The normal forms of the node's keywords that occur in the query's text. -/
def sharedKeywords : Finset String :=
  (n.keywords.map Text.normalize).toFinset.filter fun k =>
    k ≠ "" ∧ k.toList <:+: q.normalizedText.toList

variable {q n}

theorem mem_sharedIntents {i : Intent} :
    i ∈ q.sharedIntents n ↔ i ∈ n.intents ∧ q.intent = some i := by
  rw [sharedIntents, Finset.mem_filter, List.mem_toFinset]
  rfl

theorem mem_sharedEntities {e : Entity} :
    e ∈ q.sharedEntities n ↔ e ∈ n.entities ∧ e ∈ q.entityHints := by
  rw [sharedEntities, Finset.mem_filter, List.mem_toFinset]
  rfl

theorem mem_sharedKeywords {k : String} :
    k ∈ q.sharedKeywords n ↔
      k ∈ n.keywords.map Text.normalize ∧ k ≠ "" ∧ k.toList <:+: q.normalizedText.toList := by
  rw [sharedKeywords, Finset.mem_filter, List.mem_toFinset]

/-! ## The matches have what is shared -/

theorem mem_matchedKeywords {text k : String} {keywords : List String} :
    k ∈ matchedKeywords text keywords ↔
      k ∈ keywords.map Text.normalize ∧ k ≠ "" ∧ k.toList <:+: text.toList := by
  have hhit : ∀ keyword, keywordHit? text keyword = some k ↔
      Text.normalize keyword = k ∧ k ≠ "" ∧ k.toList <:+: text.toList := by
    intro keyword
    simp only [keywordHit?, Option.ite_none_right_eq_some, Bool.and_eq_true, occursIn_iff,
      Option.some.injEq]
    constructor
    · rintro ⟨⟨hne, hin⟩, rfl⟩
      exact ⟨rfl, by simpa using hne, hin⟩
    · rintro ⟨rfl, hne, hin⟩
      exact ⟨⟨by simpa using hne, hin⟩, rfl⟩
  unfold matchedKeywords
  split_ifs with hempty
  · rw [String.isEmpty_iff] at hempty
    subst hempty
    refine ⟨fun h => absurd h (by simp), ?_⟩
    rintro ⟨-, hne, hin⟩
    exact absurd (String.toList_inj.mp (List.infix_nil.mp hin)) hne
  · rw [Text.mem_ascending, List.mem_filterMap, List.mem_map]
    simp only [hhit]
    constructor
    · rintro ⟨keyword, hmem, he, h⟩
      exact ⟨⟨keyword, hmem, he⟩, h⟩
    · rintro ⟨⟨keyword, hmem, he⟩, h⟩
      exact ⟨keyword, hmem, he, h⟩

theorem pairwise_matchedKeywords (text : String) (keywords : List String) :
    (matchedKeywords text keywords).Pairwise (· < ·) := by
  unfold matchedKeywords
  split_ifs
  · exact List.Pairwise.nil
  · exact Text.pairwise_ascending _

variable (q n)

theorem mem_intents_matches (i : Intent) :
    i ∈ (q.matches q.normalizedText n).intents.toList ↔ i ∈ q.sharedIntents n := by
  show i ∈ q.intents.inter n.intents ↔ _
  rw [TermSet.mem_inter, intents, TermSet.mem_ofList, Option.mem_toList, mem_sharedIntents, and_comm]

theorem mem_keywords_matches (k : String) :
    k ∈ (q.matches q.normalizedText n).keywords ↔ k ∈ q.sharedKeywords n := by
  rw [mem_sharedKeywords]
  exact mem_matchedKeywords

theorem mem_entities_matches (e : Entity) :
    e ∈ (q.matches q.normalizedText n).entities.toList ↔ e ∈ q.sharedEntities n := by
  show e ∈ q.entities.inter n.entities ↔ _
  rw [TermSet.mem_inter, entities, TermSet.mem_ofList, mem_sharedEntities, and_comm]

theorem size_intents : (q.matches q.normalizedText n).intents.size = (q.sharedIntents n).card :=
  length_eq_card (TermSet.nodup_toList _) (mem_intents_matches q n)

theorem size_entities :
    (q.matches q.normalizedText n).entities.size = (q.sharedEntities n).card :=
  length_eq_card (TermSet.nodup_toList _) (mem_entities_matches q n)

theorem length_keywords :
    (q.matches q.normalizedText n).keywords.length = (q.sharedKeywords n).card := by
  have hnodup : (q.matches q.normalizedText n).keywords.Nodup :=
    (pairwise_matchedKeywords _ _).imp fun {_ _} h => h.ne
  exact length_eq_card hnodup (mem_keywords_matches q n)

end Query

/-! ## Arithmetic with a greatest score -/

namespace Weights

theorem toNat_saturate (n : ℕ) : (saturate n).toNat = min n maxScore := by
  rw [saturate, UInt32.toNat_ofNat']
  refine Nat.mod_eq_of_lt ?_
  have hmax : maxScore < 2 ^ 32 := by decide
  omega

theorem toNat_times (w : UInt32) (hits : ℕ) :
    (times w hits).toNat = min (w.toNat * hits) maxScore := by
  rw [times, toNat_saturate, toNat_saturate]
  rcases Nat.eq_zero_or_pos w.toNat with hw | hw
  · rw [hw, Nat.zero_mul, Nat.zero_mul]
  · rcases le_total hits maxScore with hle | hle
    · rw [min_eq_left hle]
    · -- both products reach the greatest score
      rw [min_eq_right hle, min_eq_right (Nat.le_mul_of_pos_left _ hw),
        min_eq_right (hle.trans (Nat.le_mul_of_pos_left _ hw))]

theorem toNat_plus (a b : UInt32) : (plus a b).toNat = min (a.toNat + b.toNat) maxScore := by
  rw [plus, toNat_saturate]

variable (w : Weights) (q : Query) (n : Node)

theorem toNat_score_hits (intents keywords entities : ℕ) :
    (w.score intents keywords entities).toNat =
      min (w.intent.toNat * intents + w.keyword.toNat * keywords + w.entity.toNat * entities)
        maxScore := by
  rw [score, toNat_plus, toNat_plus, toNat_times, toNat_times, toNat_times]
  omega

/-- The weighted count of what the query and the node share, without a bound. -/
def exactScore : ℕ :=
  w.intent.toNat * (q.sharedIntents n).card + w.keyword.toNat * (q.sharedKeywords n).card +
    w.entity.toNat * (q.sharedEntities n).card

/-- The score is the weighted count, or the greatest score if that is less. -/
theorem toNat_score : (w.scoreNode q n).score.toNat = min (w.exactScore q n) maxScore := by
  show (w.score _ _ _).toNat = _
  rw [toNat_score_hits, q.size_intents, q.length_keywords, q.size_entities, exactScore]

/-- However much is cut off, no match is lost. -/
theorem score_pos_iff : 0 < (w.scoreNode q n).score.toNat ↔ w.exactScore q n ≠ 0 := by
  have hmax : 0 < maxScore := by decide
  rw [toNat_score]
  omega

theorem exactScore_of_isEmpty (h : q.isEmpty = true) : w.exactScore q n = 0 := by
  simp only [Query.isEmpty, Bool.and_eq_true, Option.isNone_iff_eq_none, List.isEmpty_iff,
    String.isEmpty_iff] at h
  obtain ⟨⟨hintent, hhints⟩, htext⟩ := h
  have hi : q.sharedIntents n = ∅ := by simp [Query.sharedIntents, hintent]
  have he : q.sharedEntities n = ∅ := by simp [Query.sharedEntities, hhints]
  have hk : q.sharedKeywords n = ∅ := by
    rw [Query.sharedKeywords, Finset.filter_eq_empty_iff, htext]
    rintro k - ⟨hne, hin⟩
    exact hne (String.toList_inj.mp (List.infix_nil.mp hin))
  rw [exactScore, hi, he, hk]
  rfl

end Weights

end Wayfinder
