import Wayfinder.Proofs.Resolve.Score

/-!
# What a score is made of

`score_formula`: the score is the weighted count of the intents, keywords and entities that a query and
a node share, or the greatest score if that is less, and the matches list exactly these, each once and
in ascending order. So nothing but the three sets matters: neither the order and the repeats of hints
and keywords nor the spelling of a keyword, and what is added to either side can only raise the score.
-/

namespace Wayfinder

/-! ## The shared sets -/

namespace Query

variable {q q' : Query} {n n' : Node}

/-- The node of the one pair has what the node of the other has, and the query names it. -/
structure Within (q : Query) (n : Node) (q' : Query) (n' : Node) : Prop where
  intents : q.sharedIntents n ⊆ q'.sharedIntents n'
  keywords : q.sharedKeywords n ⊆ q'.sharedKeywords n'
  entities : q.sharedEntities n ⊆ q'.sharedEntities n'

/-- More hints, and more of everything at the node; of keywords only normal forms count. -/
theorem within_of_more {hints : List Entity} {intents : TermSet Intent} {keywords : List String}
    {entities : TermSet Entity} (hhints : ∀ e ∈ q.entityHints, e ∈ hints)
    (hintents : ∀ i ∈ n.intents, i ∈ intents)
    (hkeywords : ∀ k ∈ n.keywords.map Text.normalize, k ∈ keywords.map Text.normalize)
    (hentities : ∀ e ∈ n.entities, e ∈ entities) :
    q.Within n { q with entityHints := hints } { n with intents, keywords, entities } := by
  constructor
  · intro i hi
    rw [mem_sharedIntents] at hi ⊢
    exact ⟨hintents i hi.1, hi.2⟩
  · intro k hk
    rw [mem_sharedKeywords] at hk ⊢
    exact ⟨hkeywords k hk.1, hk.2⟩
  · intro e he
    rw [mem_sharedEntities] at he ⊢
    exact ⟨hentities e he.1, hhints e he.2⟩

end Query

/-! ## The list of matches -/

namespace Matches

/-- The matches list these sets, without repeats and in ascending order: intents and entities in the
order of declaration, keywords in that of code points. -/
structure Lists (m : Matches) (I : Finset Intent) (K : Finset String) (E : Finset Entity) : Prop where
  mem_intents : ∀ i, i ∈ m.intents.toList ↔ i ∈ I
  mem_keywords : ∀ k, k ∈ m.keywords ↔ k ∈ K
  mem_entities : ∀ e, e ∈ m.entities.toList ↔ e ∈ E
  intents_ascend : m.intents.toList.Pairwise fun a b => Term.index a < Term.index b
  keywords_ascend : m.keywords.Pairwise (· < ·)
  entities_ascend : m.entities.toList.Pairwise fun a b => Term.index a < Term.index b

variable {m m' : Matches} {I : Finset Intent} {K : Finset String} {E : Finset Entity}

/-- There is one list of matches for three sets. -/
theorem Lists.unique (h : m.Lists I K E) (h' : m'.Lists I K E) : m = m' := by
  have hintents : m.intents = m'.intents :=
    TermSet.ext_mem fun i => (h.mem_intents i).trans (h'.mem_intents i).symm
  have hkeywords : m.keywords = m'.keywords :=
    h.keywords_ascend.eq_of_mem_iff h'.keywords_ascend fun k =>
      (h.mem_keywords k).trans (h'.mem_keywords k).symm
  have hentities : m.entities = m'.entities :=
    TermSet.ext_mem fun e => (h.mem_entities e).trans (h'.mem_entities e).symm
  cases m
  cases m'
  simp only at hintents hkeywords hentities
  rw [hintents, hkeywords, hentities]

end Matches

namespace Query

variable {q q' : Query} {n n' : Node}

theorem lists_matches (q : Query) (n : Node) :
    (q.matches q.normalizedText n).Lists (q.sharedIntents n) (q.sharedKeywords n)
      (q.sharedEntities n) where
  mem_intents := q.mem_intents_matches n
  mem_keywords := q.mem_keywords_matches n
  mem_entities := q.mem_entities_matches n
  intents_ascend := TermSet.pairwise_index _
  keywords_ascend := pairwise_matchedKeywords _ _
  entities_ascend := TermSet.pairwise_index _

/-- What is shared on both sides of two pairs is listed alike. -/
theorem matches_eq_of_within (h : q.Within n q' n') (h' : q'.Within n' q n) :
    q'.matches q'.normalizedText n' = q.matches q.normalizedText n := by
  have hlists := q'.lists_matches n'
  rw [h'.intents.antisymm h.intents, h'.keywords.antisymm h.keywords,
    h'.entities.antisymm h.entities] at hlists
  exact hlists.unique (q.lists_matches n)

end Query

/-! ## The score -/

namespace Weights

variable (w : Weights) {q q' : Query} {n n' : Node}

theorem score_le_of_within (h : q.Within n q' n') :
    (w.scoreNode q n).score.toNat ≤ (w.scoreNode q' n').score.toNat := by
  have hintents := Nat.mul_le_mul_left w.intent.toNat (Finset.card_le_card h.intents)
  have hkeywords := Nat.mul_le_mul_left w.keyword.toNat (Finset.card_le_card h.keywords)
  have hentities := Nat.mul_le_mul_left w.entity.toNat (Finset.card_le_card h.entities)
  rw [toNat_score, toNat_score, exactScore, exactScore]
  omega

theorem score_eq_zero_iff :
    (w.scoreNode q n).score = 0 ↔
      w.intent.toNat * (q.sharedIntents n).card = 0 ∧
        w.keyword.toNat * (q.sharedKeywords n).card = 0 ∧
        w.entity.toNat * (q.sharedEntities n).card = 0 := by
  have hpos := w.score_pos_iff q n
  rw [← UInt32.toNat_inj]
  rw [exactScore] at hpos
  show (w.scoreNode q n).score.toNat = 0 ↔ _
  omega

/-- **What a score is made of.** -/
theorem score_formula (w : Weights) (q : Query) (n : Node) :
    let I := q.sharedIntents n
    let K := q.sharedKeywords n
    let E := q.sharedEntities n
    let result := w.scoreNode q n
    result.score.toNat = min (2 ^ 32 - 1)
        (w.intent.toNat * I.card + w.keyword.toNat * K.card + w.entity.toNat * E.card) ∧
      result.found.Lists I K E ∧
      (∀ hints keywords, (∀ e, e ∈ hints ↔ e ∈ q.entityHints) →
        (∀ k, k ∈ keywords.map Text.normalize ↔ k ∈ n.keywords.map Text.normalize) →
          let result' := w.scoreNode { q with entityHints := hints } { n with keywords := keywords }
          result'.score = result.score ∧ result'.found = result.found) ∧
      (∀ hints intents keywords entities, q.entityHints ⊆ hints → (∀ i ∈ n.intents, i ∈ intents) →
        n.keywords ⊆ keywords → (∀ e ∈ n.entities, e ∈ entities) →
          result.score.toNat ≤ (w.scoreNode { q with entityHints := hints }
            { n with intents, keywords, entities }).score.toNat) ∧
      (result.score = 0 ↔ w.intent.toNat * I.card = 0 ∧ w.keyword.toNat * K.card = 0 ∧
        w.entity.toNat * E.card = 0) := by
  intro I K E result
  refine ⟨?_, q.lists_matches n, ?_, ?_, w.score_eq_zero_iff⟩
  · show (w.scoreNode q n).score.toNat = _
    rw [toNat_score, min_comm]
    rfl
  · intro hints keywords hhints hkeywords result'
    have hmatches : result'.found = result.found :=
      Query.matches_eq_of_within
        (Query.within_of_more (fun e => (hhints e).mpr) (fun i hi => hi) (fun k => (hkeywords k).mpr)
          fun e he => he)
        (Query.within_of_more (fun e => (hhints e).mp) (fun i hi => hi) (fun k => (hkeywords k).mp)
          fun e he => he)
    refine ⟨?_, hmatches⟩
    show w.scoreOf result'.found = w.scoreOf result.found
    rw [hmatches]
  · intro hints intents keywords entities hhints hintents hkeywords hentities
    refine w.score_le_of_within (Query.within_of_more (fun e he => hhints he) hintents ?_ hentities)
    intro k hk
    exact List.map_subset _ hkeywords hk

/-- Spellings of one keyword count once and so does a repeated hint; two entities of the greatest weight
are worth no more than the greatest score. -/
example :
    let n : Node :=
      { id := "tests", label := "Tests", route := "/tests", domain := .quality
        intents := .ofList [.reviewQuality], keywords := ["Test-Case", "test case", "defect", "?"]
        entities := .ofList [.testCase, .issue] }
    let q : Query :=
      { text := some "Failed TEST CASE: 3 defects", intent := some .reviewQuality
        entityHints := [.testCase, .issue, .testCase] }
    let result := ({ intent := 0, keyword := 2, entity := 0xFFFFFFFF } : Weights).scoreNode q n
    (result.score, result.found.keywords, result.found.entities.toList) =
      (0xFFFFFFFF, ["defect", "test case"], [.issue, .testCase]) := by
  decide +kernel

end Weights

end Wayfinder
