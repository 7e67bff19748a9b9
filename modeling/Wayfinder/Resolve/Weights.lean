/-!
# Weights and scores

A score is a weighted count of matches in 32 bits. A product or a sum that does not fit is the
greatest number that does.
-/

namespace Wayfinder

/-- How much a match of each kind counts. -/
structure Weights where
  intent : UInt32 := 3
  keyword : UInt32 := 2
  entity : UInt32 := 1
deriving DecidableEq, Repr

namespace Weights

/-- The greatest score. -/
def maxScore : Nat := 0xFFFFFFFF

/-- The number itself if it fits, else the greatest score. -/
def saturate (n : Nat) : UInt32 := .ofNat (min n maxScore)

/-- A weight times a count. -/
def times (w : UInt32) (hits : Nat) : UInt32 :=
  saturate (w.toNat * (saturate hits).toNat)

/-- A sum of two scores. -/
def plus (a b : UInt32) : UInt32 :=
  saturate (a.toNat + b.toNat)

/-- The score of so many matches of each kind. -/
def score (w : Weights) (intents keywords entities : Nat) : UInt32 :=
  plus (plus (times w.intent intents) (times w.keyword keywords)) (times w.entity entities)

end Weights

end Wayfinder
