import Wayfinder.Vocabulary.Terms
import Wayfinder.Vocabulary.TermSet
import Wayfinder.Text.Words

/-!
# Queries

What a user asks for: a text, an intent, kinds of things. Texts are compared in their normal form,
and a keyword matches a text that contains it.
-/

namespace Wayfinder

/-- A request for a screen. -/
structure Query where
  text : Option String := none
  intent : Option Intent := none
  entityHints : List Entity := []
deriving DecidableEq, Repr

namespace Query

/-- The intent, as a set. -/
def intents (q : Query) : TermSet Intent := .ofList q.intent.toList

/-- The kinds of things, each once. -/
def entities (q : Query) : TermSet Entity := .ofList q.entityHints

/-- The normal form of the text; empty if there is none. -/
def normalizedText (q : Query) : String :=
  (q.text.map Text.normalize).getD ""

/-- Nothing is asked for. -/
def isEmpty (q : Query) : Bool :=
  q.intent.isNone && q.entityHints.isEmpty && q.normalizedText.isEmpty

end Query

/-! ## Keywords -/

/-- The characters of `needle` occur in `hay`, one right after the other. -/
def occursIn (needle : List Char) : List Char → Bool
  | [] => needle.isEmpty
  | c :: cs => needle.isPrefixOf (c :: cs) || occursIn needle cs

/-- The keyword's normal form, if it has a word and the text contains it. -/
def keywordHit? (text keyword : String) : Option String :=
  let k := Text.normalize keyword
  if !k.isEmpty && occursIn k.toList text.toList then some k else none

/-- The normal forms of the keywords that a text contains, in ascending order. -/
def matchedKeywords (text : String) (keywords : List String) : List String :=
  if text.isEmpty then [] else Text.ascending (keywords.filterMap (keywordHit? text))

end Wayfinder
