import Wayfinder.Registry.Basic
import Wayfinder.Resolve.Query
import Wayfinder.Resolve.Weights

/-!
# Ranking and resolution

Screens are ranked by how well they match a query: the higher score first, then the lower
priority, then the smaller id. A query resolves to the best screen and to the first of its links
whose parameters have values; when none has, the screens below are not tried.
-/

namespace Wayfinder

/-! ## Scores -/

/-- What a query and a node share. -/
structure Matches where
  intents : TermSet Intent
  /-- Normal forms of keywords, each once, ascending. -/
  keywords : List String
  entities : TermSet Entity

/-- A node and how well it matches. -/
structure ScoredNode where
  node : Node
  score : UInt32
  found : Matches

/-- What a query shares with a node; `text` is the normal form of the query's text. -/
def Query.matches (q : Query) (text : String) (n : Node) : Matches where
  intents := q.intents.inter n.intents
  keywords := matchedKeywords text n.keywords
  entities := q.entities.inter n.entities

/-- The score of matches. -/
def Weights.scoreOf (w : Weights) (m : Matches) : UInt32 :=
  w.score m.intents.size m.keywords.length m.entities.size

/-- How well a node matches a query. -/
def Weights.scoreNode (w : Weights) (q : Query) (n : Node) : ScoredNode :=
  let m := q.matches q.normalizedText n
  ⟨n, w.scoreOf m, m⟩

/-! ## Ranking -/

/-- The order of the ranking: score descending, priority ascending, id ascending. -/
def ScoredNode.atMost (a b : ScoredNode) : Bool :=
  if a.score ≠ b.score then decide (b.score.toNat < a.score.toNat)
  else if a.node.priority ≠ b.node.priority then
    decide (a.node.priority.toInt < b.node.priority.toInt)
  else !decide (b.node.id < a.node.id)

/-- The candidates that match at all, best first. -/
def Weights.rank (w : Weights) (q : Query) (candidates : List Node) : List ScoredNode :=
  ((candidates.map (w.scoreNode q)).filter (0 < ·.score.toNat)).mergeSort ScoredNode.atMost

/-! ## Resolution -/

/-- Why a query leads nowhere. -/
inductive ResolveError
  | noMatch
  | missingScope (id : String) (names : List String)
deriving DecidableEq, Repr

/-- The wording of the failure. -/
def ResolveError.message : ResolveError → String
  | noMatch => "no node matches the query"
  | missingScope id names => s!"node '{id}' needs scope parameters: " ++ ", ".intercalate names

/-- The first template whose parameters have values, and its link. When there is none, the error
names what the templates lack, each name once, in the order of the templates. -/
def Node.expandFirst (n : Node) (scope : Scope) :
    Except ResolveError (Link.Template × String) :=
  match n.links.findSome? fun t => (t.expand scope).map (t, ·) with
  | some found => .ok found
  | none => .error (.missingScope n.id (Text.distinct (n.links.flatMap (·.missing scope))))

/-- Where a query leads. -/
structure Resolution where
  node : Node
  link : String
  template : Link.Template
  score : UInt32

/-- Resolves a query among candidates. -/
def Weights.resolve (w : Weights) (q : Query) (scope : Scope) (candidates : List Node) :
    Except ResolveError Resolution :=
  match w.rank q candidates with
  | [] => .error .noMatch
  | best :: _ => do
    let (template, link) ← best.node.expandFirst scope
    return ⟨best.node, link, template, best.score⟩

end Wayfinder
