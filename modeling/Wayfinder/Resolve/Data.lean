import Wayfinder.Resolve.Ranking
import Wayfinder.Json.Basic
import Wayfinder.Policy.Data

/-!
# Queries and weights in data files
-/

namespace Wayfinder

open DataTree

variable {V : Type} [DataTree V]

/-- Reads a 32-bit count. -/
def uint32? (v : V) : Option UInt32 :=
  (intIn? 0 0xFFFFFFFF v).map fun n => .ofNat n.toNat

/-- Reads weights; each has a default. -/
def Weights.read? (v : V) : Option Weights := do
  let fs ← fields? ["intent", "keyword", "entity"] v
  return {
    intent := ← field? fs "intent" uint32? 3
    keyword := ← field? fs "keyword" uint32? 2
    entity := ← field? fs "entity" uint32? 1 }

/-- All three weights. -/
def Weights.toJson (w : Weights) : Json :=
  .obj [
    ("intent", .int w.intent.toNat),
    ("keyword", .int w.keyword.toNat),
    ("entity", .int w.entity.toNat)]

/-- Reads a query; every part may be missing. -/
def Query.read? (v : V) : Option Query := do
  let fs ← fields? ["text", "intent", "entity_hints"] v
  return {
    text := ← field? fs "text" (nullable text?) none
    intent := ← field? fs "intent" (nullable term?) none
    entityHints := ← field? fs "entity_hints" (listOf? term?) [] }

/-- A query without its empty parts. -/
def Query.toJson (q : Query) : Json :=
  .objOf [
    ("text", q.text.map .str),
    ("intent", q.intent.map .term),
    ("entity_hints", nonempty q.entityHints.isEmpty (.terms q.entityHints))]

end Wayfinder
