import Wayfinder.Node.Basic
import Wayfinder.Policy.Data

/-!
# Nodes in data files

How templates and nodes are read from any data file and written as JSON.
-/

namespace Wayfinder

open DataTree

variable {V : Type} [DataTree V]

/-! ## Templates -/

/-- Reads a template; it requires nothing unless it says so. -/
def Link.Template.read? (v : V) : Option Link.Template := do
  let fs ← fields? ["pattern", "required_params"] v
  return {
    pattern := ← required? fs "pattern" text?
    requiredParams := ← field? fs "required_params" (listOf? text?) [] }

/-- A template with both its parts. -/
def Link.Template.toJson (t : Link.Template) : Json :=
  .obj [("pattern", .str t.pattern), ("required_params", .texts t.requiredParams)]

/-! ## Nodes -/

/-- Reads a 32-bit whole number. -/
def int32? (v : V) : Option Int32 :=
  (intIn? Int32.minValue.toInt Int32.maxValue.toInt v).map Int32.ofInt

/-- Reads a node; id, label, route, domain and default preset must be there. -/
def Node.read? (v : V) : Option Node := do
  let fs ← fields? ["node_id", "label", "route", "domain", "required_capabilities", "intents",
    "canonical_questions", "entities", "keywords", "metrics", "default_preset", "preset_policies",
    "deep_link_templates", "priority", "scope_hints"] v
  return {
    id := ← required? fs "node_id" text?
    label := ← required? fs "label" text?
    route := ← required? fs "route" text?
    domain := ← required? fs "domain" term?
    requiredCapabilities := ← field? fs "required_capabilities" termSet? .empty
    intents := ← field? fs "intents" termSet? .empty
    questions := ← field? fs "canonical_questions" (listOf? text?) []
    entities := ← field? fs "entities" termSet? .empty
    keywords := ← field? fs "keywords" (listOf? text?) []
    metrics := ← field? fs "metrics" (listOf? text?) []
    defaultPreset := ← required? fs "default_preset" term?
    policies := ← field? fs "preset_policies" Policies.read? {}
    links := ← field? fs "deep_link_templates" (listOf? Link.Template.read?) []
    priority := ← field? fs "priority" int32? 0
    scopeHints := ← field? fs "scope_hints" (listOf? text?) [] }

/-- A node with all its fields. -/
def Node.toJson (n : Node) : Json :=
  .obj [
    ("node_id", .str n.id),
    ("label", .str n.label),
    ("route", .str n.route),
    ("domain", .term n.domain),
    ("required_capabilities", .terms n.requiredCapabilities.toList),
    ("intents", .terms n.intents.toList),
    ("canonical_questions", .texts n.questions),
    ("entities", .terms n.entities.toList),
    ("keywords", .texts n.keywords),
    ("metrics", .texts n.metrics),
    ("default_preset", .term n.defaultPreset),
    ("preset_policies", n.policies.toJson),
    ("deep_link_templates", .arr (n.links.map Link.Template.toJson)),
    ("priority", .int n.priority.toInt),
    ("scope_hints", .texts n.scopeHints)]

end Wayfinder
