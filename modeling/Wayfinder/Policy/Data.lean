import Wayfinder.Policy.Effective
import Wayfinder.Json.Basic

/-!
# Policies in data files

How filter values, actions and policies are read from any data file and written as JSON. What is
written leaves out empty parts, and what is read puts the same empty parts in their place.
-/

namespace Wayfinder

open DataTree

variable {V : Type} [DataTree V]

/-! ## Filter values -/

/-- Reads a flag or a text by what the value says it is. -/
def FilterValue.read? (v : V) : Option FilterValue :=
  (plain? v).map fun
    | .inl b => .flag b
    | .inr s => .text s

/-- A flag or a text. -/
def FilterValue.toJson : FilterValue → Json
  | flag b => .bool b
  | text s => .str s

/-- Filter values under their keys. -/
def filterValuesToJson (m : OrderedMap FilterValue) : Json :=
  .obj (m.entries.map fun e => (e.1, e.2.toJson))

/-! ## Actions -/

/-- Reads an action. -/
def Action.read? (v : V) : Option Action := do
  let fs ← fields? ["key", "label", "required_capability", "mutating"] v
  return {
    key := ← required? fs "key" text?
    label := ← required? fs "label" text?
    requiredCapability := ← field? fs "required_capability" (nullable term?) none
    mutating := ← field? fs "mutating" flag? false }

/-- An action, its required capability only if there is one. -/
def Action.toJson (a : Action) : Json :=
  .objOf [
    ("key", some (.str a.key)),
    ("label", some (.str a.label)),
    ("required_capability", a.requiredCapability.map .term),
    ("mutating", some (.bool a.mutating))]

/-! ## Policies -/

/-- Reads a policy; every part has a default. -/
def Policy.read? (v : V) : Option Policy := do
  let fs ← fields? ["density", "default_right_panel_state", "default_filters", "hidden_columns",
    "highlighted_metrics", "suggested_actions"] v
  return {
    density := ← field? fs "density" term? .standard
    panel := ← field? fs "default_right_panel_state" term? .closed
    defaultFilters := ← field? fs "default_filters" (mapOf? FilterValue.read?) {}
    hiddenColumns := ← field? fs "hidden_columns" (listOf? text?) []
    highlightedMetrics := ← field? fs "highlighted_metrics" (listOf? text?) []
    suggestedActions := ← field? fs "suggested_actions" (listOf? Action.read?) [] }

/-- The value, unless a test says that it is empty. -/
def nonempty (isEmpty : Bool) (j : Json) : Option Json :=
  if isEmpty then none else some j

/-- A policy without its empty parts. -/
def Policy.toJson (p : Policy) : Json :=
  .objOf [
    ("density", some (.term p.density)),
    ("default_right_panel_state", some (.term p.panel)),
    ("default_filters", nonempty p.defaultFilters.isEmpty (filterValuesToJson p.defaultFilters)),
    ("hidden_columns", nonempty p.hiddenColumns.isEmpty (.texts p.hiddenColumns)),
    ("highlighted_metrics", nonempty p.highlightedMetrics.isEmpty (.texts p.highlightedMetrics)),
    ("suggested_actions",
      nonempty p.suggestedActions.isEmpty (.arr (p.suggestedActions.map Action.toJson)))]

/-- Reads policies under the names of their presets; the last one for a preset counts. -/
def Policies.read? (v : V) : Option Policies := do
  let entry := fun (e : String × V) => do
    return ((← Term.ofName? e.1 : Preset), (← Policy.read? e.2))
  return .ofList (← (← entries? v).mapM entry)

/-- Policies under the names of their presets. -/
def Policies.toJson (ps : Policies) : Json :=
  .obj (ps.toList.map fun e => (e.1.name, e.2.toJson))

end Wayfinder
