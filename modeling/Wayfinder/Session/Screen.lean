import Wayfinder.Filter.Data
import Wayfinder.Node.Data
import Wayfinder.Preset.Switch

/-!
# Screens

An opened node: its policy under the lens of the session, the actions on offer, and a filter bar
that the user works with from then on.
-/

namespace Wayfinder

/-- An opened node. -/
structure Screen where
  node : Node
  lens : Lens
  policy : EffectivePolicy
  actions : List Action
  filters : FilterState

namespace Screen

/-- The policy hides a column. -/
def isColumnHidden (s : Screen) (column : String) : Bool :=
  column ∈ s.policy.policy.hiddenColumns

/-- The filter keys that are shown. -/
def visibleFilters (s : Screen) : VisibleKeys :=
  s.filters.visible s.lens.current

/-- Sets or removes a filter value. -/
def setFilter (s : Screen) (key : String) (value : Option FilterValue) :
    Except FilterError Screen := do
  return { s with filters := ← s.filters.set key value }

/-- Removes all filter values but an active search text. -/
def clearFilters (s : Screen) : Screen :=
  { s with filters := s.filters.clear }

/-- The query that restores the filter bar. -/
def query (s : Screen) : String :=
  s.filters.toQuery

/-- All of a screen. -/
def toJson (s : Screen) : Json :=
  .obj [
    ("node", s.node.toJson),
    ("preset", .term s.lens.current),
    ("read_only", .bool s.lens.readOnly),
    ("policy", .obj [
      ("policy", s.policy.policy.toJson),
      ("source", .str s.policy.source.name),
      ("requested", .term s.policy.requested)]),
    ("actions", .arr (s.actions.map Action.toJson)),
    ("filters", s.filters.toJson)]

end Screen

end Wayfinder
