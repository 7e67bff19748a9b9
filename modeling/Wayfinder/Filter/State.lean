import Wayfinder.Filter.Query

/-!
# The filter bar of a screen

A schema and the values set for it. Only declared keys can be set, and defaults are filled in only
while no value is active.
-/

namespace Wayfinder

/-- The values of a filter bar. -/
structure FilterState where
  schema : FilterSchema
  values : FilterStore := {}

namespace FilterState

/-- The filter bar that a query describes. -/
def ofQuery (schema : FilterSchema) (query : String) : FilterState :=
  ⟨schema, .ofQuery query schema.keys⟩

/-- The defaults that a schema declares keys for. -/
def declaredDefaults (s : FilterState) (defaults : OrderedMap FilterValue) :
    List (String × FilterValue) :=
  defaults.entries.filter fun e => s.schema.contains e.1

/-- Some default would be filled in. -/
def seeds (s : FilterState) (defaults : OrderedMap FilterValue) : Bool :=
  s.values.activeCount = 0 && !(s.declaredDefaults defaults).isEmpty

/-- Fills in the defaults of declared keys if no value is active. -/
def seed (s : FilterState) (defaults : OrderedMap FilterValue) : FilterState :=
  if s.values.activeCount = 0 then
    { s with values := s.values.insertAll (s.declaredDefaults defaults) }
  else s

/-- Sets or removes the value of a declared key. -/
def set (s : FilterState) (key : String) (value : Option FilterValue) :
    Except FilterError FilterState :=
  if s.schema.contains key then .ok { s with values := FilterStore.set s.values key value }
  else .error (.unknownKey key)

/-- Removes all values but an active search text. -/
def clear (s : FilterState) : FilterState :=
  { s with values := FilterStore.clear s.values (s.schema.searchKey?.map FilterKey.key) }

/-- The query that the filter bar is restored from. -/
def toQuery (s : FilterState) : String :=
  FilterStore.toQuery s.values s.schema.keys

/-- How many values are active. -/
def activeCount (s : FilterState) : Nat :=
  FilterStore.activeCount s.values

/-- The keys that are shown under a preset. -/
def visible (s : FilterState) (p : Preset) : VisibleKeys :=
  s.schema.visible p

end FilterState

end Wayfinder
