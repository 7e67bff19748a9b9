import Wayfinder.Policy.Basic

/-!
# Filter values of a screen

The values that a user has set, in the order in which their keys were first set. An inactive
value, a toggle that is off or an empty text, is kept but counts for nothing.
-/

namespace Wayfinder

/-- Filter values under their keys. -/
abbrev FilterStore := OrderedMap FilterValue

namespace FilterStore

/-- Sets a value, or removes it. -/
def set (s : FilterStore) (key : String) : Option FilterValue → FilterStore
  | some v => s.insert key v
  | none => s.erase key

/-- The key has an active value. -/
def isActive (s : FilterStore) (key : String) : Bool :=
  (s.get? key).any FilterValue.isActive

/-- How many values are active. -/
def activeCount (s : FilterStore) : Nat :=
  s.entries.countP (·.2.isActive)

/-- The active values. -/
def normalized (s : FilterStore) : FilterStore :=
  s.filter fun _ v => v.isActive

/-- Removes everything but an active value of the search key. -/
def clear (s : FilterStore) (searchKey : Option String) : FilterStore :=
  s.filter fun k v => searchKey = some k && v.isActive

end FilterStore

end Wayfinder
