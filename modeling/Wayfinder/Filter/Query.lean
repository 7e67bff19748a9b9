import Wayfinder.Filter.Store
import Wayfinder.Filter.Schema
import Wayfinder.Url.Form

/-!
# Filter values in a URL

The query of a screen's URL carries the active values of the declared keys, in declared order. A
toggle that is on is written as `true`; nothing else read for a toggle sets it. For every other
key the text is taken as it comes. Of a parameter that occurs several times the first counts.
-/

namespace Wayfinder

namespace FilterValue

/-- What a query writes for a value. -/
def queryText : FilterValue → String
  | flag _ => "true"
  | text s => s

end FilterValue

namespace FilterKey

/-- The pair that a query carries for a key. -/
def queryPair? (k : FilterKey) (s : FilterStore) : Option (String × String) :=
  ((s.get? k.key).filter FilterValue.isActive).map fun v => (k.key, v.queryText)

/-- The value that a parameter's text gives to a key. -/
def readValue? (k : FilterKey) (raw : String) : Option FilterValue :=
  if k.kind = .boolean then if raw = "true" then some (.flag true) else none
  else some (.text raw)

end FilterKey

namespace FilterStore

/-- The query for the active values of declared keys. -/
def toQuery (s : FilterStore) (keys : List FilterKey) : String :=
  Url.encodePairs (keys.filterMap (·.queryPair? s))

/-- A query without one leading question mark. -/
def withoutMark : List Char → List Char
  | '?' :: cs => cs
  | cs => cs

/-- What the parameters of a query say about a key. -/
def readKey? (params : List (String × String)) (k : FilterKey) : Option (String × FilterValue) :=
  ((OrderedMap.find? k.key params).bind k.readValue?).map (k.key, ·)

/-- The values that a query gives to declared keys, in declared order. -/
def ofQuery (query : String) (keys : List FilterKey) : FilterStore :=
  let params := Url.decodePairs (withoutMark query.toList)
  .ofList (keys.filterMap (readKey? params))

end FilterStore

end Wayfinder
