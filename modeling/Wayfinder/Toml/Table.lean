import Wayfinder.Toml.Basic
import Wayfinder.OrderedMap

/-!
# TOML tables under construction

A table can be made in several ways, and how it was made decides what may still be added to it: a
header defines it once, a dotted key adds only to what dotted keys made, and what was only implied
by the header of a table in it may be defined later.
-/

namespace Wayfinder.Toml

/-- How a table came to be. -/
inductive Origin
  /-- By its own header. -/
  | defined
  /-- By the header of a table in it. -/
  | implied
  /-- By a dotted key. -/
  | dotted
deriving DecidableEq

/-- What a key stands for while a document is read. -/
inductive Item
  | value (v : Toml)
  | table (origin : Origin) (entries : List (String × Item))
  /-- Tables that one header added one by one: the last one, and those before it, newest first. -/
  | tables (last : List (String × Item)) (earlier : List (List (String × Item)))

/-- The entries of a table under construction. -/
abbrev Entries := List (String × Item)

namespace Item

mutual

/-- The value of what was read. -/
def toToml : Item → Toml
  | value v => v
  | table _ es => .table (ofEntries es)
  | tables last earlier => .list (ofEarlier earlier [.table (ofEntries last)])

/-- The same for entries. -/
def ofEntries : List (String × Item) → List (String × Toml)
  | [] => []
  | (k, i) :: es => (k, toToml i) :: ofEntries es

/-- The tables, newest first, before those that follow them. -/
def ofEarlier : List (List (String × Item)) → List Toml → List Toml
  | [], following => following
  | t :: ts, following => ofEarlier ts (.table (ofEntries t) :: following)

end

end Item

namespace Entries

/-- Changes the entries of the table that a path leads to. Tables that are missing are made with
the origin `made`; a dotted path does not enter a table that a header defined. -/
def atPath (made : Origin) (change : Origin → Entries → Option Entries) :
    (path : List String) → Origin → Entries → Option Entries
  | [], origin, es => change origin es
  | k :: ks, _, es =>
    match OrderedMap.find? k es with
    | none => (atPath made change ks made []).map fun t => OrderedMap.put k (.table made t) es
    | some (.value _) => none
    | some (.table origin t) =>
      if made = .dotted ∧ origin = .defined then none
      else (atPath made change ks origin t).map fun t => OrderedMap.put k (.table origin t) es
    | some (.tables last earlier) =>
      (atPath made change ks .defined last).map fun t => OrderedMap.put k (.tables t earlier) es

/-- Adds a value under a dotted key. -/
def addValue (path : List String) (key : String) (v : Toml) (es : Entries) : Option Entries :=
  let add := fun (origin : Origin) (es : Entries) =>
    if (path.isEmpty || origin = .dotted) && (OrderedMap.find? key es).isNone then
      some (es ++ [(key, .value v)])
    else none
  atPath .dotted add path .defined es

/-- Adds a value under a dotted key to the table of a header. -/
def addUnder (header path : List String) (key : String) (v : Toml) (es : Entries) :
    Option Entries :=
  atPath .implied (fun _ es => addValue path key v es) header .defined es

/-- Defines the table of a header. -/
def define (path : List String) (key : String) (es : Entries) : Option Entries :=
  let add := fun (_ : Origin) (es : Entries) =>
    match OrderedMap.find? key es with
    | none => some (OrderedMap.put key (.table .defined []) es)
    | some (.table .implied t) => some (OrderedMap.put key (.table .defined t) es)
    | some _ => none
  atPath .implied add path .defined es

/-- Adds a table to those of a header. -/
def addTable (path : List String) (key : String) (es : Entries) : Option Entries :=
  let add := fun (_ : Origin) (es : Entries) =>
    match OrderedMap.find? key es with
    | none => some (OrderedMap.put key (.tables [] []) es)
    | some (.tables last earlier) => some (OrderedMap.put key (.tables [] (last :: earlier)) es)
    | some _ => none
  atPath .implied add path .defined es

end Entries

end Wayfinder.Toml
