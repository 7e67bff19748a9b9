import Wayfinder.Vocabulary.TermSet
import Wayfinder.OrderedMap

/-!
# Reading values out of data files

A data file is a tree of texts, flags, numbers, lists and records. The formats differ in what
their leaves may stand for, so each format says for itself how a value answers when it is asked
for as a text, a flag, a record and so on; readers of domain types ask only these questions.
-/

namespace Wayfinder

/-- What a reader may ask a value of a data file. -/
class DataTree (V : Type) where
  /-- The value as a text. -/
  text? : V → Option String
  /-- The value as a flag. -/
  flag? : V → Option Bool
  /-- The value as a whole number. -/
  int? : V → Option Int
  /-- The value says that there is none. -/
  isNull : V → Bool
  /-- The value as a list. -/
  list? : V → Option (List V)
  /-- The value as a list of keys with their values, repeated keys included. -/
  entries? : V → Option (List (String × V))
  /-- The value as a record with these fields. Some formats let a list give them by position. -/
  record? : List String → V → Option (List (String × V))
  /-- The value as the name of a term. -/
  name? : V → Option String
  /-- The flag or text that the value is when nothing is known about what is wanted. -/
  plain? : V → Option (Bool ⊕ String)

namespace DataTree

variable {V β : Type} [DataTree V]

/-! ## Leaves and lists -/

/-- A whole number from `lo` to `hi`. -/
def intIn? (lo hi : Int) (v : V) : Option Int :=
  (int? v).filter fun n => lo ≤ n && n ≤ hi

/-- A term by its exact name. -/
def term? {α : Type} [Term α] (v : V) : Option α :=
  (name? v).bind Term.ofName?

/-- A list of values that `read` accepts. -/
def listOf? (read : V → Option β) (v : V) : Option (List β) :=
  (list? v).bind (·.mapM read)

/-- A set of terms, as a list in which terms may repeat. -/
def termSet? {α : Type} [DecidableEq α] [Term α] (v : V) : Option (TermSet α) :=
  (listOf? term? v).map TermSet.ofList

/-- A value that may be none. -/
def nullable (read : V → Option β) (v : V) : Option (Option β) :=
  if isNull v then some none else (read v).map some

/-- The values of an ordered map: a repeated key keeps its first place and its last value. -/
def mapOf? (read : V → Option β) (v : V) : Option (OrderedMap β) := do
  let entries ← entries? v
  let read' := fun (e : String × V) => (read e.2).map (e.1, ·)
  return OrderedMap.ofList (← entries.mapM read')

/-! ## Records -/

/-- The fields of a record. A known field given twice is refused, an unknown one ignored. -/
def fields? (names : List String) (v : V) : Option (List (String × V)) := do
  let fs ← record? names v
  if ((fs.map Prod.fst).filter (· ∈ names)).Nodup then return fs else none

/-- A field that must be there. -/
def required? (fs : List (String × V)) (name : String) (read : V → Option β) : Option β :=
  (OrderedMap.find? name fs).bind read

/-- A field with a default; if it is there, its value is read. -/
def field? (fs : List (String × V)) (name : String) (read : V → Option β) (default : β) :
    Option β :=
  match OrderedMap.find? name fs with
  | none => some default
  | some v => read v

end DataTree

end Wayfinder
