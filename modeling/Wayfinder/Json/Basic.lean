import Wayfinder.Data.Tree

/-!
# JSON values

Objects keep the order of their members, and members may share a name.
-/

namespace Wayfinder

/-- A JSON value. -/
inductive Json
  | null
  | bool (b : Bool)
  | int (n : Int)
  | str (s : String)
  | arr (items : List Json)
  | obj (members : List (String × Json))
  /-- A well-formed value that is none of the above: a number with a fraction or an exponent,
  minus zero, a text with an unpaired surrogate. No type of this library reads it. -/
  | foreign
deriving Inhabited, Repr

namespace Json

/-- The member of an object. -/
def member? (name : String) : Json → Option Json
  | obj ms => OrderedMap.find? name ms
  | _ => none

/-- The object without the members that are absent. -/
def objOf (members : List (String × Option Json)) : Json :=
  obj (members.filterMap fun m => m.2.map (m.1, ·))

/-- A list of texts. -/
def texts (ss : List String) : Json :=
  arr (ss.map str)

/-- A term by its name. -/
def term {α : Type} [Term α] (a : α) : Json :=
  str (Term.name a)

/-- Terms by their names. -/
def terms {α : Type} [Term α] (as : List α) : Json :=
  arr (as.map term)

/-- A list may stand for a record: it gives the first fields in their order. A name may also be
written as the only member of an object, with nothing in it. -/
instance : DataTree Json where
  text?
    | str s => some s
    | _ => none
  flag?
    | bool b => some b
    | _ => none
  int?
    | int n => some n
    | _ => none
  isNull
    | null => true
    | _ => false
  list?
    | arr vs => some vs
    | _ => none
  entries?
    | obj ms => some ms
    | _ => none
  record? names
    | obj ms => some ms
    | arr vs => if vs.length ≤ names.length then some (names.zip vs) else none
    | _ => none
  name?
    | str s => some s
    | obj [(s, null)] => some s
    | _ => none
  plain?
    | bool b => some (.inl b)
    | str s => some (.inr s)
    | _ => none

/-! ## Members in sorted order -/

mutual

/-- The members of every object in ascending order of their names. -/
def sorted : Json → Json
  | arr vs => arr (sortedItems vs)
  | obj ms => obj ((sortedMembers ms).mergeSort fun a b => !decide (b.1 < a.1))
  | v => v

/-- The same for the items of a list. -/
def sortedItems : List Json → List Json
  | [] => []
  | v :: vs => sorted v :: sortedItems vs

/-- The same for the values of members, the members in their places. -/
def sortedMembers : List (String × Json) → List (String × Json)
  | [] => []
  | (k, v) :: ms => (k, sorted v) :: sortedMembers ms

end

end Json

end Wayfinder
