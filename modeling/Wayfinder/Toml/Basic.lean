import Wayfinder.Data.Tree

/-!
# TOML values
-/

namespace Wayfinder

/-- A TOML value. -/
inductive Toml
  | text (s : String)
  | flag (b : Bool)
  | int (n : Int)
  /-- A floating-point number. No type of this library reads it. -/
  | float
  /-- A date, a time or both. No field of any record of this library is part of it. -/
  | moment
  | list (items : List Toml)
  | table (entries : List (String × Toml))
deriving Inhabited, Repr

namespace Toml

/-- A list may stand for a record: it gives the first fields in their order, and items beyond the
last field are ignored. A name may also be written as the only key of a table, with nothing in
it. -/
instance : DataTree Toml where
  text?
    | text s => some s
    | _ => none
  flag?
    | flag b => some b
    | _ => none
  int?
    | int n => some n
    | _ => none
  isNull _ := false
  list?
    | list vs => some vs
    | _ => none
  entries?
    | table es => some es
    | _ => none
  record? names
    | table es => some es
    | list vs => some (names.zip vs)
    | moment => some []
    | _ => none
  name?
    | text s => some s
    | table [(s, table [])] => some s
    | table [(s, list [])] => some s
    | _ => none
  plain?
    | flag b => some (.inl b)
    | text s => some (.inr s)
    | _ => none

end Toml

end Wayfinder
