import Wayfinder.Data.Tree
import Wayfinder.Text.Digits

/-!
# YAML values

A plain scalar may stand for a text, a flag, a number or nothing, and what it is depends on what is
asked for: as a text it is always the characters written. All other scalars are texts.
-/

namespace Wayfinder

/-- A YAML value. -/
inductive Yaml
  | scalar (plain : Bool) (text : String)
  | list (items : List Yaml)
  | map (entries : List (Yaml × Yaml))
deriving Inhabited, Repr

namespace Yaml

/-- The scalar where nothing is written. -/
def blank : Yaml := scalar true ""

/-! ## What plain scalars stand for -/

/-- The plain scalar stands for nothing. -/
def isNullText (s : String) : Bool :=
  s ∈ ["", "~", "null", "Null", "NULL"]

/-- The flag that a plain scalar stands for. -/
def flagOf? (s : String) : Option Bool :=
  if s ∈ ["true", "True", "TRUE"] then some true
  else if s ∈ ["false", "False", "FALSE"] then some false
  else none

/-- More than one digit, the first of them zero. -/
def hasLeadingZero (cs : List Char) : Bool :=
  cs.length > 1 && cs.head? = some '0' && cs.all Char.isDigit

/-- The number that a plain scalar without a sign stands for: decimal digits without a leading
zero, or digits of another base after its mark. -/
def natOf? (cs : List Char) : Option Nat :=
  match cs with
  | '0' :: 'x' :: ds => Text.number? 16 ds
  | '0' :: 'o' :: ds => Text.number? 8 ds
  | '0' :: 'b' :: ds => Text.number? 2 ds
  | ds => if hasLeadingZero ds then none else Text.number? 10 ds

/-- The whole number that a plain scalar stands for. -/
def intOf? (s : String) : Option Int :=
  match s.toList with
  | '+' :: cs => (natOf? cs).map Int.ofNat
  | '-' :: cs => (natOf? cs).map fun n => -(n : Int)
  | cs => (natOf? cs).map Int.ofNat

/-- Takes the digits at the front. -/
def spanDigits (cs : List Char) : List Char × List Char :=
  cs.span Char.isDigit

/-- The exponent that a decimal fraction ends with. -/
def exponent? : List Char → Option Int
  | [] => some 0
  | c :: cs =>
    if c = 'e' || c = 'E' then
      match cs with
      | '+' :: ds => (Text.number? 10 ds).map Int.ofNat
      | '-' :: ds => (Text.number? 10 ds).map fun n => -(n : Int)
      | ds => (Text.number? 10 ds).map Int.ofNat
    else none

/-- The digits and the exponent of a decimal fraction without a sign. -/
def fraction? (cs : List Char) : Option (Nat × Int) := do
  let (whole, cs) := spanDigits cs
  let (part, cs) := match cs with
    | '.' :: cs => spanDigits cs
    | cs => ([], cs)
  let n ← Text.number? 10 (whole ++ part)
  return (n, (← exponent? cs) - part.length)

/-- The plain scalar stands for a floating-point number of 64 bits. -/
def isFloatText (s : String) : Bool :=
  let unsigned := match s.toList with
    | '+' :: cs | '-' :: cs => cs
    | cs => cs
  if hasLeadingZero unsigned then false
  else if String.ofList unsigned ∈ [".inf", ".Inf", ".INF"] then true
  else if s ∈ [".nan", ".NaN", ".NAN"] then true
  else (fraction? unsigned).any fun (n, e) => Text.fitsFloat n e

/-- The plain scalar stands for a whole number of at most 128 bits. -/
def isIntText (s : String) : Bool :=
  (intOf? s).any fun n =>
    -0x80000000000000000000000000000000 ≤ n && n ≤ 0xFFFFFFFFFFFFFFFFFFFFFFFFFFFFFFFF

/-- What a scalar is when nothing is known about what is wanted. -/
def plainOf? (s : String) : Option (Bool ⊕ String) :=
  if isNullText s then none
  else match flagOf? s with
    | some b => some (.inl b)
    | none => if isIntText s || isFloatText s then none else some (.inr s)

/-! ## Reading -/

/-- The text of a scalar. -/
def text? : Yaml → Option String
  | scalar _ s => some s
  | _ => none

/-- The keys and values of a map whose keys are scalars. -/
def entries? : Yaml → Option (List (String × Yaml))
  | scalar true "" => some []
  | map es => es.mapM fun e => e.1.text?.map (·, e.2)
  | _ => none

/-- Nothing written stands for an empty list and for a record without fields. -/
instance : DataTree Yaml where
  text? := text?
  flag?
    | scalar true s => flagOf? s
    | _ => none
  int?
    | scalar true s => intOf? s
    | _ => none
  isNull
    | scalar true s => isNullText s
    | _ => false
  list?
    | scalar true "" => some []
    | list vs => some vs
    | _ => none
  entries? := entries?
  record? _ := entries?
  name? := text?
  plain?
    | scalar true s => plainOf? s
    | scalar false s => some (.inr s)
    | _ => none

end Yaml

end Wayfinder
