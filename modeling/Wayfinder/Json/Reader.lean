import Wayfinder.Json.Basic
import Wayfinder.Text.Digits

/-!
# JSON values from text

A strict reader: one value, blanks around it, nothing else. The text is read from the front; every
step answers with what it read and the characters that follow.
-/

namespace Wayfinder.Json

open Text (hexDigit?)

/-! ## Leaves -/

/-- The four blanks of JSON. -/
def isSpace (c : Char) : Bool :=
  c = ' ' || c = '\t' || c = '\n' || c = '\r'

/-- What follows the blanks at the front. -/
def skipSpace (cs : List Char) : List Char :=
  cs.dropWhile isSpace

/-- The value of four hexadecimal digits. -/
def hex4? (a b c d : Char) : Option Nat := do
  return (((← hexDigit? a) * 16 + (← hexDigit? b)) * 16 + (← hexDigit? c)) * 16 + (← hexDigit? d)

/-- A piece of a text: a character, or a 16-bit unit that an escape gave by number. -/
inductive Piece
  | char (c : Char)
  | unit (n : Nat)

/-- The character that a backslash and `c` stand for. -/
def shortEscape? (c : Char) : Option Char :=
  match c with
  | '"' => some '"'
  | '\\' => some '\\'
  | '/' => some '/'
  | 'b' => some '\x08'
  | 'f' => some '\x0c'
  | 'n' => some '\n'
  | 'r' => some '\r'
  | 't' => some '\t'
  | _ => none

/-- The pieces of a text up to its closing quote. -/
def pieces : List Char → Option (List Piece × List Char)
  | [] => none
  | '"' :: cs => some ([], cs)
  | '\\' :: 'u' :: a :: b :: c :: d :: cs => do
    let n ← hex4? a b c d
    let (ps, rest) ← pieces cs
    return (.unit n :: ps, rest)
  | '\\' :: c :: cs => do
    let e ← shortEscape? c
    let (ps, rest) ← pieces cs
    return (.char e :: ps, rest)
  | c :: cs =>
    if c.toNat < 0x20 ∨ c = '\\' then none
    else do
      let (ps, rest) ← pieces cs
      return (.char c :: ps, rest)

/-- The characters of pieces: a high and a low surrogate make one character, and none stands
alone. -/
def joinPieces : List Piece → Option (List Char)
  | [] => some []
  | .char c :: ps => (joinPieces ps).map (c :: ·)
  | .unit n :: .unit m :: ps =>
    if 0xD800 ≤ n ∧ n < 0xDC00 ∧ 0xDC00 ≤ m ∧ m < 0xE000 then
      (joinPieces ps).map (Char.ofNat (0x10000 + (n - 0xD800) * 0x400 + (m - 0xDC00)) :: ·)
    else if 0xD800 ≤ n ∧ n < 0xE000 then none
    else (joinPieces (.unit m :: ps)).map (Char.ofNat n :: ·)
  | .unit n :: ps =>
    if 0xD800 ≤ n ∧ n < 0xE000 then none else (joinPieces ps).map (Char.ofNat n :: ·)

/-- A text after its opening quote; none if a surrogate stands alone in it. -/
def text? (cs : List Char) : Option (Option String × List Char) :=
  (pieces cs).map fun (ps, rest) => ((joinPieces ps).map String.ofList, rest)

/-- The digits at the front, at least one. -/
def digits? (cs : List Char) : Option (List Char × List Char) :=
  let ds := cs.takeWhile Char.isDigit
  if ds.isEmpty then none else some (ds, cs.dropWhile Char.isDigit)

/-- The number that decimal digits write. -/
def decimal (ds : List Char) : Nat :=
  ds.foldl (fun n d => n * 10 + (d.toNat - '0'.toNat)) 0

/-- What follows a fraction, if one is at the front. -/
def skipFraction? : List Char → Option (List Char)
  | '.' :: cs => (digits? cs).map (·.2)
  | cs => some cs

/-- What follows an exponent, if one is at the front. -/
def skipExponent? : List Char → Option (List Char)
  | c :: s :: cs =>
    if c = 'e' ∨ c = 'E' then
      if s = '+' ∨ s = '-' then (digits? cs).map (·.2) else (digits? (s :: cs)).map (·.2)
    else some (c :: s :: cs)
  | [c] => if c = 'e' ∨ c = 'E' then none else some [c]
  | [] => some []

/-- A number after its sign: digits without a leading zero, a fraction, an exponent. -/
def number? (negative : Bool) (cs : List Char) : Option (Json × List Char) := do
  let (ds, cs₁) ← digits? cs
  if ds.length > 1 ∧ ds.head? = some '0' then none
  let cs₂ ← skipExponent? (← skipFraction? cs₁)
  let whole := cs₂.length = cs₁.length ∧ ¬ (negative = true ∧ decimal ds = 0)
  let n : Int := if negative then -decimal ds else decimal ds
  return (if whole then int n else foreign, cs₂)

/-! ## Values -/

/-- The object with these members; one with a name that is no text is read by nothing. -/
def objOf? (ms : List (Option String × Json)) : Json :=
  match ms.mapM fun m => m.1.map (·, m.2) with
  | some ms => obj ms
  | none => foreign

mutual

/-- A value after the blanks before it. -/
def value? : (fuel : Nat) → List Char → Option (Json × List Char)
  | 0, _ => none
  | fuel + 1, cs =>
    match skipSpace cs with
    | 'n' :: 'u' :: 'l' :: 'l' :: cs => some (null, cs)
    | 't' :: 'r' :: 'u' :: 'e' :: cs => some (bool true, cs)
    | 'f' :: 'a' :: 'l' :: 's' :: 'e' :: cs => some (bool false, cs)
    | '"' :: cs => (text? cs).map fun (s, cs) => ((s.map str).getD foreign, cs)
    | '[' :: cs =>
      match skipSpace cs with
      | ']' :: cs => some (arr [], cs)
      | cs => (items? fuel cs).map fun (vs, cs) => (arr vs, cs)
    | '{' :: cs =>
      match skipSpace cs with
      | '}' :: cs => some (obj [], cs)
      | cs => (members? fuel cs).map fun (ms, cs) => (objOf? ms, cs)
    | '-' :: cs => number? true cs
    | cs => number? false cs

/-- The items of a list up to its closing bracket. -/
def items? : (fuel : Nat) → List Char → Option (List Json × List Char)
  | 0, _ => none
  | fuel + 1, cs => do
    let (v, cs) ← value? fuel cs
    match skipSpace cs with
    | ',' :: cs =>
      let (vs, cs) ← items? fuel cs
      return (v :: vs, cs)
    | ']' :: cs => return ([v], cs)
    | _ => none

/-- The members of an object up to its closing brace. -/
def members? : (fuel : Nat) → List Char → Option (List (Option String × Json) × List Char)
  | 0, _ => none
  | fuel + 1, cs =>
    match skipSpace cs with
    | '"' :: cs => do
      let (k, cs) ← text? cs
      match skipSpace cs with
      | ':' :: cs =>
        let (v, cs) ← value? fuel cs
        match skipSpace cs with
        | ',' :: cs =>
          let (ms, cs) ← members? fuel cs
          return ((k, v) :: ms, cs)
        | '}' :: cs => return ([(k, v)], cs)
        | _ => none
      | _ => none
    | _ => none

end

/-- The value that a text writes. A list or an object that is not empty takes two steps and has two
brackets, and every further item takes one step and has a comma before it, so that the number of
characters bounds the steps. -/
def ofText? (s : String) : Option Json := do
  let cs := s.toList
  let (v, rest) ← value? (cs.length + 1) cs
  if skipSpace rest = [] then return v else none

end Wayfinder.Json
