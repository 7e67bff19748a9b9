import Wayfinder.Toml.Basic
import Wayfinder.Text.Digits

/-!
# TOML scalars

Texts between quotes, numbers, dates and times. Every reader answers with what it read and the
characters that follow.
-/

namespace Wayfinder.Toml

/-! ## Characters -/

/-- Spaces and tabs. -/
def isBlank (c : Char) : Bool :=
  c = ' ' || c = '\t'

/-- Characters of texts and comments: controls other than the tab are none. -/
def isTextChar (c : Char) : Bool :=
  c = '\t' || (0x20 ≤ c.toNat && c.toNat ≠ 0x7F)

/-! ## Texts -/

/-- The character that an escape after its backslash stands for, and its length. -/
def escape? : List Char → Option (Char × Nat)
  | [] => none
  | c :: cs => do
    let numbered := fun (width : Nat) => do
      let ds := cs.take width
      let n ← Text.number? 16 ds
      if ds.length = width ∧ n.isValidChar then return (Char.ofNat n, width + 1) else none
    match c with
    | 'b' => return ('\x08', 1)
    | 't' => return ('\t', 1)
    | 'n' => return ('\n', 1)
    | 'f' => return ('\x0c', 1)
    | 'r' => return ('\r', 1)
    | '"' => return ('"', 1)
    | '\\' => return ('\\', 1)
    | 'u' => numbered 4
    | 'U' => numbered 8
    | _ => none

/-- A text up to its closing double quote, after the first `skip` characters, which belong to an
escape already read. -/
def basicFrom : (skip : Nat) → List Char → Option (List Char × List Char)
  | _, [] => none
  | skip + 1, _ :: cs => basicFrom skip cs
  | 0, c :: cs =>
    if c = '"' then some ([], cs)
    else if c = '\\' then do
      let (e, n) ← escape? cs
      let (t, rest) ← basicFrom n cs
      return (e :: t, rest)
    else if isTextChar c then (basicFrom 0 cs).map fun (t, rest) => (c :: t, rest)
    else none

/-- A text up to its closing single quote. -/
def literal? : List Char → Option (List Char × List Char)
  | [] => none
  | c :: cs =>
    if c = '\'' then some ([], cs)
    else if isTextChar c then (literal? cs).map fun (t, rest) => (c :: t, rest)
    else none

/-- Three quotes close a text of several lines, and up to two more before them belong to it. The
answer for a run of quotes after the first of them: the quotes of the text and what follows. -/
def closing? (quote : Char) (cs : List Char) : Option (List Char × List Char) :=
  let n := (cs.takeWhile (· = quote)).length + 1
  if n ≤ 5 then some (List.replicate (n - 3) quote, cs.drop (n - 1)) else none

/-- At least two more quotes follow the first one. -/
def closes (quote : Char) (cs : List Char) : Bool :=
  cs.take 2 = [quote, quote]

/-- How many characters follow a backslash that ends its line: blanks and line ends up to the next
other character. -/
def joinLength? (cs : List Char) : Option Nat :=
  if (cs.dropWhile isBlank).head? = some '\n' then
    some (cs.takeWhile fun c => isBlank c || c = '\n').length
  else none

/-- A text of several lines up to its closing double quotes, after the first `skip` characters. -/
def longBasicFrom : (skip : Nat) → List Char → Option (List Char × List Char)
  | _, [] => none
  | skip + 1, _ :: cs => longBasicFrom skip cs
  | 0, c :: cs =>
    if c = '"' && closes '"' cs then closing? '"' cs
    else if c = '\\' then
      match joinLength? cs with
      | some n => longBasicFrom n cs
      | none => do
        let (e, n) ← escape? cs
        let (t, rest) ← longBasicFrom n cs
        return (e :: t, rest)
    else if isTextChar c || c = '\n' then
      (longBasicFrom 0 cs).map fun (t, rest) => (c :: t, rest)
    else none

/-- A text of several lines up to its closing single quotes. -/
def longLiteral? : List Char → Option (List Char × List Char)
  | [] => none
  | c :: cs =>
    if c = '\'' && closes '\'' cs then closing? '\'' cs
    else if isTextChar c || c = '\n' then
      (longLiteral? cs).map fun (t, rest) => (c :: t, rest)
    else none

/-- The text without a line end at its front. -/
def dropNewline : List Char → List Char
  | '\n' :: cs => cs
  | cs => cs

/-- A text in any of the four kinds of quotes. -/
def text? : List Char → Option (List Char × List Char)
  | '"' :: '"' :: '"' :: cs => longBasicFrom 0 (dropNewline cs)
  | '"' :: cs => basicFrom 0 cs
  | '\'' :: '\'' :: '\'' :: cs => longLiteral? (dropNewline cs)
  | '\'' :: cs => literal? cs
  | _ => none

/-! ## Numbers -/

/-- The digits at the front; single underscores may stand between two of them. -/
def digits? (isDigit : Char → Bool) (cs : List Char) : Option (List Char × List Char) :=
  let p := fun c => isDigit c || c = '_'
  let run := cs.takeWhile p
  if (run.splitOn '_').any List.isEmpty then none
  else some (run.filter (· ≠ '_'), cs.dropWhile p)

/-- A whole number in 64 bits. -/
def int64? (n : Int) : Option Toml :=
  if -0x8000000000000000 ≤ n ∧ n ≤ 0x7FFFFFFFFFFFFFFF then some (int n) else none

/-- A whole number of a base, after its mark. -/
def based? (base : Nat) (cs : List Char) : Option (Toml × List Char) := do
  let (ds, rest) ← digits? (fun c => (Text.digit? base c).isSome) cs
  return (← int64? (← Text.number? base ds), rest)

/-- The fraction and the exponent that follow a whole number, if there is one of them: the digits
of the fraction, and the exponent. -/
def fraction? (cs : List Char) : Option ((List Char × Int) × List Char) := do
  let (part, cs) ← match cs with
    | '.' :: cs => digits? Char.isDigit cs
    | cs => some ([], cs)
  match cs with
  | c :: cs' =>
    if c = 'e' || c = 'E' then
      let (sign, cs') : Int × List Char := match cs' with
        | '-' :: cs' => (-1, cs')
        | '+' :: cs' => (1, cs')
        | cs' => (1, cs')
      let (ds, rest) ← digits? Char.isDigit cs'
      return ((part, sign * (← Text.number? 10 ds)), rest)
    else return ((part, 0), cs)
  | [] => return ((part, 0), [])

/-- A decimal number after its sign. A whole number has no leading zero, and a positive fraction
has a size that 64 bits can hold. -/
def decimal? (negative : Bool) (cs : List Char) : Option (Toml × List Char) := do
  let (ds, rest) ← digits? Char.isDigit cs
  if ds.length > 1 ∧ ds.head? = some '0' then none
  let n : Int ← Text.number? 10 ds
  if rest.head? = some '.' ∨ rest.head? = some 'e' ∨ rest.head? = some 'E' then
    let ((part, e), rest) ← fraction? rest
    let fits := Text.fitsFloat (← Text.number? 10 (ds ++ part)) (e - part.length)
    if negative || fits then return (float, rest) else none
  else return (← int64? (if negative then -n else n), rest)

/-- A number after its sign, or one of the two names. -/
def signed? (negative : Bool) : List Char → Option (Toml × List Char)
  | 'i' :: 'n' :: 'f' :: cs => some (float, cs)
  | 'n' :: 'a' :: 'n' :: cs => some (float, cs)
  | cs => decimal? negative cs

/-- A number. -/
def number? : List Char → Option (Toml × List Char)
  | '+' :: cs => signed? false cs
  | '-' :: cs => signed? true cs
  | '0' :: 'x' :: cs => based? 16 cs
  | '0' :: 'o' :: cs => based? 8 cs
  | '0' :: 'b' :: cs => based? 2 cs
  | cs => signed? false cs

/-! ## Dates and times -/

/-- A number of exactly `width` digits from `lo` to `hi`. -/
def field? (width lo hi : Nat) (cs : List Char) : Option (Nat × List Char) := do
  let ds := cs.take width
  let n ← Text.number? 10 ds
  if ds.length = width ∧ lo ≤ n ∧ n ≤ hi then return (n, cs.drop width) else none

/-- The rest after a character that has to be there. -/
def after? (c : Char) : List Char → Option (List Char)
  | d :: cs => if d = c then some cs else none
  | [] => none

/-- The length of a month. -/
def monthLength (year month : Nat) : Nat :=
  if month = 2 then
    if year % 4 = 0 ∧ (year % 100 ≠ 0 ∨ year % 400 = 0) then 29 else 28
  else if month ∈ [4, 6, 9, 11] then 30 else 31

/-- What follows a date. -/
def date? (cs : List Char) : Option (List Char) := do
  let (year, cs) ← field? 4 0 9999 cs
  let (month, cs) ← field? 2 1 12 (← after? '-' cs)
  let (_, cs) ← field? 2 1 (monthLength year month) (← after? '-' cs)
  return cs

/-- What follows a time of the day. -/
def time? (cs : List Char) : Option (List Char) := do
  let (_, cs) ← field? 2 0 23 cs
  let (_, cs) ← field? 2 0 59 (← after? ':' cs)
  let (_, cs) ← field? 2 0 60 (← after? ':' cs)
  match cs with
  | '.' :: d :: ds => if d.isDigit then return ds.dropWhile Char.isDigit else return cs
  | cs => return cs

/-- What follows an offset from universal time, if one is at the front. -/
def skipOffset (cs : List Char) : List Char :=
  let offset := fun cs => do
    let (_, cs) ← field? 2 0 23 cs
    let (_, cs) ← field? 2 0 59 (← after? ':' cs)
    return cs
  match cs with
  | [] => []
  | c :: rest =>
    if c = 'Z' || c = 'z' then rest
    else if c = '+' || c = '-' then (offset rest).getD cs
    else cs

/-- What follows a date, a time or both. -/
def moment? (cs : List Char) : Option (List Char) :=
  match date? cs with
  | none => time? cs
  | some rest =>
    match rest with
    | c :: more =>
      if c = 'T' || c = 't' || c = ' ' then some (((time? more).map skipOffset).getD rest)
      else some rest
    | [] => some []

/-- A value that is neither a list nor a table. -/
def scalar? (cs : List Char) : Option (Toml × List Char) :=
  match cs with
  | 't' :: 'r' :: 'u' :: 'e' :: rest => some (flag true, rest)
  | 'f' :: 'a' :: 'l' :: 's' :: 'e' :: rest => some (flag false, rest)
  | c :: _ =>
    if c = '"' || c = '\'' then (text? cs).map fun (t, rest) => (text (String.ofList t), rest)
    else match moment? cs with
      | some rest => some (moment, rest)
      | none => number? cs
  | [] => none

end Wayfinder.Toml
