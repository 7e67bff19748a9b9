import Wayfinder.Toml.Scalar
import Wayfinder.Toml.Table

/-!
# TOML values from text

A text is a list of lines: entries, headers that say which table the entries below them belong to,
and comments.
-/

namespace Wayfinder.Toml

/-! ## Blanks and comments -/

/-- The text with a line feed for every line end. -/
def unifyBreaks : List Char → List Char
  | [] => []
  | '\r' :: '\n' :: cs => '\n' :: unifyBreaks cs
  | c :: cs => c :: unifyBreaks cs

/-- What follows the blanks at the front. -/
def skipBlanks (cs : List Char) : List Char :=
  cs.dropWhile isBlank

/-- What follows blanks, line ends and comments. -/
def skipLines (comment : Bool) : List Char → Option (List Char)
  | [] => some []
  | c :: cs =>
    if c = '\n' then skipLines false cs
    else if comment then if isTextChar c then skipLines true cs else none
    else if isBlank c then skipLines false cs
    else if c = '#' then skipLines true cs
    else some (c :: cs)

/-- What follows the end of a line on which nothing but a comment is left. -/
def endLine? (cs : List Char) : Option (List Char) :=
  match skipBlanks cs with
  | [] => some []
  | '\n' :: cs => some cs
  | '#' :: cs =>
    match cs.dropWhile isTextChar with
    | [] => some []
    | '\n' :: cs => some cs
    | _ => none
  | _ => none

/-! ## Keys -/

/-- A character of a key without quotes. -/
def isKeyChar (c : Char) : Bool :=
  c.isAlphanum || c = '_' || c = '-'

/-- A part of a key. -/
def keyPart? (cs : List Char) : Option (String × List Char) :=
  match cs with
  | '"' :: cs => (basicFrom 0 cs).map fun (t, rest) => (String.ofList t, rest)
  | '\'' :: cs => (literal? cs).map fun (t, rest) => (String.ofList t, rest)
  | cs =>
    let name := cs.takeWhile isKeyChar
    if name.isEmpty then none else some (String.ofList name, cs.dropWhile isKeyChar)

/-- A dotted key: the parts before the last, the last, and what follows it and the blanks behind
it. -/
def key? : (fuel : Nat) → List Char → Option (List String × String × List Char)
  | 0, _ => none
  | fuel + 1, cs => do
    let (k, cs) ← keyPart? (skipBlanks cs)
    match skipBlanks cs with
    | '.' :: cs =>
      let (ks, last, cs) ← key? fuel cs
      return (k :: ks, last, cs)
    | cs => return ([], k, cs)

/-- A dotted key with the sign that a value follows, and the blanks behind it. -/
def keyOfValue? (cs : List Char) : Option (List String × String × List Char) := do
  let (path, key, cs) ← key? (cs.length + 1) cs
  return (path, key, skipBlanks (← after? '=' cs))

/-! ## Values -/

mutual

/-- A value. -/
def value? : (fuel : Nat) → List Char → Option (Toml × List Char)
  | 0, _ => none
  | fuel + 1, cs =>
    match cs with
    | '[' :: cs => (items? fuel cs).map fun (vs, rest) => (list vs, rest)
    | '{' :: cs =>
      match skipBlanks cs with
      | '}' :: rest => some (table [], rest)
      | cs => (entries? [] fuel cs).map fun (es, rest) => (table (Item.ofEntries es), rest)
    | cs => scalar? cs

/-- The items of a list up to its closing bracket. A comma may follow the last one. -/
def items? : (fuel : Nat) → List Char → Option (List Toml × List Char)
  | 0, _ => none
  | fuel + 1, cs => do
    match ← skipLines false cs with
    | ']' :: rest => return ([], rest)
    | cs =>
      let (v, cs) ← value? fuel cs
      match ← skipLines false cs with
      | ',' :: cs =>
        let (vs, rest) ← items? fuel cs
        return (v :: vs, rest)
      | ']' :: rest => return ([v], rest)
      | _ => none

/-- The entries of a table in braces up to its end, after those already read. -/
def entries? (es : Entries) : (fuel : Nat) → List Char → Option (Entries × List Char)
  | 0, _ => none
  | fuel + 1, cs => do
    let (path, key, cs) ← keyOfValue? cs
    let (v, cs) ← value? fuel cs
    let es ← es.addValue path key v
    match skipBlanks cs with
    | ',' :: cs => entries? es fuel cs
    | '}' :: rest => return (es, rest)
    | _ => none

end

/-! ## Documents -/

/-- The entries of a document after those already read. The entries that follow belong to the table
of `header`. -/
def lines? (header : List String) (es : Entries) : (fuel : Nat) → List Char → Option Entries
  | 0, _ => none
  | fuel + 1, cs => do
    match ← skipLines false cs with
    | [] => return es
    | '[' :: '[' :: cs =>
      let (path, key, cs) ← key? (cs.length + 1) cs
      let cs ← endLine? (← after? ']' (← after? ']' cs))
      lines? (path ++ [key]) (← es.addTable path key) fuel cs
    | '[' :: cs =>
      let (path, key, cs) ← key? (cs.length + 1) cs
      let cs ← endLine? (← after? ']' cs)
      lines? (path ++ [key]) (← es.define path key) fuel cs
    | cs =>
      let (path, key, cs) ← keyOfValue? cs
      let (v, cs) ← value? (cs.length + 1) cs
      lines? header (← es.addUnder header path key v) fuel (← endLine? cs)

/-- The table that a text writes. -/
def ofText? (s : String) : Option Toml := do
  let cs := unifyBreaks (match s.toList with
    | '\uFEFF' :: cs => cs
    | cs => cs)
  return table (Item.ofEntries (← lines? [] [] (cs.length + 1) cs))

end Wayfinder.Toml
