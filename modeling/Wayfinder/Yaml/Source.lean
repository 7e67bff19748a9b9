/-!
# YAML text with places

A YAML text is read from the front. Its layout carries meaning, so what is left of the text knows
the line and the column where it starts. All ways to end a line but two are read as a line feed.
-/

namespace Wayfinder.Yaml

/-! ## Characters -/

/-- Spaces and tabs. -/
def isBlank (c : Char) : Bool :=
  c = ' ' || c = '\t'

/-- Characters that end a line. -/
def isBreak (c : Char) : Bool :=
  c = '\n' || c = '\u2028' || c = '\u2029'

/-- Blanks and line ends. -/
def isGap (c : Char) : Bool :=
  isBlank c || isBreak c

/-- Characters that may occur in a text. -/
def isAllowed (c : Char) : Bool :=
  let n := c.toNat
  n = 0x9 || n = 0xA || n = 0xD || n = 0x85 || (0x20 ≤ n && n ≤ 0x7E) ||
    (0xA0 ≤ n && n ≤ 0xFFFD && n ≠ 0xFEFF) || 0x10000 ≤ n

/-- The text with a line feed for a carriage return, for both together, and for a next-line
character. -/
def unifyBreaks : List Char → List Char
  | [] => []
  | '\r' :: '\n' :: cs => '\n' :: unifyBreaks cs
  | c :: cs => (if c = '\r' || c = '\u0085' then '\n' else c) :: unifyBreaks cs

/-! ## Places -/

/-- What is left of a text, and where it starts. -/
structure Source where
  rest : List Char
  line : Nat := 0
  column : Nat := 0
  index : Nat := 0

namespace Source

/-- The text that may be read from: without a mark of the byte order at its front, and without
characters that are not allowed. -/
def ofText? (s : String) : Option Source :=
  let cs := match s.toList with
    | '\uFEFF' :: cs => cs
    | cs => cs
  if cs.all isAllowed then some { rest := unifyBreaks cs } else none

/-- After the next character. -/
def next (s : Source) : Source :=
  match s.rest with
  | [] => s
  | c :: cs =>
    if isBreak c then ⟨cs, s.line + 1, 0, s.index + 1⟩
    else ⟨cs, s.line, s.column + 1, s.index + 1⟩

/-- After so many characters. -/
def skip : Nat → Source → Source
  | 0, s => s
  | n + 1, s => skip n s.next

/-- The text ends before the character number `k`, or a blank or a line end is there. -/
def gapAt (s : Source) (k : Nat) : Bool :=
  s.rest[k]?.all isGap

/-- The text starts with three such characters, and nothing sticks to them. -/
def startsMark (c : Char) (s : Source) : Bool :=
  s.rest.take 3 = [c, c, c] && s.gapAt 3

/-- A line starts here with the mark between two documents. -/
def atDocumentMark (s : Source) : Bool :=
  s.column = 0 && (s.startsMark '-' || s.startsMark '.')

end Source

end Wayfinder.Yaml
