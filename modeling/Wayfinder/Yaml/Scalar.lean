import Wayfinder.Yaml.Source
import Wayfinder.OrderedMap
import Wayfinder.Text.Digits

/-!
# YAML scalars

The five ways to write a text: plain, between single or double quotes, and as a block of lines that
are kept or folded. In all but the kept block a single line end stands for a space, and of several
line ends the first is dropped.
-/

namespace Wayfinder.Yaml

/-! ## Folding -/

/-- What a run of line ends stands for. -/
def foldBreaks : List Char → List Char
  | ['\n'] => [' ']
  | '\n' :: more => more
  | breaks => breaks

/-- What a run of blanks and line ends between two parts of a text stands for: the blanks, unless
there is a line end. -/
def foldGap (gap : List Char) : List Char :=
  if gap.any isBreak then foldBreaks (gap.filter isBreak) else gap

/-! ## Plain scalars -/

/-- Characters that separate the parts of lists and records written in brackets. -/
def isFlowMark (c : Char) : Bool :=
  c ∈ [',', '[', ']', '\x7b', '\x7d']

/-- The characters of a plain scalar up to a blank, a line end, or what ends it; none if a colon
stands where it may not. -/
def plainRun (flow : Bool) : List Char → Option (List Char)
  | [] => some []
  | c :: cs =>
    if isGap c || (flow && isFlowMark c) || (c = ':' && cs.head?.all isGap) then some []
    else if flow && c = ':' && cs.head?.any (fun d => isFlowMark d || d = '?') then none
    else (plainRun flow cs).map (c :: ·)

/-- A tab stands among the first `indent` characters of a line, the first line not counted. -/
def tabInIndent (indent : Nat) (gap : List Char) : Bool :=
  match gap.dropWhile isBlank with
  | [] => false
  | _ :: more => ((more.splitOnP isBreak).any fun line => '\t' ∈ line.take indent)

/-- What a plain scalar gives: its text, the place after it and the gap behind it, and whether that
gap holds a line end. -/
structure PlainEnd where
  text : List Char
  source : Source
  newLine : Bool

/-- Reads a plain scalar. Outside brackets each further line is indented by at least `indent`. -/
def plainScalar (flow : Bool) (indent : Nat) : (fuel : Nat) → Source → Option PlainEnd
  | 0, _ => none
  | fuel + 1, s =>
    if s.atDocumentMark || s.rest.head? = some '#' then some ⟨[], s, false⟩
    else do
      let run ← plainRun flow s.rest
      let s := s.skip run.length
      let gap := s.rest.takeWhile isGap
      if gap.isEmpty then return ⟨run, s, false⟩
      if tabInIndent indent gap then none
      let s := s.skip gap.length
      let last : PlainEnd := ⟨run, s, gap.any isBreak⟩
      if !flow && s.column < indent then return last
      let more ← plainScalar flow indent fuel s
      if more.text.isEmpty then return last
      return { more with text := run ++ foldGap gap ++ more.text }

/-! ## Quoted scalars -/

/-- A part of a text between double quotes. -/
inductive Part
  /-- A character as it stands. -/
  | char (c : Char)
  /-- A character given by an escape. -/
  | escaped (c : Char)
  /-- An escaped line end. -/
  | join
deriving DecidableEq

/-- The part is a blank or a line end as it stands. -/
def Part.isGap : Part → Bool
  | char c => Yaml.isGap c
  | _ => false

/-- The characters up to the closing single quote; a quote written twice is one. -/
def singleParts : List Char → Option (List Part × Nat)
  | [] => none
  | '\'' :: '\'' :: cs => (singleParts cs).map fun (ps, n) => (.escaped '\'' :: ps, n + 2)
  | '\'' :: _ => some ([], 1)
  | c :: cs => (singleParts cs).map fun (ps, n) => (.char c :: ps, n + 1)

/-- The character that a backslash and `c` stand for. -/
def shortEscape? (c : Char) : Option Char :=
  OrderedMap.find? (String.singleton c) [
    ("0", '\x00'), ("a", '\x07'), ("b", '\x08'), ("t", '\t'), ("\t", '\t'), ("n", '\n'),
    ("v", '\x0b'), ("f", '\x0c'), ("r", '\r'), ("e", '\x1b'), (" ", ' '), ("\"", '"'),
    ("/", '/'), ("\\", '\\'), ("N", '\u0085'), ("_", '\u00a0'), ("L", '\u2028'),
    ("P", '\u2029')]

/-- How many hexadecimal digits follow a backslash and `c`. -/
def escapeWidth (c : Char) : Nat :=
  if c = 'x' then 2 else if c = 'u' then 4 else if c = 'U' then 8 else 0

/-- The character with the number that hexadecimal digits write. -/
def numberedChar? (digits : List Char) : Option Char := do
  let n ← Text.number? 16 digits
  if n.isValidChar then return Char.ofNat n else none

/-- The parts up to the closing double quote, after the first `skip` characters, which belong to an
escape already read. -/
def doubleParts : (skip : Nat) → List Char → Option (List Part × Nat)
  | _, [] => none
  | skip + 1, _ :: cs => (doubleParts skip cs).map fun (ps, n) => (ps, n + 1)
  | 0, '"' :: _ => some ([], 1)
  | 0, '\\' :: cs => do
    let c ← cs.head?
    let (part, width) ←
      if isBreak c then some (.join, 0)
      else if escapeWidth c = 0 then (shortEscape? c).map (.escaped ·, 0)
      else do
        let width := escapeWidth c
        if cs.length ≤ width then none
        some (.escaped (← numberedChar? ((cs.drop 1).take width)), width)
    let (ps, n) ← doubleParts (width + 1) cs
    return (part :: ps, n + 1)
  | 0, c :: cs => (doubleParts 0 cs).map fun (ps, n) => (.char c :: ps, n + 1)

/-- The characters of parts, each run of blanks and line ends folded. Right after an escaped line
end every further one counts, and blanks do not. -/
def joinParts (joined : Bool) : List (List Part) → List Char
  | [] => []
  | ps :: pss =>
    let cs := ps.filterMap fun
      | .char c | .escaped c => some c
      | .join => none
    if ps.any Part.isGap then
      (if joined then cs.filter isBreak else foldGap cs) ++ joinParts false pss
    else cs ++ joinParts (ps.getLast? = some .join) pss

/-- A line after the first starts with the mark between two documents. -/
def marksDocument (cs : List Char) : Bool :=
  match cs with
  | [] => false
  | c :: cs => (isBreak c && ({ rest := cs } : Source).atDocumentMark) || marksDocument cs

/-- Reads a quoted scalar. -/
def quotedScalar (double : Bool) (s : Source) : Option (List Char × Source) := do
  let body := s.rest.drop 1
  let (ps, n) ← if double then doubleParts 0 body else singleParts body
  if marksDocument (body.take n) then none
  return (joinParts false (ps.splitBy fun a b => a.isGap = b.isGap), s.skip (n + 1))

/-! ## Block scalars -/

/-- What becomes of the line ends after the last line of a block. -/
inductive Chomp
  | strip | clip | keep
deriving DecidableEq

/-- What follows the indicator of a block on its line. -/
structure BlockHeader where
  chomp : Chomp := .clip
  /-- The indentation of the block relative to what it stands in. -/
  indent : Option Nat := none

/-- The digit of an indentation, and what follows it. -/
def blockIndent? : List Char → Option (Option Nat × List Char)
  | c :: cs =>
    if c = '0' then none
    else if c.isDigit then some (some (c.toNat - '0'.toNat), cs)
    else some (none, c :: cs)
  | [] => some (none, [])

/-- The sign of a chomping, and what follows it. -/
def blockChomp? : List Char → Option (Chomp × List Char)
  | '-' :: cs => some (.strip, cs)
  | '+' :: cs => some (.keep, cs)
  | _ => none

/-- Reads the header of a block up to the end of its line; a comment may follow. -/
def blockHeader? (cs : List Char) : Option (BlockHeader × List Char) := do
  let (header, cs) : BlockHeader × List Char ← match blockChomp? cs with
    | some (chomp, cs) => (blockIndent? cs).map fun (indent, cs) => (⟨chomp, indent⟩, cs)
    | none => (blockIndent? cs).map fun (indent, cs) =>
      match indent.bind fun _ => blockChomp? cs with
      | some (chomp, cs) => (⟨chomp, indent⟩, cs)
      | none => (⟨.clip, indent⟩, cs)
  match cs.dropWhile isBlank with
  | [] => return (header, [])
  | c :: cs =>
    if c = '#' then return (header, (cs.dropWhile (!isBreak ·)).drop 1)
    else if isBreak c then return (header, cs)
    else none

/-- A line with what ends it; nothing ends the last line of a text. -/
structure Line where
  chars : List Char
  ending : List Char

/-- The lines of a text. The last one may be empty. -/
def linesOf : List Char → List Line
  | [] => [⟨[], []⟩]
  | c :: cs =>
    if isBreak c then ⟨[], [c]⟩ :: linesOf cs
    else match linesOf cs with
      | l :: ls => { l with chars := c :: l.chars } :: ls
      | [] => []

/-- How many spaces a line starts with. -/
def Line.indent (l : Line) : Nat :=
  (l.chars.takeWhile (· = ' ')).length

/-- The line has no characters but spaces, and it is not the last one of the text. -/
def Line.isSpaces (l : Line) : Bool :=
  l.chars.all (· = ' ') && !l.ending.isEmpty

/-- The indentation that the lines at the front of a block show. -/
def shownIndent (ls : List Line) : Nat :=
  let (blank, rest) := ls.span Line.isSpaces
  ((blank ++ rest.take 1).map Line.indent).foldl max 0

/-- The lines that belong to a block with this indentation, the indentation taken off; none if a
tab stands in the indentation of a line. -/
def blockLines (indent : Nat) : List Line → Option (List Line)
  | [] => some []
  | l :: ls =>
    let cs := l.chars.drop (min indent l.indent)
    if l.indent < indent && cs.head? = some '\t' then none
    else if (cs.isEmpty && !l.ending.isEmpty) || (indent ≤ l.indent && !cs.isEmpty) then
      (blockLines indent ls).map (⟨cs, l.ending⟩ :: ·)
    else some []

/-- The text of a block after a line that ended with `ending`, and the line ends `breaks` of empty
lines. A line that starts with a blank is not folded. -/
def blockText (folded : Bool) (chomp : Chomp) (blank : Bool) (ending breaks : List Char) :
    List Line → List Char
  | [] =>
    (if chomp = .strip then [] else ending) ++ (if chomp = .keep then breaks else [])
  | l :: ls =>
    if l.chars.isEmpty then blockText folded chomp blank ending (breaks ++ l.ending) ls
    else
      let blank' := l.chars.head?.any isBlank
      let gap :=
        if folded && ending = ['\n'] && !blank && !blank' then foldBreaks ('\n' :: breaks)
        else ending ++ breaks
      gap ++ l.chars ++ blockText folded chomp blank' l.ending [] ls

/-- Reads a block scalar that stands in something with the indentation `outer`, if in anything. -/
def blockScalar (folded : Bool) (outer : Option Nat) (s : Source) :
    Option (List Char × Source) := do
  let (header, body) ← blockHeader? (s.rest.drop 1)
  let ls := linesOf body
  let least := (outer.map (· + 1)).getD 0
  let indent ← match header.indent with
    | some n => some ((outer.getD 0) + n)
    | none =>
      let shown := shownIndent ls
      if (ls.dropWhile Line.isSpaces).head?.any
        (fun l => (l.chars.drop l.indent).head? = some '\t') then none
      else some (max (max shown least) 1)
  let lines ← blockLines indent ls
  let taken := (ls.take lines.length).map fun l => l.chars.length + l.ending.length
  let headLength := s.rest.length - body.length
  return (blockText folded header.chomp false [] [] lines, s.skip (taken.foldl (· + ·) headLength))

end Wayfinder.Yaml
