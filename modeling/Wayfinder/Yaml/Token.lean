import Wayfinder.Yaml.Scalar

/-!
# YAML tokens

A text is cut into tokens from its front. Blocks are shown by indentation alone, so tokens that
open and close them are put in where the indentation changes; and only a colon shows that what
stands before it is a key, so the token that announces a key is put in after the key was read.
-/

namespace Wayfinder.Yaml

/-- A token. -/
inductive Token
  | directive
  | documentStart
  | documentEnd
  | blockListStart
  | blockMapStart
  | blockEnd
  | flowListStart
  | flowListEnd
  | flowMapStart
  | flowMapEnd
  /-- A dash before an item of a block. -/
  | entry
  /-- A comma between brackets. -/
  | comma
  /-- What follows is a key. -/
  | key
  /-- What follows is the value of a key. -/
  | value
  | anchor (name : String)
  | alias (name : String)
  | tag
  | scalar (plain : Bool) (text : String)
deriving DecidableEq, Repr

/-- What may turn out to be a key: it ends on its line and within 1024 characters. -/
structure KeyPlace where
  /-- How many tokens stand before it. -/
  tokens : Nat
  /-- It starts where the keys of its block start, so that a colon has to follow. -/
  needed : Bool
  source : Source

/-- What has been read of a text, and where reading stands. -/
structure Scan where
  source : Source
  /-- The newest token first. -/
  tokens : List Token := []
  /-- The columns of the open blocks, the innermost first. -/
  indents : List Nat := []
  /-- A key may start here. -/
  keyAllowed : Bool := true
  /-- What may turn out to be a key between the innermost brackets. -/
  pending : Option KeyPlace := none
  /-- The same for each pair of brackets around those. -/
  outer : List (Option KeyPlace) := []

namespace Scan

/-- Reading stands between brackets. -/
def inFlow (s : Scan) : Bool := !s.outer.isEmpty

/-! ## Keys -/

/-- Gives up what might have turned out to be a key. -/
def dropKey (s : Scan) : Option Scan :=
  if s.pending.any (·.needed) then none else some { s with pending := none }

/-- Notes that what starts here may turn out to be a key. -/
def noteKey (s : Scan) : Option Scan :=
  if s.keyAllowed then do
    let s ← s.dropKey
    let needed := !s.inFlow && s.indents.head? = some s.source.column
    return { s with pending := some ⟨s.tokens.length, needed, s.source⟩ }
  else some s

/-- What might have been a key is none any more at a place. -/
def KeyPlace.isStale (k : KeyPlace) (here : Source) : Bool :=
  k.source.line < here.line || k.source.index + 1024 < here.index

/-- Gives up all that cannot turn out to be a key any more. -/
def dropStale (s : Scan) : Option Scan :=
  let stale := fun k => KeyPlace.isStale k s.source
  if (s.pending :: s.outer).any (·.any fun k => stale k && k.needed) then none
  else some { s with
    pending := s.pending.filter (!stale ·)
    outer := s.outer.map (·.filter (!stale ·)) }

/-! ## Blocks -/

/-- Puts in a token after the first `n`. -/
def putIn (s : Scan) (n : Nat) (t : Token) : Scan :=
  { s with tokens := s.tokens.insertIdx (s.tokens.length - n) t }

/-- Opens a block at a column unless one is open there. -/
def openBlock (s : Scan) (column n : Nat) (t : Token) : Scan :=
  if !s.inFlow && s.indents.head?.all (· < column) then
    { s.putIn n t with indents := column :: s.indents }
  else s

/-- Closes the blocks at `column` and to the right of it. -/
def closeBlocks (s : Scan) (column : Nat) : Scan :=
  if s.inFlow then s
  else
    let closed := s.indents.takeWhile (column ≤ ·)
    { s with
      tokens := List.replicate closed.length Token.blockEnd ++ s.tokens
      indents := s.indents.dropWhile (column ≤ ·) }

/-! ## Tokens -/

/-- Adds a token for the next `n` characters. -/
def push (s : Scan) (n : Nat) (t : Token) : Scan :=
  { s with tokens := t :: s.tokens, source := s.source.skip n }

/-- How many characters stand before the next token, and whether a key may start there. Outside
brackets a tab may not stand where a key may start. -/
def gapLength (flow : Bool) : (keyAllowed comment : Bool) → List Char → Nat × Bool
  | keyAllowed, _, [] => (0, keyAllowed)
  | keyAllowed, comment, c :: cs =>
    let more := fun (keyAllowed comment : Bool) =>
      let (n, k) := gapLength flow keyAllowed comment cs
      (n + 1, k)
    if isBreak c then more (keyAllowed || !flow) false
    else if comment then more keyAllowed true
    else if c = ' ' || (c = '\t' && (flow || !keyAllowed)) then more keyAllowed false
    else if c = '#' then more keyAllowed true
    else (0, keyAllowed)

/-- Goes to the next token. -/
def skipGap (s : Scan) : Scan :=
  let (n, keyAllowed) := gapLength s.inFlow s.keyAllowed false s.source.rest
  { s with source := s.source.skip n, keyAllowed }

/-- A mark or a directive between documents. -/
def betweenDocuments (s : Scan) (n : Nat) (t : Token) : Option Scan := do
  let s ← (s.closeBlocks 0).dropKey
  return { s.push n t with keyAllowed := false }

/-- The length of a directive that names a supported version. -/
def directiveLength? (cs : List Char) : Option Nat := do
  let line := cs.takeWhile (!isBreak ·)
  let words := (line.splitOnP isBlank).filter (!·.isEmpty)
  match words with
  | name :: version :: more =>
    let comment := more.head?.all (·.head? = some '#')
    if name = "%YAML".toList && comment &&
      (version = "1.1".toList || version = "1.2".toList) then line.length else none
  | _ => none

/-- An opening bracket. -/
def openFlow (s : Scan) (t : Token) : Option Scan := do
  let s ← s.noteKey
  return { s.push 1 t with keyAllowed := true, pending := none, outer := s.pending :: s.outer }

/-- A closing bracket. -/
def closeFlow (s : Scan) (t : Token) : Option Scan := do
  let s ← s.dropKey
  return { s.push 1 t with
    keyAllowed := false, pending := s.outer.headD none, outer := s.outer.tail }

/-- A comma between brackets. -/
def comma (s : Scan) : Option Scan := do
  let s ← s.dropKey
  return { s.push 1 .comma with keyAllowed := true }

/-- Opens a block at this column, where a key may start. -/
def startsBlock (s : Scan) (t : Token) : Option Scan :=
  if s.inFlow then some s
  else if s.keyAllowed then some (s.openBlock s.source.column s.tokens.length t)
  else none

/-- A dash before an item. -/
def entry (s : Scan) : Option Scan := do
  let s ← (← s.startsBlock .blockListStart).dropKey
  return { s.push 1 .entry with keyAllowed := true }

/-- A question mark before a key. -/
def key (s : Scan) : Option Scan := do
  let s ← (← s.startsBlock .blockMapStart).dropKey
  return { s.push 1 .key with keyAllowed := !s.inFlow }

/-- A colon before a value: what was read last may have been the key. -/
def value (s : Scan) : Option Scan :=
  match s.pending with
  | some k =>
    let s := (s.putIn k.tokens .key).openBlock k.source.column k.tokens .blockMapStart
    some { s.push 1 .value with keyAllowed := false, pending := none }
  | none => do
    let s ← s.startsBlock .blockMapStart
    return { s.push 1 .value with keyAllowed := !s.inFlow }

/-- A character of the name of an anchor. -/
def isAnchorChar (c : Char) : Bool :=
  c.isAlphanum || c = '_' || c = '-'

/-- An anchor or a reference to one. -/
def anchor (s : Scan) (t : String → Token) : Option Scan := do
  let s ← s.noteKey
  let name := (s.source.rest.drop 1).takeWhile isAnchorChar
  let ends := (s.source.rest.drop (name.length + 1)).head?.all fun c =>
    isGap c || isFlowMark c || c ∈ ['?', ':', '%', '@', '\x60']
  if name.isEmpty || !ends then none
  return { s.push (name.length + 1) (t (String.ofList name)) with keyAllowed := false }

/-- A tag. -/
def tag (s : Scan) : Option Scan := do
  let s ← s.noteKey
  let name := s.source.rest.takeWhile fun c => !isGap c && !(s.inFlow && c = ',')
  return { s.push name.length .tag with keyAllowed := false }

/-- A block scalar. -/
def block (s : Scan) (folded : Bool) : Option Scan := do
  let s ← s.dropKey
  let (cs, source) ← blockScalar folded s.indents.head? s.source
  return { s with
    source, tokens := .scalar false (String.ofList cs) :: s.tokens, keyAllowed := true }

/-- A quoted scalar. -/
def quoted (s : Scan) (double : Bool) : Option Scan := do
  let s ← s.noteKey
  let (cs, source) ← quotedScalar double s.source
  return { s with
    source, tokens := .scalar false (String.ofList cs) :: s.tokens, keyAllowed := false }

/-- A plain scalar. After a line end a key may start. -/
def plain (s : Scan) : Option Scan := do
  let s ← s.noteKey
  let indent := (s.indents.head?.map (· + 1)).getD 0
  let e ← plainScalar s.inFlow indent (s.source.rest.length + 1) s.source
  return { s with
    source := e.source
    tokens := .scalar true (String.ofList e.text) :: s.tokens
    keyAllowed := e.newLine }

/-- A plain scalar may start with this character, of which `gap` says whether something else
follows. -/
def startsPlain (flow : Bool) (c : Char) (gap : Bool) : Bool :=
  !(c ∈ ['-', '?', ':', ',', '[', ']', '\x7b', '\x7d', '#', '&', '*', '!', '|', '>', '\'', '"',
    '%', '@', '\x60'] || isGap c) ||
    (c = '-' && !gap) || (!flow && (c = '?' || c = ':') && !gap)

/-- Reads the token that starts with `c`. -/
def token (s : Scan) (c : Char) : Option Scan :=
  let flow := s.inFlow
  let gap := s.source.gapAt 1
  if s.source.column = 0 && c = '%' then do
    s.betweenDocuments (← directiveLength? s.source.rest) .directive
  else if s.source.atDocumentMark then
    s.betweenDocuments 3 (if c = '-' then .documentStart else .documentEnd)
  else if c = '[' then s.openFlow .flowListStart
  else if c = '\x7b' then s.openFlow .flowMapStart
  else if c = ']' then s.closeFlow .flowListEnd
  else if c = '\x7d' then s.closeFlow .flowMapEnd
  else if c = ',' then s.comma
  else if c = '-' && gap then s.entry
  else if c = '?' && (flow || gap) then s.key
  else if c = ':' && (flow || gap) then s.value
  else if c = '*' then s.anchor .alias
  else if c = '&' then s.anchor .anchor
  else if c = '!' then s.tag
  else if c = '|' && !flow then s.block false
  else if c = '>' && !flow then s.block true
  else if c = '\'' then s.quoted false
  else if c = '"' then s.quoted true
  else if startsPlain flow c gap then s.plain
  else none

/-- All tokens from here to the end of the text. -/
def finish : (fuel : Nat) → Scan → Option (List Token)
  | 0, _ => none
  | fuel + 1, s => do
    let s ← s.skipGap.dropStale
    let s := s.closeBlocks (s.source.column + 1)
    match s.source.rest with
    | [] => return (← (s.closeBlocks 0).dropKey).tokens.reverse
    | c :: _ => finish fuel (← s.token c)

end Scan

/-- The tokens of a text. Every token but those put in takes at least one character. -/
def tokens? (s : String) : Option (List Token) := do
  let source ← Source.ofText? s
  Scan.finish (source.rest.length + 1) { source }

end Wayfinder.Yaml
