import Wayfinder.Yaml.Basic
import Wayfinder.Yaml.Token

/-!
# YAML values from text

A text holds one document. The value of an anchor stands wherever a later reference names it; tags
are not looked at.
-/

namespace Wayfinder.Yaml

/-- Tokens that are left, and the values of the anchors so far. -/
structure ReadState where
  tokens : List Token
  anchors : OrderedMap Yaml := {}

/-- A step that reads tokens. -/
abbrev Read := StateT ReadState Option

/-- The next token. -/
def peek : Read (Option Token) :=
  return (← get).tokens.head?

/-- Goes past the next token. -/
def advance : Read Unit :=
  modify fun s => { s with tokens := s.tokens.tail }

/-- Goes past the next token if it is `t`, and says whether it was. -/
def accept (t : Token) : Read Bool := do
  if (← peek) = some t then
    advance
    return true
  else return false

/-- Goes past the next token, which has to be `t`. -/
def expect (t : Token) : Read Unit := do
  unless ← accept t do failure

/-- One of these tokens is next. -/
def atAny (ts : List Token) : Read Bool :=
  return (← peek).any (· ∈ ts)

/-- Reads at most one tag and one anchor, in either order. Answers with the anchor, and with
whether there was anything. -/
def properties : Read (Option String × Bool) := do
  let tagFirst ← accept .tag
  match ← peek with
  | some (.anchor name) =>
    advance
    unless tagFirst do discard (accept .tag)
    return (some name, true)
  | _ => return (none, tagFirst)

mutual

/-- A value. Blocks may only stand outside brackets, and a list of dashes that is not indented only
in a map. -/
def value (inBlock inMap : Bool) : (fuel : Nat) → Read Yaml
  | 0 => failure
  | fuel + 1 => do
    match ← peek with
    | some (.alias name) =>
      advance
      ((← get).anchors.get? name : Option Yaml)
    | _ =>
      let (anchor, marked) ← properties
      let v ← content inBlock inMap marked fuel
      if let some name := anchor then
        modify fun s => { s with anchors := s.anchors.insert name v }
      return v

/-- A value after its tag and anchor. -/
def content (inBlock inMap marked : Bool) : (fuel : Nat) → Read Yaml
  | 0 => failure
  | fuel + 1 => do
    match ← peek with
    | some (.scalar plain text) =>
      advance
      return scalar plain text
    | some .entry =>
      if inMap then return list (← dashes fuel)
      else if marked then return blank
      else failure
    | some .flowListStart =>
      advance
      return list (← flowItems true fuel)
    | some .flowMapStart =>
      advance
      return map (← flowEntries true fuel)
    | some .blockListStart =>
      if inBlock then
        advance
        return list (← blockItems fuel)
      else if marked then return blank
      else failure
    | some .blockMapStart =>
      if inBlock then
        advance
        return map (← blockEntries fuel)
      else if marked then return blank
      else failure
    | _ => if marked then return blank else failure

/-- The items of an indented list up to its end. -/
def blockItems : (fuel : Nat) → Read (List Yaml)
  | 0 => failure
  | fuel + 1 => do
    if ← accept .blockEnd then return []
    expect .entry
    let v ← if ← atAny [.entry, .blockEnd] then pure blank else value true false fuel
    return v :: (← blockItems fuel)

/-- The items of a list that is not indented. -/
def dashes : (fuel : Nat) → Read (List Yaml)
  | 0 => failure
  | fuel + 1 => do
    if ← accept .entry then
      let v ←
        if ← atAny [.entry, .key, .value, .blockEnd] then pure blank else value true false fuel
      return v :: (← dashes fuel)
    else return []

/-- The entries of an indented map up to its end. -/
def blockEntries : (fuel : Nat) → Read (List (Yaml × Yaml))
  | 0 => failure
  | fuel + 1 => do
    if ← accept .blockEnd then return []
    let part : Read Yaml := do
      if ← atAny [.key, .value, .blockEnd] then return blank else value true true fuel
    expect .key
    let k ← part
    let v ← if ← accept .value then part else pure blank
    return (k, v) :: (← blockEntries fuel)

/-- The items of a list in brackets up to its end. An item may be a map of one entry. -/
def flowItems (first : Bool) : (fuel : Nat) → Read (List Yaml)
  | 0 => failure
  | fuel + 1 => do
    if ← accept .flowListEnd then return []
    unless first do
      expect .comma
    if ← accept .flowListEnd then return []
    let v ←
      if ← accept .key then
        let k ← if ← atAny [.value, .comma, .flowListEnd] then pure blank
          else value false false fuel
        let v ←
          if ← accept .value then
            if ← atAny [.comma, .flowListEnd] then pure blank else value false false fuel
          else pure blank
        pure (map [(k, v)])
      else value false false fuel
    return v :: (← flowItems false fuel)

/-- The entries of a map in braces up to its end. A key may stand without a value. -/
def flowEntries (first : Bool) : (fuel : Nat) → Read (List (Yaml × Yaml))
  | 0 => failure
  | fuel + 1 => do
    if ← accept .flowMapEnd then return []
    unless first do
      expect .comma
    if ← accept .flowMapEnd then return []
    let part : Read Yaml := do
      if ← atAny [.value, .comma, .flowMapEnd] then return blank else value false false fuel
    let entry ←
      if ← accept .key then
        let k ← part
        let v ← if ← accept .value then part else pure blank
        pure (k, v)
      else do pure (← value false false fuel, blank)
    return entry :: (← flowEntries false fuel)

end

/-- The document of a text: its directive, its value, and marks where it starts and ends. -/
def document : Read Yaml := do
  let fuel := 4 * ((← get).tokens.length + 1)
  if (← peek) = none then failure
  let directive ← accept .directive
  let v ←
    if ← accept .documentStart then
      match ← peek with
      | none | some .directive | some .documentStart | some .documentEnd => pure blank
      | _ => value true false fuel
    else if directive then failure
    else value true false fuel
  return v

/-- The value that a text writes. -/
def ofText? (s : String) : Option Yaml := do
  let (v, rest) ← document.run { tokens := ← tokens? s }
  if rest.tokens.all (· = .documentEnd) then return v else none

end Wayfinder.Yaml
