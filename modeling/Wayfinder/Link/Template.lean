import Wayfinder.OrderedMap

/-!
# Deep link templates

A template is a pattern in which `{name}` stands for the value of a scope parameter, together with
the parameters that a link needs. A pattern is read once, from left to right, into its parts; the
names it mentions and the link it gives are both taken from those parts, so a value that is filled
in is never looked at again.
-/

namespace Wayfinder

/-- The values of scope parameters. -/
abbrev Scope := OrderedMap String

namespace Link

/-! ## Patterns -/

/-- A part of a pattern. -/
inductive Part
  /-- A character that stands for itself. -/
  | lit (c : Char)
  /-- A placeholder. -/
  | hole (name : List Char)
deriving DecidableEq, Repr

/-- Letters and the underscore begin a placeholder's name. -/
def isNameStart (c : Char) : Bool :=
  c.isAlpha || c = '_'

theorem isNameStart_iff {c : Char} :
    isNameStart c = true ↔ ('A' ≤ c ∧ c ≤ 'Z') ∨ ('a' ≤ c ∧ c ≤ 'z') ∨ c = '_' := by
  have hupper : c.isUpper = true ↔ 'A' ≤ c ∧ c ≤ 'Z' := decide_eq_true_iff
  have hlower : c.isLower = true ↔ 'a' ≤ c ∧ c ≤ 'z' :=
    Bool.and_eq_true_iff.trans (and_congr decide_eq_true_iff decide_eq_true_iff)
  have halpha : c.isAlpha = true ↔ c.isUpper = true ∨ c.isLower = true := Bool.or_eq_true_iff
  rw [isNameStart, Bool.or_eq_true_iff, decide_eq_true_iff, halpha, hupper, hlower, or_assoc]

/-- Digits may follow. -/
def isNameChar (c : Char) : Bool :=
  isNameStart c || c.isDigit

theorem isNameChar_iff {c : Char} :
    isNameChar c = true ↔ isNameStart c = true ∨ ('0' ≤ c ∧ c ≤ '9') := by
  have hdigit : c.isDigit = true ↔ '0' ≤ c ∧ c ≤ '9' :=
    Bool.and_eq_true_iff.trans (and_congr decide_eq_true_iff decide_eq_true_iff)
  rw [isNameChar, Bool.or_eq_true_iff, hdigit]

/-- The name that stands at the front if a closing brace comes right after it. -/
def holeName? (cs : List Char) : Option (List Char) :=
  let name := cs.takeWhile isNameChar
  if name.head?.any isNameStart && (cs.dropWhile isNameChar).head? = some '\x7d' then some name
  else none

/-- The parts of a pattern after the first `skip` characters, which belong to a placeholder
already read. -/
def partsFrom : (skip : Nat) → List Char → List Part
  | _, [] => []
  | skip + 1, _ :: cs => partsFrom skip cs
  | 0, c :: cs =>
    match if c = '\x7b' then holeName? cs else none with
    | some name => .hole name :: partsFrom (name.length + 1) cs
    | none => .lit c :: partsFrom 0 cs

/-- The parts of a pattern from left to right. -/
def parts (pattern : String) : List Part :=
  partsFrom 0 pattern.toList

/-- The name in a placeholder. -/
def Part.name? : Part → Option String
  | lit _ => none
  | hole name => some (String.ofList name)

/-- A placeholder as a pattern writes it. -/
def written (name : List Char) : List Char :=
  '\x7b' :: name ++ ['\x7d']

/-- What a part gives in a link; a placeholder without a value stays as it is. -/
def Part.fill (scope : Scope) : Part → List Char
  | lit c => [c]
  | hole name => ((scope.get? (String.ofList name)).map String.toList).getD (written name)

/-- The names in the placeholders of a pattern, in order and with repeats. -/
def placeholders (pattern : String) : List String :=
  (parts pattern).filterMap Part.name?

/-! ## Templates -/

/-- A pattern and the parameters that a link made from it needs. -/
structure Template where
  pattern : String
  requiredParams : List String := []
deriving DecidableEq, Repr

namespace Template

/-- The template that needs exactly what its pattern mentions. -/
def ofPattern (pattern : String) : Template :=
  ⟨pattern, Link.placeholders pattern⟩

/-- The names in the placeholders of the pattern. -/
def placeholders (t : Template) : List String :=
  Link.placeholders t.pattern

/-- Names that the pattern mentions and the template does not require. -/
def undeclared (t : Template) : List String :=
  t.placeholders.filter (· ∉ t.requiredParams)

/-- Required parameters that have no value. -/
def missing (t : Template) (scope : Scope) : List String :=
  t.requiredParams.filter (!scope.contains ·)

/-- Every required parameter has a value. -/
def satisfied (t : Template) (scope : Scope) : Bool :=
  t.requiredParams.all (scope.contains ·)

/-- The link for a scope that satisfies the template. -/
def expand (t : Template) (scope : Scope) : Option String :=
  if t.satisfied scope then
    some (String.ofList ((parts t.pattern).flatMap (Part.fill scope)))
  else none

end Template

end Link

end Wayfinder
