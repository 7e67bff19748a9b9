import Wayfinder.Vocabulary.Term
import Wayfinder.Text.Digits
import Wayfinder.Text.Words

/-!
# Log filters

Which events are logged: directives with commas between them. A directive names a level, or a
target, or a span between brackets, and after an equals sign the level from which on their events
are logged. Here a filter is only checked.
-/

namespace Wayfinder.LogFilter

/-- The text names a level or its number; nothing written stands for a level too. -/
def isLevel (cs : List Char) : Bool :=
  let digits := match cs with
    | '+' :: cs => cs
    | cs => cs
  Term.foldCase (String.ofList cs) ∈ ["", "off", "error", "warn", "info", "debug", "trace"] ||
    (Text.number? 10 digits).any (· ≤ 5)

/-- What follows the end of a span: a level after an equals sign, or nothing. -/
def isLevelPart (level : List Char → Bool) : List Char → Bool
  | [] => true
  | c :: cs => c = '=' && level cs

/-- What follows the opening bracket of a span: a name, fields between braces, a bracket. -/
def isSpan (level : List Char → Bool) (cs : List Char) : Bool :=
  match cs.dropWhile fun c => c ≠ ']' && c ≠ '\x7b' with
  | [] => false
  | c :: cs =>
    if c = ']' then isLevelPart level cs
    else
      let rest := cs.dropWhile (· ≠ '\x7d')
      cs.head? ≠ some '\x7d' && rest.take 2 = ['\x7d', ']'] && isLevelPart level (rest.drop 2)

/-- A target or a level starts with this character. -/
def startsName (c : Char) : Bool :=
  c = '-' || c = ':' || c = '_' || Text.isAlphanumeric c

/-- The text is a directive. Blanks around it are taken off to find its parts, but the place of its
level is counted from the start of the whole text. -/
def isDirective (s : String) : Bool :=
  let cs := (Text.trim s).toList
  let level := fun rest => isLevel (s.toList.drop (cs.length - rest.length))
  match cs with
  | [] => false
  | c :: cs =>
    if c = '[' then isSpan level cs
    else startsName c &&
      match cs.dropWhile fun c => c ≠ '=' && c ≠ '[' with
      | [] => true
      | c :: cs => if c = '=' then level cs else isSpan level cs

/-- All directives of a filter can be read. Empty ones do not count. -/
def isValid (filter : String) : Bool :=
  ((filter.toList.splitOn ',').filter (!·.isEmpty)).all fun cs => isDirective (String.ofList cs)

end Wayfinder.LogFilter
