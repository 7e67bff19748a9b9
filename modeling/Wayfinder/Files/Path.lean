/-!
# Paths

Paths of files, as texts with a slash between two steps. They are joined and taken apart without a
look at the files.
-/

namespace Wayfinder.Path

/-- The steps of a path; the first one of an absolute path is empty. -/
def steps (path : String) : List String :=
  (path.toList.splitOn '/').map String.ofList

/-- The path of steps. -/
def ofSteps (ss : List String) : String :=
  "/".intercalate ss

/-- The path starts at the root. -/
def isAbsolute (path : String) : Bool :=
  path.toList.head? = some '/'

/-- Steps without those at the end that lead nowhere. The first one stays. -/
def dropTrailing : List String → List String
  | [] => []
  | s :: ss => s :: (ss.reverse.dropWhile fun s => s = "" || s = ".").reverse

/-- The directory that a path to a file lies in. -/
def parent (path : String) : String :=
  match dropTrailing (dropTrailing (steps path)).dropLast with
  | [""] => "/"
  | ss => ofSteps ss

/-- The path that `path` is when it starts in the directory `dir`. -/
def join (dir path : String) : String :=
  if isAbsolute path || dir.isEmpty || dir.toList.getLast? = some '/' then
    if isAbsolute path then path else dir ++ path
  else dir ++ "/" ++ path

/-- What follows the last dot in the last step, if something stands before that dot. -/
def extension? (path : String) : Option String := do
  let name := ((dropTrailing (steps path)).getLast?.getD "").toList
  let tail := (name.reverse.takeWhile (· ≠ '.')).reverse
  if name = ['.', '.'] ∨ name.length ≤ tail.length + 1 then none
  else return String.ofList tail

end Wayfinder.Path
