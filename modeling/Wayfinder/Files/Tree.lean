import Wayfinder.Files.Path

/-!
# A tree of files

Directories are there because files lie in them. A path is followed step by step, so every
directory that it names has to be there, also one that the next step leaves again.
-/

namespace Wayfinder

/-- The texts of files under the steps of their paths. -/
structure FileTree where
  files : List (List String × String)

namespace FileTree

/-- The tree of files with these relative paths. -/
def ofList (files : List (String × String)) : FileTree :=
  ⟨files.map fun f => (Path.steps f.1, f.2)⟩

/-- A file lies below these steps. -/
def isDirectory (t : FileTree) (ss : List String) : Bool :=
  ss.isEmpty || t.files.any fun f => ss.isPrefixOf f.1 && ss.length < f.1.length

/-- Where a path leads from a place in the tree. -/
def follow (t : FileTree) : (place path : List String) → Option (List String)
  | place, [] => some place
  | place, s :: ss =>
    if !t.isDirectory place then none
    else if s = "" ∨ s = "." then follow t place ss
    else if s = ".." then if place.isEmpty then none else follow t place.dropLast ss
    else follow t (place ++ [s]) ss

/-- The text of the file that a path leads to. -/
def read? (t : FileTree) (path : String) : Option String := do
  if Path.isAbsolute path then none
  let place ← t.follow [] (Path.steps path)
  return (← t.files.find? (·.1 = place)).2

end FileTree

end Wayfinder
