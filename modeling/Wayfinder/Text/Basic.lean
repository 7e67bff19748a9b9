/-!
# Texts

Properties of characters, texts trimmed of white space, and lists of texts without repeats.
-/

namespace Wayfinder.Text

/-! ## Sorted ranges of code points

A property of characters is kept as the ascending list of its maximal ranges. -/

/-- Disjoint closed ranges of code points in ascending order. -/
abbrev Ranges := List (Nat × Nat)

/-- Membership; ranges that begin past `n` are not looked at. -/
def Ranges.has : Ranges → Nat → Bool
  | [], _ => false
  | (lo, hi) :: rs, n => if n < lo then false else n ≤ hi || Ranges.has rs n

/-! ## Blank characters -/

/-- Code points with the property White_Space. -/
def blankRanges : Ranges := [
  (0x9, 0xD), (0x20, 0x20), (0x85, 0x85), (0xA0, 0xA0), (0x1680, 0x1680), (0x2000, 0x200A),
  (0x2028, 0x2029), (0x202F, 0x202F), (0x205F, 0x205F), (0x3000, 0x3000)]

/-- White space of any script. -/
def isBlank (c : Char) : Bool :=
  blankRanges.has c.toNat

/-- The text without the white space at its two ends. -/
def trim (s : String) : String :=
  String.ofList (((s.toList.dropWhile isBlank).reverse.dropWhile isBlank).reverse)

theorem toList_trim (s : String) :
    (trim s).toList = ((s.toList.dropWhile isBlank).reverse.dropWhile isBlank).reverse :=
  String.toList_ofList

theorem isBlank_head?_dropWhile (cs : List Char) :
    ∀ c ∈ (cs.dropWhile isBlank).head?, isBlank c = false := by
  intro c hc
  have hhead := List.head?_dropWhile_not isBlank cs
  rwa [hc] at hhead

/-- Trimming takes the blanks off both ends and nothing else. -/
theorem exists_trim (s : String) :
    ∃ front back, s.toList = front ++ (trim s).toList ++ back ∧
      (∀ c ∈ front ++ back, isBlank c = true) ∧
      (∀ c ∈ (trim s).toList.head?, isBlank c = false) ∧
      ∀ c ∈ (trim s).toList.getLast?, isBlank c = false := by
  have hblanks (cs : List Char) : ∀ c ∈ cs.takeWhile isBlank, isBlank c = true :=
    List.all_eq_true.mp List.all_takeWhile
  have hfront : s.toList.takeWhile isBlank ++ s.toList.dropWhile isBlank = s.toList :=
    List.takeWhile_append_dropWhile
  generalize hrest : s.toList.dropWhile isBlank = rest at hfront
  have hback : (trim s).toList ++ (rest.reverse.takeWhile isBlank).reverse = rest := by
    rw [toList_trim, hrest, ← List.reverse_append, List.takeWhile_append_dropWhile,
      List.reverse_reverse]
  refine ⟨s.toList.takeWhile isBlank, (rest.reverse.takeWhile isBlank).reverse, ?_, ?_, ?_, ?_⟩
  · rw [List.append_assoc, hback, hfront]
  · intro c hc
    rcases List.mem_append.mp hc with hc | hc
    · exact hblanks _ c hc
    · exact hblanks _ c (List.mem_reverse.mp hc)
  · -- the first character is also the first that is left before the end is cut off
    intro c hc
    apply isBlank_head?_dropWhile s.toList c
    rw [hrest, ← hback, List.head?_append, Option.mem_def.mp hc]
    rfl
  · rw [toList_trim, List.getLast?_reverse]
    exact isBlank_head?_dropWhile _

/-- A text of nothing but white space. -/
def isBlankText (s : String) : Bool :=
  s.toList.all isBlank

/-! ## Lists of texts

Texts in the order of their code points, and texts in the order in which they first occur. -/

/-- Puts a text in its place unless it is there. -/
def insertAscending (s : String) : List String → List String
  | [] => [s]
  | t :: ts =>
    if s < t then s :: t :: ts
    else if s = t then t :: ts
    else t :: insertAscending s ts

/-- The texts of a list, each once, in ascending order. -/
def ascending (ss : List String) : List String :=
  ss.foldr insertAscending []

/-- The texts of a list, each where it first occurs. -/
def distinct : List String → List String
  | [] => []
  | s :: ss => s :: (distinct ss).filter (· ≠ s)

end Wayfinder.Text
