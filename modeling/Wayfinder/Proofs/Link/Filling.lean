import Wayfinder.Link.Template
import Mathlib.Data.List.TakeWhile

/-!
# Patterns filled in

`Filled` says what the link of a pattern is without a scanner: going from left to right, a placeholder
becomes its value, character by character as the scope has it, and every character that begins no
placeholder stays. There is at most one such link (`Filled.unique`), the parts of the pattern give it
if every name they mention has a value (`filled_parts`), and no placeholder is passed over, wherever it
stands and whatever braces are around it (`Filled.of_written`).

A placeholder begins with the one brace that a name cannot hold, so none begins inside another: what
is read before an opening brace does not depend on what follows it (`partsFrom_append_brace`).
-/

namespace Wayfinder.Link

/-! ## Placeholders -/

/-- A letter of ASCII or an underscore, then such letters, underscores and digits
(`isNameStart_iff`, `isNameChar_iff`). -/
def IsName : List Char → Prop
  | [] => False
  | c :: cs => isNameStart c = true ∧ ∀ d ∈ cs, isNameChar d = true

/-- A placeholder stands at the front. -/
def BeginsHole (cs : List Char) : Prop :=
  ∃ name rest, IsName name ∧ cs = written name ++ rest

theorem IsName.isNameChar {name : List Char} (h : IsName name) {c : Char} (hc : c ∈ name) :
    isNameChar c = true := by
  cases name with
  | nil => cases hc
  | cons d cs =>
    rcases List.mem_cons.mp hc with rfl | hc
    · exact isNameChar_iff.mpr (Or.inl h.1)
    · exact h.2 c hc

theorem isName_iff {name : List Char} :
    IsName name ↔ name.head?.any isNameStart = true ∧ ∀ c ∈ name, isNameChar c = true := by
  cases name with
  | nil => simp [IsName]
  | cons c cs =>
    constructor
    · intro h
      exact ⟨h.1, fun d hd => h.isNameChar hd⟩
    · rintro ⟨hstart, hchars⟩
      exact ⟨hstart, fun d hd => hchars d (List.mem_cons_of_mem _ hd)⟩

theorem holeName?_eq_some_iff {cs name : List Char} :
    holeName? cs = some name ↔ IsName name ∧ ∃ rest, cs = name ++ '\x7d' :: rest := by
  constructor
  · intro h
    rw [holeName?] at h
    split_ifs at h with hname
    obtain rfl := Option.some.inj h
    rw [Bool.and_eq_true, decide_eq_true_eq] at hname
    refine ⟨isName_iff.mpr ⟨hname.1, fun c hc => List.mem_takeWhile_imp hc⟩, ?_⟩
    obtain ⟨rest, hrest⟩ := List.head?_eq_some_iff.mp hname.2
    refine ⟨rest, ?_⟩
    rw [← hrest, List.takeWhile_append_dropWhile]
  · rintro ⟨hname, rest, rfl⟩
    have hchars : ∀ c ∈ name, isNameChar c = true := fun c hc => hname.isNameChar hc
    rw [holeName?, List.takeWhile_append_of_pos hchars, List.dropWhile_append_of_pos hchars,
      List.takeWhile_cons_of_neg (by decide), List.dropWhile_cons_of_neg (by decide),
      List.append_nil, (isName_iff.mp hname).1]
    rfl

/-! ## The parts of a pattern -/

theorem partsFrom_length_append (cs rest : List Char) :
    partsFrom cs.length (cs ++ rest) = partsFrom 0 rest := by
  induction cs with
  | nil => rfl
  | cons c cs ih => exact ih

theorem partsFrom_written {name : List Char} (h : IsName name) (rest : List Char) :
    partsFrom 0 (written name ++ rest) = .hole name :: partsFrom 0 rest := by
  have hread : holeName? (name ++ '\x7d' :: rest) = some name :=
    holeName?_eq_some_iff.mpr ⟨h, rest, rfl⟩
  have hshape : written name ++ rest = '\x7b' :: (name ++ '\x7d' :: rest) := by
    simp [written]
  have hskip : partsFrom (name.length + 1) (name ++ '\x7d' :: rest) = partsFrom 0 rest := by
    have hlength := partsFrom_length_append (name ++ ['\x7d']) rest
    rwa [List.length_append, List.append_assoc] at hlength
  rw [hshape, partsFrom, if_pos rfl, hread, ← hskip]

theorem partsFrom_cons {c : Char} {cs : List Char} (h : ¬ BeginsHole (c :: cs)) :
    partsFrom 0 (c :: cs) = .lit c :: partsFrom 0 cs := by
  have hnone : (if c = '\x7b' then holeName? cs else none) = none := by
    by_contra hne
    obtain ⟨name, hname⟩ := Option.ne_none_iff_exists'.mp hne
    split_ifs at hname with hc
    obtain ⟨hvalid, rest, rfl⟩ := holeName?_eq_some_iff.mp hname
    exact h ⟨name, rest, hvalid, by simp [hc, written]⟩
  rw [partsFrom, hnone]

/-- Reading a pattern: its front is a placeholder, or a character that begins none. -/
theorem reading_induction {motive : List Char → Prop} (nil : motive [])
    (hole : ∀ name rest, IsName name → motive rest → motive (written name ++ rest))
    (char : ∀ c rest, ¬ BeginsHole (c :: rest) → motive rest → motive (c :: rest))
    (cs : List Char) : motive cs := by
  induction hlength : cs.length using Nat.strong_induction_on generalizing cs with
  | _ n ih =>
    subst hlength
    cases cs with
    | nil => exact nil
    | cons c cs =>
      by_cases h : BeginsHole (c :: cs)
      · obtain ⟨name, rest, hname, he⟩ := h
        rw [he]
        refine hole name rest hname (ih rest.length ?_ rest rfl)
        simp only [he, written, List.length_append, List.length_cons]
        omega
      · exact char c cs h (ih cs.length (by simp) cs rfl)

/-- What stands before an opening brace is read alone. -/
theorem partsFrom_append_brace (cs rest : List Char) :
    partsFrom 0 (cs ++ '\x7b' :: rest) = partsFrom 0 cs ++ partsFrom 0 ('\x7b' :: rest) := by
  induction cs using reading_induction with
  | nil => rfl
  | hole name cs hname ih =>
    rw [List.append_assoc, partsFrom_written hname, partsFrom_written hname, ih, List.cons_append]
  | char c cs hc ih =>
    have hc' : ¬ BeginsHole (c :: (cs ++ '\x7b' :: rest)) := by
      rintro ⟨name, after, hname, he⟩
      rw [← List.cons_append, List.append_eq_append_iff] at he
      rcases he with ⟨inner, hwritten, hbrace⟩ | ⟨more, hcs, -⟩
      · cases inner with
        | nil => exact hc ⟨name, [], hname, by rw [hwritten, List.append_nil, List.append_nil]⟩
        | cons d inner =>
          -- the brace would be a character of the name or the brace that closes it
          obtain ⟨rfl, -⟩ := List.cons.inj hbrace
          have htail : name ++ ['\x7d'] = cs ++ '\x7b' :: inner := (List.cons.inj hwritten).2
          have hmem : '\x7b' ∈ name ++ ['\x7d'] := by
            rw [htail]
            exact List.mem_append_right _ List.mem_cons_self
          rcases List.mem_append.mp hmem with hmem | hmem
          · exact absurd (hname.isNameChar hmem) (by decide)
          · exact absurd hmem (by decide)
      · exact hc ⟨name, more, hname, hcs⟩
    rw [List.cons_append, partsFrom_cons hc', partsFrom_cons hc, ih, List.cons_append]

/-- A placeholder is found wherever it stands. -/
theorem partsFrom_append_written {name : List Char} (h : IsName name) (before after : List Char) :
    partsFrom 0 (before ++ written name ++ after) =
      partsFrom 0 before ++ .hole name :: partsFrom 0 after := by
  rw [← partsFrom_written h]
  have hshape : written name ++ after = '\x7b' :: (name ++ '\x7d' :: after) := by
    simp [written]
  rw [List.append_assoc, hshape, partsFrom_append_brace]

/-! ## Filling in -/

variable (scope : Scope)

/-- The link is the pattern with every placeholder replaced by the value of its name, in one pass from
left to right. -/
inductive Filled : (pattern link : List Char) → Prop
  | nil : Filled [] []
  | hole {name rest link : List Char} {value : String} (hname : IsName name)
      (hvalue : scope.get? (String.ofList name) = some value) (h : Filled rest link) :
      Filled (written name ++ rest) (value.toList ++ link)
  | char {c : Char} {rest link : List Char} (hc : ¬ BeginsHole (c :: rest))
      (h : Filled rest link) : Filled (c :: rest) (c :: link)

variable {scope} {cs link : List Char}

theorem Filled.eq_parts (h : Filled scope cs link) :
    link = (partsFrom 0 cs).flatMap (Part.fill scope) := by
  induction h with
  | nil => rfl
  | hole hname hvalue h ih =>
    rw [partsFrom_written hname, List.flatMap_cons, Part.fill, hvalue, ih]
    rfl
  | char hc h ih =>
    rw [partsFrom_cons hc, List.flatMap_cons, ih]
    rfl

theorem Filled.exists_value (h : Filled scope cs link) {name : List Char}
    (hname : .hole name ∈ partsFrom 0 cs) :
    ∃ value, scope.get? (String.ofList name) = some value := by
  induction h with
  | nil => cases hname
  | hole hvalid hvalue h ih =>
    rw [partsFrom_written hvalid] at hname
    rcases List.mem_cons.mp hname with he | hrest
    · obtain rfl := Part.hole.inj he
      exact ⟨_, hvalue⟩
    · exact ih hrest
  | char hc h ih =>
    rw [partsFrom_cons hc] at hname
    rcases List.mem_cons.mp hname with he | hrest
    · cases he
    · exact ih hrest

/-- If every name that is mentioned has a value, the parts give a link. -/
theorem filled_parts (h : ∀ name, .hole name ∈ partsFrom 0 cs →
      ∃ value, scope.get? (String.ofList name) = some value) :
    Filled scope cs ((partsFrom 0 cs).flatMap (Part.fill scope)) := by
  induction cs using reading_induction with
  | nil => exact .nil
  | hole name rest hname ih =>
    rw [partsFrom_written hname] at h ⊢
    obtain ⟨value, hvalue⟩ := h name List.mem_cons_self
    have hlink := ih fun other hother => h other (List.mem_cons_of_mem _ hother)
    rw [List.flatMap_cons, Part.fill, hvalue]
    exact .hole hname hvalue hlink
  | char c rest hc ih =>
    rw [partsFrom_cons hc] at h ⊢
    exact .char hc (ih fun name hname => h name (List.mem_cons_of_mem _ hname))

theorem Filled.unique {link' : List Char} (h : Filled scope cs link)
    (h' : Filled scope cs link') : link' = link := by
  rw [h.eq_parts, h'.eq_parts]

/-- A placeholder anywhere in a pattern is replaced, and what stands before and after it is filled in
on its own. -/
theorem Filled.of_written {name before after : List Char} (hname : IsName name)
    (h : Filled scope (before ++ written name ++ after) link) :
    ∃ front value back, Filled scope before front ∧
      scope.get? (String.ofList name) = some value ∧ Filled scope after back ∧
      link = front ++ value.toList ++ back := by
  have hparts := partsFrom_append_written hname before after
  have hvalue : ∀ other, .hole other ∈ partsFrom 0 before ++ .hole name :: partsFrom 0 after →
      ∃ value, scope.get? (String.ofList other) = some value := by
    intro other hother
    rw [← hparts] at hother
    exact h.exists_value hother
  obtain ⟨value, hv⟩ := hvalue name (List.mem_append_right _ List.mem_cons_self)
  refine ⟨_, value, _, filled_parts fun other hother => ?_, hv, filled_parts fun other hother => ?_,
    ?_⟩
  · exact hvalue other (List.mem_append_left _ hother)
  · exact hvalue other (List.mem_append_right _ (List.mem_cons_of_mem _ hother))
  · rw [h.eq_parts, hparts, List.flatMap_append, List.flatMap_cons, Part.fill, hv,
      List.append_assoc]
    rfl

end Wayfinder.Link
