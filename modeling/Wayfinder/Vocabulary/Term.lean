import Wayfinder.Text.Basic

/-!
# Closed vocabularies

A vocabulary is a finite type whose terms are listed in a fixed order and have distinct names.
Data files spell a term by its exact name; the command line also accepts blanks around it and,
where the vocabulary says so, either case of its letters.
-/

namespace Wayfinder

/-- A finite vocabulary of named terms. -/
class Term (α : Type) where
  /-- Every term, in the order of declaration. -/
  all : List α
  /-- What the vocabulary calls its terms. -/
  kind : String
  /-- The one spelling of a term. -/
  name : α → String
  /-- Typed names may differ from the spelling in the case of ASCII letters. -/
  anyCase : Bool := false
  mem_all : ∀ a, a ∈ all
  nodup_all : all.Nodup
  name_injective : ∀ a b, name a = name b → a = b

/-- A typed text that names no term of its vocabulary. -/
structure UnknownTerm where
  kind : String
  /-- The text without the blanks around it. -/
  value : String
deriving DecidableEq, Repr

/-- The wording of the refusal. -/
def UnknownTerm.message (e : UnknownTerm) : String :=
  s!"unknown {e.kind} '{e.value}'"

namespace Term

variable {α : Type} [Term α]

/-- The term with exactly this name. -/
def ofName? (s : String) : Option α :=
  all.find? (name · = s)

theorem ofName?_name (a : α) : ofName? (name a) = some a := by
  cases hfind : (ofName? (name a) : Option α) with
  | none => exact absurd (decide_eq_true rfl) (List.find?_eq_none.mp hfind a (mem_all a))
  | some b =>
    have hname : name b = name a := by simpa using List.find?_some hfind
    rw [name_injective b a hname]

/-- ASCII letters in lower case, all else as it stands. -/
def foldCase (s : String) : String :=
  String.ofList (s.toList.map Char.toLower)

theorem toNat_toLower (c : Char) :
    c.toLower.toNat = if 'A' ≤ c ∧ c ≤ 'Z' then c.toNat + 0x20 else c.toNat := by
  unfold Char.toLower
  split
  case isTrue h =>
    have hcapital : 'A' ≤ c ∧ c ≤ 'Z' := h
    have hbound : c.toNat ≤ 0x5A := hcapital.2
    have hsum : c.toNat + 0x20 < 2 ^ 32 := by omega
    rw [if_pos hcapital]
    exact (UInt32.toNat_add _ _).trans (Nat.mod_eq_of_lt hsum)
  case isFalse h => exact (if_neg h).symm

theorem toList_foldCase (s : String) :
    (foldCase s).toList = s.toList.map fun c =>
      if 'A' ≤ c ∧ c ≤ 'Z' then Char.ofNat (c.toNat + 0x20) else c := by
  rw [foldCase, String.toList_ofList]
  refine List.map_congr_left fun c _ => ?_
  rw [← Char.ofNat_toNat c.toLower, toNat_toLower]
  split
  · rfl
  · exact c.ofNat_toNat

/-- The term that a typed text names, blanks around it ignored. -/
def parse (s : String) : Except UnknownTerm α :=
  let s := Text.trim s
  let found :=
    if anyCase α then all.find? (fun a => foldCase (name a) = foldCase s) else ofName? s
  match found with
  | some a => .ok a
  | none => .error ⟨kind α, s⟩

/-- The position of a term in the order of declaration. -/
def index [DecidableEq α] (a : α) : Nat :=
  all.idxOf a

end Term

end Wayfinder
