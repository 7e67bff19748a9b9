import Wayfinder.Preset.Basic
import Wayfinder.OrderedMap

/-!
# Presets of roles

A session starts in the preset of its role. Roles are compared without the blanks around them and
without regard to the case of ASCII letters; a role that the table does not know starts in the
table's baseline.
-/

namespace Wayfinder

/-- The normal form of a role's name. -/
def normalRole (role : String) : String :=
  Term.foldCase (Text.trim role)

/-- The blanks around the name go; in what is left, only the capital letters of ASCII change. -/
theorem exists_normalRole (role : String) :
    ∃ front core back, role.toList = front ++ core ++ back ∧
      (∀ c ∈ front ++ back, Text.isBlank c = true) ∧
      (∀ c ∈ core.head?, Text.isBlank c = false) ∧ (∀ c ∈ core.getLast?, Text.isBlank c = false) ∧
      (normalRole role).toList = core.map fun c =>
        if 'A' ≤ c ∧ c ≤ 'Z' then Char.ofNat (c.toNat + 0x20) else c := by
  obtain ⟨front, back, hrole, hblank, hhead, hlast⟩ := Text.exists_trim role
  exact ⟨front, (Text.trim role).toList, back, hrole, hblank, hhead, hlast,
    Term.toList_foldCase (Text.trim role)⟩

/-- The presets in which sessions start. -/
structure RoleTable where
  /-- Presets under normal forms of roles. -/
  presets : OrderedMap Preset
  /-- The preset of all other roles. -/
  baseline : Preset

namespace RoleTable

/-- The table that knows no role. -/
def empty : RoleTable := ⟨{}, Preset.baseline⟩

/-- Assigns a preset to a role. -/
def insert (t : RoleTable) (role : String) (p : Preset) : RoleTable :=
  { t with presets := t.presets.insert (normalRole role) p }

/-- Changes the baseline. -/
def withBaseline (t : RoleTable) (p : Preset) : RoleTable :=
  { t with baseline := p }

/-- Assigns presets from first to last. -/
def merge (t : RoleTable) (es : List (String × Preset)) : RoleTable :=
  es.foldl (fun t e => t.insert e.1 e.2) t

/-- The roles that every table knows unless it is made empty. -/
def builtIn : List (String × Preset) := [
  ("executive", .execSummary), ("sponsor", .execSummary), ("pmo", .pmoControl),
  ("pm", .pmWork), ("developer", .devExecution), ("qa", .devExecution),
  ("customer", .customerApproval), ("auditor", .auditEvidence)]

/-- The table of the built-in roles. -/
def standard : RoleTable := empty.merge builtIn

/-- The preset in which a session of a role starts. -/
def presetFor (t : RoleTable) (role : String) : Preset :=
  (t.presets.get? (normalRole role)).getD t.baseline

/-- The known roles with their presets, in ascending order. -/
def toList (t : RoleTable) : List (String × Preset) :=
  t.presets.sorted

/-- How many roles are known. -/
def size (t : RoleTable) : Nat := t.presets.size

/-- No roles known. -/
def isEmpty (t : RoleTable) : Bool := t.presets.isEmpty

end RoleTable

end Wayfinder
