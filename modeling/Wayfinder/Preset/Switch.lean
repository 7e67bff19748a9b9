import Wayfinder.Preset.Basic

/-!
# Switching presets

A switch is refused exactly in a terminal preset, and a refused switch changes nothing. An
accepted one makes the lens read-only if it goes up the hierarchy from the preset just left, and
writable otherwise; older switches do not count.
-/

namespace Wayfinder

/-- A switch asked for in a terminal preset. -/
structure LockedPreset where
  current : Preset
  requested : Preset
deriving DecidableEq, Repr

/-- The wording of the refusal. -/
def LockedPreset.message (e : LockedPreset) : String :=
  s!"preset {e.current.name} is locked; cannot switch to {e.requested.name}"

/-- An accepted switch. -/
structure Switch where
  previous : Preset
  next : Preset
  readOnly : Bool
deriving DecidableEq, Repr

/-- The switch from one preset to another, if the first is not terminal. -/
def Preset.switch (current requested : Preset) : Except LockedPreset Switch :=
  if current.isTerminal then .error ⟨current, requested⟩
  else .ok ⟨current, requested, requested.rank < current.rank⟩

/-- The presets that a switch may go to. -/
def Preset.targets (current : Preset) : List Preset :=
  if current.isTerminal then [] else Preset.all

/-- The preset a session is in. -/
structure Lens where
  current : Preset
  /-- Actions that change things are held back. -/
  readOnly : Bool := false
deriving DecidableEq, Repr

namespace Lens

/-- A session's first lens is writable. -/
def start (p : Preset) : Lens := ⟨p, false⟩

/-- No switch will be accepted any more. -/
def isLocked (l : Lens) : Bool := l.current.isTerminal

/-- The lens after a request. -/
def after (l : Lens) (requested : Preset) : Lens :=
  match l.current.switch requested with
  | .ok s => ⟨s.next, s.readOnly⟩
  | .error _ => l

end Lens

end Wayfinder
