import Wayfinder.Session.Engine
import Wayfinder.Session.Screen

/-!
# Sessions

A user's session holds what the user may do and the preset the user looks through. Presets change
what is offered and how it looks, never what may be seen.
-/

namespace Wayfinder

/-! ## Ids

The text of an id made of 48 bits of time and 80 random bits: 26 digits in base 32, the most
significant first, so that ids sort by time. -/

namespace SessionId

/-- The digits, without the letters that look like others. -/
def alphabet : List Char := "0123456789ABCDEFGHJKMNPQRSTVWXYZ".toList

/-- The last `count` digits of a number, the least significant last. -/
def digits : (count : Nat) → Nat → List Char
  | 0, _ => []
  | count + 1, n => digits count (n / 32) ++ [alphabet.getD (n % 32) '0']

theorem length_digits (count n : Nat) : (digits count n).length = count := by
  induction count generalizing n with
  | zero => rfl
  | succ count ih => simp [digits, ih]

/-- The id of a session opened at `time` that drew the number `random`. -/
def ofParts (time random : Nat) : String :=
  let high := time % 0x1000000000000
  let low := random % 0x100000000000000000000
  String.ofList (digits 26 (high * 0x100000000000000000000 + low))

theorem length_ofParts (time random : Nat) : (ofParts time random).length = 26 :=
  String.length_ofList.trans (length_digits 26 _)

end SessionId

/-! ## Sessions -/

/-- A user's session. -/
structure Session where
  engine : Engine
  id : String
  /-- The role as it was given. -/
  role : String
  granted : TermSet Capability
  lens : Lens

namespace Session

/-- Opens a session in the preset of its role. -/
def start (e : Engine) (id role : String) (granted : TermSet Capability) : Session :=
  ⟨e, id, role, granted, .start (e.roles.presetFor role)⟩

/-! ## Presets -/

/-- The presets that a switch may go to. -/
def targets (s : Session) : List Preset :=
  s.lens.current.targets

/-- The switch that a request leads to. -/
def switch (s : Session) (requested : Preset) : Except EngineError Switch :=
  (s.lens.current.switch requested).mapError .locked

/-- The session after a request; a refused one changes nothing. -/
def after (s : Session) (requested : Preset) : Session :=
  { s with lens := s.lens.after requested }

/-! ## Nodes -/

/-- The nodes that the user may see, by priority. -/
def visible (s : Session) : List Node :=
  s.engine.visible s.granted

/-- The node with an id, if the user may see it. -/
def node (s : Session) (id : String) : Except EngineError Node :=
  match s.engine.registry.get id with
  | .error e => .error (.registry e)
  | .ok n =>
    if n.permits s.granted then .ok n
    else .error (.notVisible id (s.granted.missing n.requiredCapabilities))

/-- The policy in effect for a node. -/
def policy (s : Session) (id : String) : Except EngineError EffectivePolicy := do
  return (← s.node id).effectivePolicy s.lens.current

/-- The visible nodes that match a query, best first. -/
def rank (s : Session) (q : Query) : List ScoredNode :=
  s.engine.weights.rank q s.visible

/-- Resolves a query among the visible nodes. -/
def resolve (s : Session) (q : Query) (scope : Scope) : Except EngineError Resolution :=
  s.engine.resolve q scope s.granted

/-! ## Screens -/

/-- Opens a node. The filter bar is restored from the query; if that sets nothing, the policy's
defaults are filled in. -/
def openScreen (s : Session) (id : String) (schema : FilterSchema) (query : Option String) :
    Except EngineError Screen := do
  let n ← s.node id
  let policy := n.effectivePolicy s.lens.current
  return {
    node := n
    lens := s.lens
    policy
    actions := policy.policy.actions s.granted s.lens.readOnly
    filters := (FilterState.ofQuery schema (query.getD "")).seed policy.policy.defaultFilters }

end Session

end Wayfinder
