import Wayfinder.Policy.Basic
import Wayfinder.Vocabulary.TermSet

/-!
# The policy in effect

A node declares policies for some presets. The one in effect under a preset is the node's own for
that preset, else its own for its default preset, else the baseline; what it offers to do is then
cut down to what the user may do and, under a read-only lens, to what changes nothing.
-/

namespace Wayfinder

/-! ## Declared policies -/

/-- The policies that a node declares, at most one for each preset. -/
structure Policies where
  get? : Preset → Option Policy

namespace Policies

/-- No policy declared. -/
def empty : Policies := ⟨fun _ => none⟩

instance : EmptyCollection Policies := ⟨empty⟩

/-- Declares the policy for a preset, in the place of an earlier one. -/
def insert (ps : Policies) (p : Preset) (policy : Policy) : Policies :=
  ⟨fun q => if q = p then some policy else ps.get? q⟩

/-- The declared policies in the order of the hierarchy. -/
def toList (ps : Policies) : List (Preset × Policy) :=
  Preset.all.filterMap fun p => (ps.get? p).map (p, ·)

/-- The policies of a list; the last one for a preset counts. -/
def ofList (es : List (Preset × Policy)) : Policies :=
  es.foldl (fun ps e => ps.insert e.1 e.2) empty

end Policies

/-! ## The choice -/

/-- Where the policy in effect was declared. -/
inductive PolicySource
  | requested | nodeDefault | baseline
deriving DecidableEq, Repr

namespace PolicySource

/-- The spelling of a source. -/
def name : PolicySource → String
  | requested => "requested"
  | nodeDefault => "node_default"
  | baseline => "baseline"

/-- The source as reports title it. -/
def title : PolicySource → String
  | requested => "Requested"
  | nodeDefault => "NodeDefault"
  | baseline => "Baseline"

end PolicySource

/-- The policy in effect under a preset. -/
structure EffectivePolicy where
  policy : Policy
  source : PolicySource
  requested : Preset

namespace EffectivePolicy

/-- The policy was not declared for the preset itself. -/
def isFallback (e : EffectivePolicy) : Bool := e.source ≠ .requested

/-- Chooses among declared policies. -/
def choose (declared : Policies) (default requested : Preset) : EffectivePolicy :=
  match declared.get? requested, declared.get? default with
  | some p, _ => ⟨p, .requested, requested⟩
  | none, some p => ⟨p, .nodeDefault, requested⟩
  | none, none => ⟨Policy.baseline, .baseline, requested⟩

end EffectivePolicy

/-! ## Actions on offer -/

/-- The user holds what the action requires. -/
def Action.permitted (a : Action) (granted : TermSet Capability) : Bool :=
  a.requiredCapability.all (· ∈ granted)

/-- The suggested actions that the user may take under a lens. -/
def Policy.actions (p : Policy) (granted : TermSet Capability) (readOnly : Bool) : List Action :=
  p.suggestedActions.filter fun a => a.permitted granted && !(readOnly && a.mutating)

end Wayfinder
