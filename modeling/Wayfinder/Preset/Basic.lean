import Wayfinder.Vocabulary.Term

/-!
# View presets

A preset is a lens through which the same screens are shown. The presets form a hierarchy from
the most authoritative, `EXEC_SUMMARY`, down to `AUDIT_EVIDENCE`, which is terminal: a session
that enters it stays there.
-/

namespace Wayfinder

/-- A view preset. -/
inductive Preset
  | execSummary | pmoControl | pmWork | devExecution | customerApproval | auditEvidence
deriving DecidableEq, Repr

namespace Preset

/-- Every preset, the most authoritative first. -/
def all : List Preset :=
  [execSummary, pmoControl, pmWork, devExecution, customerApproval, auditEvidence]

/-- The spelling of a preset. -/
def name : Preset → String
  | execSummary => "EXEC_SUMMARY"
  | pmoControl => "PMO_CONTROL"
  | pmWork => "PM_WORK"
  | devExecution => "DEV_EXECUTION"
  | customerApproval => "CUSTOMER_APPROVAL"
  | auditEvidence => "AUDIT_EVIDENCE"

instance : Term Preset where
  all := all
  kind := "preset"
  name := name
  anyCase := true
  mem_all a := by cases a <;> decide
  nodup_all := by decide
  name_injective a b := by cases a <;> cases b <;> decide

/-- The place in the hierarchy, 0 at its head. -/
def rank : Preset → Nat
  | execSummary => 0
  | pmoControl => 1
  | pmWork => 2
  | devExecution => 3
  | customerApproval => 4
  | auditEvidence => 5

/-- The hierarchy is the order of declaration. -/
theorem rank_eq_index (p : Preset) : p.rank = Term.index p := by
  cases p <;> rfl

/-- No session leaves this preset. -/
def isTerminal (p : Preset) : Bool :=
  p = auditEvidence

/-- The preset where nothing else is known. -/
def baseline : Preset := devExecution

instance : Inhabited Preset := ⟨baseline⟩

end Preset

end Wayfinder
