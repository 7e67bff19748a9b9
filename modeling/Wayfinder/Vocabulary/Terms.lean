import Wayfinder.Vocabulary.Term

/-!
# The vocabularies of the navigation map

What a user may do (`Capability`), the areas that screens belong to (`Domain`), what a user may
be after (`Intent`), and the kinds of things that screens are about (`Entity`).
-/

namespace Wayfinder

/-! ## Capabilities -/

/-- A permission to see or change one part of a project. -/
inductive Capability
  | viewDashboard | viewIssues | manageIssues | viewKanban | viewRequirements | manageRequirements
  | viewTraceability | viewTests | manageTests | viewDeliverables | approveDeliverables | viewWbs
  | manageWbs | viewReports | exportReports | viewAuditLog
deriving DecidableEq, Repr

namespace Capability

/-- Every capability. -/
def all : List Capability :=
  [viewDashboard, viewIssues, manageIssues, viewKanban, viewRequirements, manageRequirements,
    viewTraceability, viewTests, manageTests, viewDeliverables, approveDeliverables, viewWbs,
    manageWbs, viewReports, exportReports, viewAuditLog]

/-- The spelling of a capability. -/
def name : Capability → String
  | viewDashboard => "view_dashboard"
  | viewIssues => "view_issues"
  | manageIssues => "manage_issues"
  | viewKanban => "view_kanban"
  | viewRequirements => "view_requirements"
  | manageRequirements => "manage_requirements"
  | viewTraceability => "view_traceability"
  | viewTests => "view_tests"
  | manageTests => "manage_tests"
  | viewDeliverables => "view_deliverables"
  | approveDeliverables => "approve_deliverables"
  | viewWbs => "view_wbs"
  | manageWbs => "manage_wbs"
  | viewReports => "view_reports"
  | exportReports => "export_reports"
  | viewAuditLog => "view_audit_log"

instance : Term Capability where
  all := all
  kind := "capability"
  name := name
  mem_all a := by cases a <;> decide
  nodup_all := by decide
  name_injective a b := by cases a <;> cases b <;> decide

end Capability

/-! ## Domains -/

/-- An area of project work. -/
inductive Domain
  | overview | execution | requirements | quality | delivery | planning | reporting | governance
deriving DecidableEq, Repr

namespace Domain

/-- Every domain. -/
def all : List Domain :=
  [overview, execution, requirements, quality, delivery, planning, reporting, governance]

/-- The spelling of a domain. -/
def name : Domain → String
  | overview => "overview"
  | execution => "execution"
  | requirements => "requirements"
  | quality => "quality"
  | delivery => "delivery"
  | planning => "planning"
  | reporting => "reporting"
  | governance => "governance"

instance : Term Domain where
  all := all
  kind := "domain"
  name := name
  mem_all a := by cases a <;> decide
  nodup_all := by decide
  name_injective a b := by cases a <;> cases b <;> decide

end Domain

/-! ## Intents -/

/-- What a user wants to find out or get done. -/
inductive Intent
  | statusOverview | trackProgress | findBlockers | manageBacklog | traceRequirements
  | reviewQuality | approveDeliverable | planSchedule | analyzeTrends | collectEvidence
deriving DecidableEq, Repr

namespace Intent

/-- Every intent. -/
def all : List Intent :=
  [statusOverview, trackProgress, findBlockers, manageBacklog, traceRequirements, reviewQuality,
    approveDeliverable, planSchedule, analyzeTrends, collectEvidence]

/-- The spelling of an intent. -/
def name : Intent → String
  | statusOverview => "status_overview"
  | trackProgress => "track_progress"
  | findBlockers => "find_blockers"
  | manageBacklog => "manage_backlog"
  | traceRequirements => "trace_requirements"
  | reviewQuality => "review_quality"
  | approveDeliverable => "approve_deliverable"
  | planSchedule => "plan_schedule"
  | analyzeTrends => "analyze_trends"
  | collectEvidence => "collect_evidence"

instance : Term Intent where
  all := all
  kind := "intent"
  name := name
  mem_all a := by cases a <;> decide
  nodup_all := by decide
  name_injective a b := by cases a <;> cases b <;> decide

end Intent

/-! ## Entities -/

/-- A kind of thing that a project keeps records of. -/
inductive Entity
  | project | phase | issue | requirement | testCase | deliverable | task | sprint | report
  | milestone | auditRecord
deriving DecidableEq, Repr

namespace Entity

/-- Every kind of entity. -/
def all : List Entity :=
  [project, phase, issue, requirement, testCase, deliverable, task, sprint, report, milestone,
    auditRecord]

/-- The spelling of a kind of entity. -/
def name : Entity → String
  | project => "project"
  | phase => "phase"
  | issue => "issue"
  | requirement => "requirement"
  | testCase => "test_case"
  | deliverable => "deliverable"
  | task => "task"
  | sprint => "sprint"
  | report => "report"
  | milestone => "milestone"
  | auditRecord => "audit_record"

instance : Term Entity where
  all := all
  kind := "entity"
  name := name
  mem_all a := by cases a <;> decide
  nodup_all := by decide
  name_injective a b := by cases a <;> cases b <;> decide

end Entity

end Wayfinder
