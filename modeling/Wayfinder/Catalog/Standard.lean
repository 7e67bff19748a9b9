import Wayfinder.Node.Basic

/-!
# The standard catalog

The screens of a project dashboard, in the order of the menu's declaration.
-/

namespace Wayfinder.StandardCatalog

/-- Project Dashboard. -/
def dashboard : Node where
  id := "dashboard"
  label := "Project Dashboard"
  route := "/dashboard"
  domain := .overview
  requiredCapabilities := .ofList [.viewDashboard]
  intents := .ofList [.statusOverview, .trackProgress]
  questions := ["How is the project doing?", "프로젝트 현황 보여줘"]
  entities := .ofList [.project, .phase, .milestone]
  keywords := ["dashboard", "overview", "status", "health", "대시보드", "현황", "요약"]
  metrics := ["schedule_variance", "open_issue_count", "requirement_coverage", "test_pass_rate"]
  defaultPreset := .execSummary
  policies := .ofList [
    (.execSummary, {
      density := .compact
      panel := .closed
      highlightedMetrics := ["schedule_variance", "open_issue_count"]
      suggestedActions := [
        ⟨"open_reports", "Open reports", some .viewReports, false⟩] }),
    (.pmWork, {
      density := .standard
      panel := .opened
      highlightedMetrics := ["schedule_variance", "requirement_coverage", "test_pass_rate"] }),
    (.devExecution, {
      density := .detailed
      highlightedMetrics := ["open_issue_count", "test_pass_rate"] })]
  links := [⟨"/dashboard?projectId=\x7bprojectId\x7d", ["projectId"]⟩, ⟨"/dashboard", []⟩]
  priority := 0
  scopeHints := ["projectId"]

/-- Issues. -/
def issues : Node where
  id := "issues"
  label := "Issues"
  route := "/issues"
  domain := .execution
  requiredCapabilities := .ofList [.viewIssues]
  intents := .ofList [.findBlockers, .manageBacklog, .trackProgress]
  questions := ["Which issues are blocking the release?", "이번 단계의 미해결 이슈는?"]
  entities := .ofList [.issue, .phase, .sprint]
  keywords := ["issue", "bug", "defect", "blocker", "ticket", "이슈", "결함", "버그"]
  metrics := ["open_issue_count", "overdue_issue_count", "mean_time_to_resolve"]
  defaultPreset := .pmWork
  policies := .ofList [
    (.execSummary, {
      density := .compact
      hiddenColumns := ["assignee", "labels", "updated_at"]
      highlightedMetrics := ["open_issue_count"] }),
    (.pmoControl, {
      density := .standard
      defaultFilters := .ofList [("severity", .text "CRITICAL")]
      highlightedMetrics := ["overdue_issue_count"] }),
    (.pmWork, {
      density := .standard
      panel := .opened
      defaultFilters := .ofList [("status", .text "OPEN")]
      highlightedMetrics := ["open_issue_count", "overdue_issue_count"]
      suggestedActions := [
        ⟨"create_issue", "New issue", some .manageIssues, true⟩,
        ⟨"bulk_assign", "Assign selected", some .manageIssues, true⟩] }),
    (.devExecution, {
      density := .detailed
      panel := .opened
      defaultFilters := .ofList [("mine", .flag true), ("status", .text "IN_PROGRESS")]
      suggestedActions := [
        ⟨"create_issue", "New issue", some .manageIssues, true⟩] }),
    (.auditEvidence, {
      density := .detailed
      hiddenColumns := ["labels"]
      suggestedActions := [
        ⟨"export_history", "Export change history", some .exportReports, false⟩] })]
  links := [
    ⟨"/projects/\x7bprojectId\x7d/issues?phaseId=\x7bphaseId\x7d", ["projectId", "phaseId"]⟩,
    ⟨"/projects/\x7bprojectId\x7d/issues", ["projectId"]⟩]
  priority := 10
  scopeHints := ["projectId", "phaseId"]

/-- Kanban Board. -/
def kanban : Node where
  id := "kanban"
  label := "Kanban Board"
  route := "/kanban"
  domain := .execution
  requiredCapabilities := .ofList [.viewKanban]
  intents := .ofList [.trackProgress, .manageBacklog]
  questions := ["What is in progress this sprint?", "칸반 보드 열어줘"]
  entities := .ofList [.issue, .task, .sprint]
  keywords := ["kanban", "board", "sprint", "wip", "칸반", "보드", "스프린트"]
  metrics := ["wip_count", "cycle_time"]
  defaultPreset := .devExecution
  policies := .ofList [
    (.pmWork, {
      density := .standard
      highlightedMetrics := ["cycle_time"] }),
    (.devExecution, {
      density := .detailed
      panel := .opened
      defaultFilters := .ofList [("mine", .flag true)]
      highlightedMetrics := ["wip_count"]
      suggestedActions := [
        ⟨"move_card", "Move card", some .manageIssues, true⟩] })]
  links := [
    ⟨"/projects/\x7bprojectId\x7d/kanban?sprintId=\x7bsprintId\x7d", ["projectId", "sprintId"]⟩,
    ⟨"/projects/\x7bprojectId\x7d/kanban", ["projectId"]⟩]
  priority := 20
  scopeHints := ["projectId", "sprintId"]

/-- Requirements. -/
def requirements : Node where
  id := "requirements"
  label := "Requirements"
  route := "/requirements"
  domain := .requirements
  requiredCapabilities := .ofList [.viewRequirements]
  intents := .ofList [.traceRequirements, .manageBacklog]
  questions := ["Which requirements changed since the baseline?", "요구사항 목록 보여줘"]
  entities := .ofList [.requirement, .phase]
  keywords := ["requirement", "spec", "baseline", "scope", "요구사항", "기준선", "범위"]
  metrics := ["requirement_count", "change_request_count"]
  defaultPreset := .pmWork
  policies := .ofList [
    (.pmWork, {
      density := .standard
      panel := .opened
      suggestedActions := [
        ⟨"create_requirement", "New requirement", some .manageRequirements, true⟩] }),
    (.customerApproval, {
      density := .compact
      defaultFilters := .ofList [("status", .text "PENDING_REVIEW")]
      hiddenColumns := ["internal_notes"] })]
  links := [⟨"/projects/\x7bprojectId\x7d/requirements", ["projectId"]⟩]
  priority := 30
  scopeHints := ["projectId", "phaseId"]

/-- Traceability Matrix. -/
def traceability : Node where
  id := "traceability"
  label := "Traceability Matrix"
  route := "/traceability"
  domain := .requirements
  requiredCapabilities := .ofList [.viewRequirements, .viewTraceability]
  intents := .ofList [.traceRequirements, .reviewQuality]
  questions := ["Which requirements have no test coverage?", "요구사항 추적 매트릭스"]
  entities := .ofList [.requirement, .testCase]
  keywords := ["traceability", "coverage", "matrix", "rtm", "추적", "추적성", "커버리지"]
  metrics := ["requirement_coverage", "untested_requirement_count"]
  defaultPreset := .pmoControl
  policies := .ofList [
    (.pmoControl, {
      density := .standard
      defaultFilters := .ofList [("uncovered", .flag true)]
      highlightedMetrics := ["requirement_coverage"] }),
    (.auditEvidence, {
      density := .detailed
      highlightedMetrics := ["requirement_coverage", "untested_requirement_count"] })]
  links := [⟨"/projects/\x7bprojectId\x7d/traceability", ["projectId"]⟩]
  priority := 35
  scopeHints := ["projectId"]

/-- Test Management. -/
def tests : Node where
  id := "tests"
  label := "Test Management"
  route := "/tests"
  domain := .quality
  requiredCapabilities := .ofList [.viewTests]
  intents := .ofList [.reviewQuality, .trackProgress]
  questions := ["What is the current test pass rate?", "실패한 테스트 케이스는?"]
  entities := .ofList [.testCase, .requirement, .issue]
  keywords := ["test", "qa", "pass rate", "regression", "테스트", "시험", "결과"]
  metrics := ["test_pass_rate", "failed_test_count", "executed_test_count"]
  defaultPreset := .devExecution
  policies := .ofList [
    (.pmWork, {
      density := .standard
      highlightedMetrics := ["test_pass_rate"] }),
    (.devExecution, {
      density := .detailed
      panel := .opened
      defaultFilters := .ofList [("result", .text "FAILED")]
      suggestedActions := [
        ⟨"run_tests", "Record test run", some .manageTests, true⟩] }),
    (.customerApproval, {
      density := .compact
      hiddenColumns := ["executor", "environment"]
      highlightedMetrics := ["test_pass_rate"] })]
  links := [
    ⟨"/projects/\x7bprojectId\x7d/tests?phaseId=\x7bphaseId\x7d", ["projectId", "phaseId"]⟩,
    ⟨"/projects/\x7bprojectId\x7d/tests", ["projectId"]⟩]
  priority := 40
  scopeHints := ["projectId", "phaseId"]

/-- Deliverables. -/
def deliverables : Node where
  id := "deliverables"
  label := "Deliverables"
  route := "/deliverables"
  domain := .delivery
  requiredCapabilities := .ofList [.viewDeliverables]
  intents := .ofList [.approveDeliverable, .trackProgress]
  questions := ["Which deliverables are waiting for my approval?", "승인 대기 산출물 보여줘"]
  entities := .ofList [.deliverable, .phase, .milestone]
  keywords := ["deliverable", "approval", "sign-off", "acceptance", "산출물", "승인", "검수"]
  metrics := ["pending_approval_count", "approved_deliverable_count"]
  defaultPreset := .customerApproval
  policies := .ofList [
    (.pmWork, {
      density := .standard
      panel := .opened
      suggestedActions := [
        ⟨"submit_for_review", "Submit for review", none, true⟩] }),
    (.customerApproval, {
      density := .compact
      panel := .opened
      defaultFilters := .ofList [("status", .text "PENDING_APPROVAL")]
      highlightedMetrics := ["pending_approval_count"]
      suggestedActions := [
        ⟨"approve", "Approve", some .approveDeliverables, true⟩,
        ⟨"reject", "Request changes", some .approveDeliverables, true⟩] })]
  links := [
    ⟨"/projects/\x7bprojectId\x7d/deliverables?phaseId=\x7bphaseId\x7d", ["projectId", "phaseId"]⟩,
    ⟨"/projects/\x7bprojectId\x7d/deliverables", ["projectId"]⟩]
  priority := 50
  scopeHints := ["projectId", "phaseId"]

/-- WBS & Schedule. -/
def wbs : Node where
  id := "wbs"
  label := "WBS & Schedule"
  route := "/wbs"
  domain := .planning
  requiredCapabilities := .ofList [.viewWbs]
  intents := .ofList [.planSchedule, .trackProgress]
  questions := ["Are we behind schedule?", "일정 지연 작업은?"]
  entities := .ofList [.task, .phase, .milestone]
  keywords := ["wbs", "schedule", "gantt", "plan", "task", "일정", "작업", "계획", "간트"]
  metrics := ["schedule_variance", "planned_progress", "actual_progress"]
  defaultPreset := .pmWork
  policies := .ofList [
    (.execSummary, {
      density := .compact
      highlightedMetrics := ["schedule_variance"] }),
    (.pmWork, {
      density := .detailed
      panel := .opened
      highlightedMetrics := ["planned_progress", "actual_progress"]
      suggestedActions := [
        ⟨"edit_wbs", "Edit WBS", some .manageWbs, true⟩,
        ⟨"set_baseline", "Save baseline", some .manageWbs, true⟩] })]
  links := [⟨"/projects/\x7bprojectId\x7d/wbs", ["projectId"]⟩]
  priority := 60
  scopeHints := ["projectId"]

/-- Milestones. -/
def milestones : Node where
  id := "milestones"
  label := "Milestones"
  route := "/milestones"
  domain := .planning
  requiredCapabilities := .ofList [.viewWbs]
  intents := .ofList [.planSchedule, .statusOverview]
  questions := ["When is the next milestone?", "다음 마일스톤 일정"]
  entities := .ofList [.milestone, .phase]
  keywords := ["milestone", "gate", "deadline", "마일스톤", "단계", "마감"]
  metrics := ["milestone_slip_days"]
  defaultPreset := .pmoControl
  policies := .ofList [
    (.pmoControl, {
      density := .standard
      highlightedMetrics := ["milestone_slip_days"] })]
  links := [⟨"/projects/\x7bprojectId\x7d/milestones", ["projectId"]⟩]
  priority := 65
  scopeHints := ["projectId"]

/-- Reports. -/
def reports : Node where
  id := "reports"
  label := "Reports"
  route := "/reports"
  domain := .reporting
  requiredCapabilities := .ofList [.viewReports]
  intents := .ofList [.analyzeTrends, .statusOverview]
  questions := ["Show the weekly status report", "주간 보고서"]
  entities := .ofList [.report, .project]
  keywords := ["report", "weekly", "trend", "kpi", "보고서", "리포트", "주간", "추이"]
  metrics := ["burn_down", "defect_trend"]
  defaultPreset := .execSummary
  policies := .ofList [
    (.execSummary, {
      density := .compact
      highlightedMetrics := ["burn_down"]
      suggestedActions := [
        ⟨"export_pdf", "Export PDF", some .exportReports, false⟩] }),
    (.pmoControl, {
      density := .standard
      highlightedMetrics := ["burn_down", "defect_trend"] })]
  links := [⟨"/projects/\x7bprojectId\x7d/reports", ["projectId"]⟩]
  priority := 70
  scopeHints := ["projectId"]

/-- Audit Evidence. -/
def auditEvidence : Node where
  id := "audit-evidence"
  label := "Audit Evidence"
  route := "/audit"
  domain := .governance
  requiredCapabilities := .ofList [.viewAuditLog]
  intents := .ofList [.collectEvidence]
  questions := ["Who approved this deliverable and when?", "감사 증적 자료"]
  entities := .ofList [.auditRecord, .deliverable, .requirement]
  keywords := ["audit", "evidence", "history", "compliance", "감사", "증적", "이력"]
  metrics := ["evidence_count"]
  defaultPreset := .auditEvidence
  policies := .ofList [
    (.auditEvidence, {
      density := .detailed
      panel := .opened
      suggestedActions := [
        ⟨"export_evidence", "Export evidence pack", some .exportReports, false⟩] })]
  links := [⟨"/projects/\x7bprojectId\x7d/audit", ["projectId"]⟩]
  priority := 90
  scopeHints := ["projectId"]

/-- The screens of the standard catalog. -/
def nodes : List Node :=
  [dashboard, issues, kanban, requirements, traceability, tests, deliverables, wbs, milestones,
    reports, auditEvidence]

end Wayfinder.StandardCatalog
