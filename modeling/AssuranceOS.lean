import AssuranceOS.Orchestration.Attempts
import AssuranceOS.Orchestration.Gates
import AssuranceOS.Orchestration.Cancellation
import AssuranceOS.Orchestration.Progress
import AssuranceOS.Orchestration.Projection
import AssuranceOS.Orchestration.Completion
import AssuranceOS.Adjudication.HumanGate
import AssuranceOS.Adjudication.Remediation
import AssuranceOS.Adjudication.Severity
import AssuranceOS.Adjudication.Filing
import AssuranceOS.Vault.Inheritance
import AssuranceOS.Vault.Integrity
import AssuranceOS.Outbox.Dispatch
import AssuranceOS.Scheduling.Isolation
import AssuranceOS.ControlTesting.Reproducibility
import AssuranceOS.Governance.LeaseAuthority
import AssuranceOS.Connectors.Conflicts
import AssuranceOS.Connectors.JiraScope
import AssuranceOS.Connectors.Origins
import AssuranceOS.Sandbox.Credentials
import AssuranceOS.Adjudication.Standing
import AssuranceOS.Monitoring.Evaluation
import AssuranceOS.Standards.Determinism
import AssuranceOS.Standards.Effectivity
import AssuranceOS.Governance.EngagementScope
import AssuranceOS.Scheduling.FinalStatuses
import AssuranceOS.Scheduling.Tiling
import AssuranceOS.Vault.WellFormed
import AssuranceOS.Governance.CallAuthority
import AssuranceOS.Scheduling.Missed
import AssuranceOS.Orchestration.Confluence
import AssuranceOS.Portfolio.AsAt
import AssuranceOS.Portfolio.Plans
import AssuranceOS.Portfolio.Overrides
import AssuranceOS.TestsLibrary.Populations
import AssuranceOS.Connectors.Pagination
import AssuranceOS.Orchestration.Acceptance
import AssuranceOS.Governance.JsonReplies
import AssuranceOS.Governance.Reasoning
import AssuranceOS.Onboarding.Readiness
import AssuranceOS.Reporting.Grounding
import AssuranceOS.Reporting.Retrieval
import AssuranceOS.Spreadsheet.Placement
import AssuranceOS.Orchestration.History
import AssuranceOS.Adjudication.History
import AssuranceOS.Vault.History
