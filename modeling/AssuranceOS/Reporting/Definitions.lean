/-
The claim graph and evidence-grounded reporting (`reporting/definitions.py`).

What the pydantic validators of the source refuse cannot be built here.  A confidence is given by
its literal, and times are instants on the UTC time line.
-/
import AssuranceOS.Lib.PythonValue
import AssuranceOS.Scheduling.Calendar

namespace Reporting

open JsonText (FloatLiteral)
open Scheduling (Date)
open Orchestration (Timestamp validKey)

inductive ClaimType where
  | observation
  | conclusion
  | opinion
  | recommendation
  | context
  | limitation
  deriving DecidableEq, Repr

def ClaimType.value : ClaimType → String
  | .observation => "observation"
  | .conclusion => "conclusion"
  | .opinion => "opinion"
  | .recommendation => "recommendation"
  | .context => "context"
  | .limitation => "limitation"

inductive ReportType where
  | engagementReport
  | executiveSummary
  | auditCommitteeSummary
  | findingsRegister
  | remediationDashboard
  | coverageAndLimitations
  | technicalEvidencePackage
  deriving DecidableEq, Repr

def ReportType.value : ReportType → String
  | .engagementReport => "engagement_report"
  | .executiveSummary => "executive_summary"
  | .auditCommitteeSummary => "audit_committee_summary"
  | .findingsRegister => "findings_register"
  | .remediationDashboard => "remediation_dashboard"
  | .coverageAndLimitations => "coverage_and_limitations"
  | .technicalEvidencePackage => "technical_evidence_package"

/-- A statement of the report, and what it rests on. -/
structure ClaimInput where
  key : String
  claimType : ClaimType
  statement : String
  material : Bool := true
  confidence : FloatLiteral
  supportingEvidenceIds : List String := []
  contradictingEvidenceIds : List String := []
  qualifyingEvidenceIds : List String := []
  limitations : List String := []
  findingId : Option String := none
  taskId : Option String := none
  key_valid : validKey key = true
  statement_length : 10 ≤ statement.length
  /-- `a_limitation_claim_is_not_gated_on_evidence`. -/
  limitation_not_material : claimType = .limitation → material = false

def ClaimInput.cited (claim : ClaimInput) : List String :=
  claim.supportingEvidenceIds ++ claim.contradictingEvidenceIds ++ claim.qualifyingEvidenceIds

structure ReuseJustification where
  evidenceId : String
  rationale : String
  approvedBy : String
  rationale_length : 20 ≤ rationale.length ∧ rationale.length ≤ 2000
  approvedBy_length : 1 ≤ approvedBy.length ∧ approvedBy.length ≤ 128

/-- When evidence is current enough to support a claim. -/
structure EvidencePolicy where
  freshnessDays : ℕ := 400
  allowOutOfPeriod : Bool := false
  allowCrossEngagement : Bool := false
  allowTaintedSoleSupport : Bool := false
  one_le_freshnessDays : 1 ≤ freshnessDays

structure EvidenceView where
  evidenceId : String
  engagementId : Option String
  sourceType : String
  sourceLocator : String
  classification : String
  accepted : Bool
  tainted : Bool
  integrityStatus : String
  deleted : Bool
  collectedAt : Timestamp
  sourceTime : Option Timestamp
  contentSha256 : String
  deriving DecidableEq, Repr

/-- `is_admissible`. -/
def EvidenceView.isAdmissible (v : EvidenceView) : Bool :=
  v.accepted && !v.deleted && (v.integrityStatus = "verified" || v.integrityStatus = "unverified")

structure ReportSection where
  key : String
  heading : String
  claimKeys : List String := []
  narrative : String := ""
  deriving DecidableEq, Repr

structure ReportTemplate where
  templateId : String
  version : String
  reportType : ReportType
  title : String
  sections : List ReportSection
  requiredSections : List String := []
  sections_ne_nil : sections ≠ []
  required_defined : ∀ key ∈ requiredSections, key ∈ sections.map (·.key)
  keys_nodup : (sections.map (·.key)).Nodup

def ReportTemplate.reference (t : ReportTemplate) : String := t.templateId ++ "@" ++ t.version

/-- Everything a render depends on. -/
structure ReportRequest where
  template : ReportTemplate
  claims : List ClaimInput
  periodStart : Date
  periodEnd : Date
  asAt : Date
  policy : EvidencePolicy
  reuseJustifications : List ReuseJustification := []
  preparedBy : String
  claims_ne_nil : claims ≠ []
  keys_nodup : (claims.map (·.key)).Nodup
  referenced_supplied : ∀ s ∈ template.sections, ∀ key ∈ s.claimKeys, key ∈ claims.map (·.key)

/-- Why a claim cannot be rendered. -/
inductive IssueCode where
  | unknownEvidence
  | inadmissibleEvidence (accepted deleted : Bool) (integrityStatus : String)
  | crossEngagementReuse (engagementId : String)
  | outOfPeriodEvidence (moment periodStart periodEnd : Date)
  | staleEvidence (age : ℤ) (freshnessDays : ℕ)
  | unsupportedMaterialClaim
  | taintedSoleSupport
  | undisclosedContradiction (records : ℕ)
  | emptyRequiredSection (template : String)
  deriving DecidableEq, Repr

structure ClaimIssue where
  claimKey : String
  code : IssueCode
  evidenceId : Option String := none
  deriving DecidableEq, Repr

end Reporting
