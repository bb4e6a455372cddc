/-
SLA-01, contractual response commitments
(`service-delivery/contractual-response-commitments/test.py`).

The test asks two questions: whether the internal targets are the contractual ones
(`examineCommitment`), and whether each incident was answered in time (`examineIncident`).  An
incident that no commitment governs is passed over without a row.  Hours and percentages are exact
rationals where the source has floats.
-/
import AssuranceOS.Lib.Dict
import AssuranceOS.Portfolio.Scoring
import AssuranceOS.TestsLibrary.Procedures
import Mathlib.Data.List.MinMax

namespace TestsLibrary

open Visit

namespace ContractualResponseCommitments

open Orchestration (roundHalfEven)
open Portfolio (fixed)

structure Incident where
  incidentId : String
  customer : String
  priority : String
  openedAt : String
  firstResponseAt : Option String := none
  operatedTargetHours : ℕ
  evidenceId : Option String := none

structure Commitment where
  contractRef : String
  customer : String
  priority : String
  responseHours : ℕ
  effectiveFrom : String
  effectiveTo : Option String := none
  creditPctPerBreach : Option ℚ := none
  creditCapPct : Option ℚ := none
  monthlyFeeEur : Option ℚ := none
  evidenceId : Option String := none

structure DocumentedTarget where
  priority : String
  scope : String
  responseHours : ℕ
  documentRef : String
  evidenceId : Option String := none

structure Datasets where
  incidents : List Incident
  contractCommitments : List Commitment
  documentedTargets : List DocumentedTarget

structure Row where
  incidentId : String
  customer : String
  priority : String
  openedAt : String
  firstResponseAt : Option String
  responseHours : Option ℚ
  contractualTargetHours : ℕ
  operatedTargetHours : ℕ
  contractRef : String
  classification : Classification

inductive Attributes where
  | design (customer priority : String) (contractualHours : ℕ) (documentedHours : Option ℕ)
      (operatedHours : List ℕ) (contractRef effectiveFrom : String) (documentRef : Option String)
  | breach (row : Row) (creditPctPerBreach : ℚ)

/-- What the breaches of one customer add up to. -/
structure CreditSummary where
  breaches : ℕ := 0
  creditPct : ℚ := 0
  capPct : ℚ
  monthlyFeeEur : ℚ

structure Exposure where
  customer : String
  breaches : ℕ
  creditPctBeforeCap : ℚ
  creditPctApplied : ℚ
  monthlyFeeEur : ℚ
  creditValueEur : ℚ

structure ResponseResult extends TestResult Row Attributes where
  serviceCreditExposure : List Exposure

/-- `a < b`. -/
def lessThan (a b : Moment) : Except Raised Bool :=
  if a.aware = b.aware then .ok (a.instant < b.instant) else .error .typeError

/-- `_in_force`; a commitment without an end is in force from its start on. -/
def inForce (clock : Clock) (commitment : Commitment) (at' : Moment) : Except Raised Bool := do
  let starts ← clock.moment (dayStart commitment.effectiveFrom)
  if ← lessThan at' starts then return false
  match commitment.effectiveTo with
  | none => return true
  | some ends =>
    if ends = "" then return true
    let ends ← clock.moment (dayEnd ends)
    at'.le ends

def ifInForce {β : Type} (clock : Clock) (commitment : Commitment) (at' : Moment) (b : Option β) :
    Except Raised (Option β) := do
  if ← inForce clock commitment at' then return b else return none

/-- The hours from the opening to the first response, if there is one. -/
def elapsedHours (clock : Clock) (opened : Moment) (responded : Option String) :
    Except Raised (Option ℚ) :=
  match responded with
  | none => .ok none
  | some text => do
    if text = "" then return none
    let responded ← clock.moment text
    if responded.aware = opened.aware then
      return some ((responded.instant - opened.instant : ℤ) / 3600000000)
    else .error .typeError

def documentedOf (datasets : Datasets) : List ((String × String) × DocumentedTarget) :=
  Dict.ofPairs (datasets.documentedTargets.map fun item =>
    ((item.priority, if item.scope = "" then "all" else item.scope), item))

/-- `sorted(operated_by_priority.get(priority, set()))`. -/
def operatedHours (incidents : List Incident) (priority : String) : List ℕ :=
  (((incidents.filter fun incident => incident.priority = priority).map
    (·.operatedTargetHours)).dedup).insertionSort (· ≤ ·)

/-- The exception for a commitment that is documented or operated with another target. -/
def designGap (datasets : Datasets) (commitment : Commitment) :
    Option (TestException Attributes) :=
  let contractual := commitment.responseHours
  let reference := (documentedOf datasets).lookup (commitment.priority, "all")
  let documentedHours := reference.map (·.responseHours)
  let operated := operatedHours datasets.incidents commitment.priority
  let stale := operated.filter (· ≠ contractual)
  let detail :=
    (match reference with
      | some target => if target.responseHours ≠ contractual then
          ["the documented procedure states " ++ toString target.responseHours ++ " hours (" ++
            target.documentRef ++ ")"] else []
      | none => []) ++
    (if stale ≠ [] then ["the ticketing configuration applied " ++
        String.intercalate ", " (stale.map fun value => toString value ++ " hours") ++
        " to incidents in the period"] else [])
  if documentedHours = some contractual ∧ stale = [] then none
  else some {
    exceptionKey := "SLA-01:design:" ++ commitment.customer ++ ":" ++ commitment.priority
    subjectRef := commitment.contractRef ++ ":" ++ commitment.priority
    classification := "control_design_gap"
    reason := commitment.customer ++ " is owed a " ++ toString contractual ++ "-hour " ++
      commitment.priority ++ " response under " ++ commitment.contractRef ++ " effective " ++
      commitment.effectiveFrom ++ ", but " ++ String.intercalate "; and " detail ++
      ". Incidents are therefore measured against a superseded target."
    attributes := .design commitment.customer commitment.priority contractual documentedHours
      operated commitment.contractRef commitment.effectiveFrom (reference.map (·.documentRef))
    evidenceIds := evidenceOf [commitment.evidenceId, reference.bind (·.evidenceId)] }

/-- The body of the first loop; only what is in force at the end of the period is compared. -/
def examineCommitment (clock : Clock) (datasets : Datasets) (priorities : List String)
    (periodEnd : Moment) (commitment : Commitment) :
    Except Raised (Option (TestException Attributes)) :=
  if commitment.priority ∈ priorities then
    ifInForce clock commitment periodEnd (designGap datasets commitment)
  else .ok none

/-- `round(q, 2)`. -/
def round2 (q : ℚ) : ℚ := roundHalfEven (q * 100) / 100

/-- A number of two decimals as it is written in a text, which is never negative there. -/
def hoursText : Option ℚ → String
  | none => "None"
  | some q => if q * 10 = roundHalfEven (q * 10) then fixed 1 q else fixed 2 q

/-- What the body of the second loop appends; a breach goes on to the service credits. -/
structure Examined where
  row : Row
  breach : Option (TestException Attributes × Commitment)

/-- The row of a governed incident, and the exception of a breach. -/
def examine (incident : Incident) (commitment : Commitment) (elapsed : Option ℚ) : Examined :=
  let target := commitment.responseHours
  let breached := elapsed.all fun hours => (target : ℚ) < hours
  let row : Row := {
    incidentId := incident.incidentId
    customer := incident.customer
    priority := incident.priority
    openedAt := incident.openedAt
    firstResponseAt := incident.firstResponseAt
    responseHours := elapsed.map round2
    contractualTargetHours := target
    operatedTargetHours := incident.operatedTargetHours
    contractRef := commitment.contractRef
    classification := if breached then .controlException else .effective }
  { row
    breach := if breached then some ({
        exceptionKey := "SLA-01:breach:" ++ incident.incidentId
        subjectRef := "jira:" ++ incident.incidentId
        classification := "sla_breach"
        reason := "first response after " ++ hoursText row.responseHours ++
          " hours against a contractual target of " ++ toString target ++ " hours (" ++
          commitment.contractRef ++ "); the ticket records the target as " ++
          toString incident.operatedTargetHours ++ " hours and is marked met"
        attributes := .breach row (commitment.creditPctPerBreach.getD 0)
        evidenceIds := evidenceOf [incident.evidenceId, commitment.evidenceId] }, commitment)
      else none }

/-- The commitment is to the customer of the incident, for its priority. -/
def Applies (incident : Incident) (commitment : Commitment) : Prop :=
  commitment.customer = incident.customer ∧ commitment.priority = incident.priority

instance (incident : Incident) : DecidablePred (Applies incident) := fun commitment =>
  inferInstanceAs (Decidable (commitment.customer = _ ∧ commitment.priority = _))

/-- The commitments that apply to the incident and were in force when it was opened. -/
def governing (clock : Clock) (commitments : List Commitment) (incident : Incident)
    (opened : Moment) : Except Raised (List Commitment) :=
  visit (fun item =>
    if Applies incident item then ifInForce clock item opened (some item) else .ok none)
    commitments

/-- `max` of what governs, by the start; an incident that nothing governs is passed over. -/
def answer (clock : Clock) (incident : Incident) (opened : Moment) (found : List Commitment) :
    Except Raised (Option Examined) :=
  match found.argmax (·.effectiveFrom) with
  | none => .ok none
  | some commitment => do
    let elapsed ← elapsedHours clock opened incident.firstResponseAt
    return some (examine incident commitment elapsed)

def examineIncident (clock : Clock) (commitments : List Commitment) (priorities : List String)
    (periodStart periodEnd : Moment) (incident : Incident) : Except Raised (Option Examined) := do
  let opened ← clock.moment incident.openedAt
  let within ← between periodStart opened periodEnd
  if within ∧ incident.priority ∈ priorities then
    let found ← governing clock commitments incident opened
    answer clock incident opened found
  else return none

/-- The cap and the fee are those of the first breach of the customer. -/
def addBreach (credits : List (String × CreditSummary)) (commitment : Commitment) :
    List (String × CreditSummary) :=
  let summary := (credits.lookup commitment.customer).getD {
    capPct := commitment.creditCapPct.getD 0
    monthlyFeeEur := commitment.monthlyFeeEur.getD 0 }
  Dict.set credits commitment.customer { summary with
    breaches := summary.breaches + 1
    creditPct := summary.creditPct + commitment.creditPctPerBreach.getD 0 }

def exposureOf (customer : String) (summary : CreditSummary) : Exposure :=
  let applied := if summary.capPct ≠ 0 then min summary.creditPct summary.capPct
    else summary.creditPct
  { customer
    breaches := summary.breaches
    creditPctBeforeCap := round2 summary.creditPct
    creditPctApplied := round2 applied
    monthlyFeeEur := summary.monthlyFeeEur
    creditValueEur := round2 (summary.monthlyFeeEur * applied / 100) }

def exposure (breaches : List Commitment) : List Exposure :=
  ((breaches.foldl addBreach []).insertionSort fun a b => a.1 ≤ b.1).map fun entry =>
    exposureOf entry.1 entry.2

def limitations : List String :=
  ["Response times are read from the ticketing system's own timestamps; whether a recorded " ++
    "first response was substantive is not testable from this population.",
    "Contract coverage windows (business hours versus 24x7) are reported but not applied: every " ++
    "incident in this population was opened outside business hours, so applying the window " ++
    "would only widen the breach."]

def resultOf (gaps : List (TestException Attributes)) (examined : List Examined) :
    ResponseResult :=
  let breaches := examined.filterMap (·.breach)
  let exceptions := gaps ++ breaches.map (·.1)
  { conclusion := if exceptions ≠ [] then .ineffective else .effective
    rows := examined.map (·.row)
    exceptions
    limitations
    serviceCreditExposure := exposure (breaches.map (·.2)) }

/-- The test over the commitments and the incidents of the period. -/
def execute (clock : Clock) (datasets : Datasets) (priorities : List String)
    (context : Context) : Except Raised ResponseResult := do
  let periodStart ← clock.moment (dayStart context.periodStart)
  let periodEnd ← clock.moment (dayEnd context.periodEnd)
  let gaps ← visit (examineCommitment clock datasets priorities periodEnd)
    datasets.contractCommitments
  let examined ← visit (examineIncident clock datasets.contractCommitments priorities periodStart
    periodEnd) datasets.incidents
  return resultOf gaps examined

end ContractualResponseCommitments

end TestsLibrary
