/-
The contradiction search over a proposed finding (`adjudication/skeptic.py`) and remediation tickets
(`adjudication/ticketing.py`).

In a canonical record a missing key is `none`, and a value that `_as_date` cannot read is a missing
date.  A contradiction whose text is too long for its field makes the search raise.

A `TicketWriter` answers a request with a ticket or with the text of the exception it raises; a
`RestWriter` is an adapter for one of the two providers.
-/
import AssuranceOS.Adjudication.Definitions

namespace Adjudication

structure ExceptionRow where
  subjectRef : Option String := none
  exceptionKey : Option String := none
  /-- `occurred_on` inside `attributes`. -/
  attributeOccurredOn : Option Date := none
  occurredOn : Option Date := none

structure ApprovedException where
  subjectRef : Option String
  expiresOn : Option Date := none
  reference : Option String := none
  evidenceId : Option String := none

structure CompensatingControl where
  coversSubjects : List String
  testedEffective : Bool
  controlRef : Option String := none
  evidenceId : Option String := none

structure SkepticReviewer where
  approvedExceptions : List ApprovedException := []
  periodStart : Option Date := none
  periodEnd : Option Date := none
  compensatingControls : List CompensatingControl := []
  existingCodes : List String := []

/-- `str(row.get("subject_ref") or row.get("exception_key") or "")`. -/
def ExceptionRow.subject (row : ExceptionRow) : String :=
  if PyString.truthy row.subjectRef then row.subjectRef.getD "" else row.exceptionKey.getD ""

/-- `str(row.get("subject_ref") or row.get("exception_key"))`; a row with
neither key is named `None`. -/
def ExceptionRow.name (row : ExceptionRow) : String :=
  if PyString.truthy row.subjectRef then row.subjectRef.getD "" else row.exceptionKey.getD "None"

def Contradiction.create (kind : ContradictionKind) (subjectRef detail : String)
    (evidenceIds : List String) : Except AdjudicationError Contradiction :=
  if h : LengthIn 3 2000 detail then
    .ok { kind, subjectRef, detail, evidenceIds, detail_length := h }
  else .error .validationError

/-- `counted` of `text.py`. -/
def counted (count : Nat) (singular : String) : String :=
  count.repr ++ " " ++ if count = 1 then singular else singular ++ "s"

/-- `[str(record["evidence_id"])] if record.get("evidence_id") else []`. -/
def citedEvidence (evidenceId : Option String) : List String :=
  if PyString.truthy evidenceId then [evidenceId.getD ""] else []

namespace SkepticReviewer

variable (s : SkepticReviewer)

def waives (subject : String) (approval : ApprovedException) : Bool :=
  approval.subjectRef.getD "None" = subject &&
    match approval.expiresOn, s.periodEnd with
    | some expires, some periodEnd => !expires.lt periodEnd
    | _, _ => true

def approvedExceptionsOf (rows : List ExceptionRow) :
    Except AdjudicationError (List Contradiction) :=
  let found := rows.filterMap fun row =>
    (s.approvedExceptions.find? (s.waives row.subject)).map fun approval => (row.subject, approval)
  found.mapM fun (subject, approval) =>
    Contradiction.create .approvedException subject
      (subject ++ " is covered by approved exception " ++ approval.reference.getD "unknown" ++
        match approval.expiresOn with
        | some expires => ", valid to " ++ expires.isoformat
        | none => "")
      (citedEvidence approval.evidenceId)

def outOfPeriod (rows : List ExceptionRow) : Except AdjudicationError (List Contradiction) :=
  match s.periodStart, s.periodEnd with
  | some start, some stop =>
    let found := rows.filterMap fun row =>
      (row.attributeOccurredOn.or row.occurredOn).bind fun occurred =>
        if !occurred.lt start && !stop.lt occurred then none else some (row.subject, occurred)
    found.mapM fun (subject, occurred) =>
      Contradiction.create .outOfPeriod subject
        (subject ++ " occurred on " ++ occurred.isoformat ++ ", outside the audit period " ++
          start.isoformat ++ " to " ++ stop.isoformat) []
  | _, _ => .ok []

def compensating (rows : List ExceptionRow) : Except AdjudicationError (List Contradiction) :=
  let found := rows.filterMap fun row =>
    (s.compensatingControls.find? fun control =>
      control.coversSubjects.contains row.subject && control.testedEffective).map
      fun control => (row.subject, control)
  found.mapM fun (subject, control) =>
    Contradiction.create .compensatingControl subject
      (subject ++ " is covered by compensating control " ++ control.controlRef.getD "unknown" ++
        ", tested effective")
      (citedEvidence control.evidenceId)

def duplicate (finding : ProposedFinding) : Except AdjudicationError (List Contradiction) :=
  if s.existingCodes.contains finding.code then
    (Contradiction.create .duplicateOfExisting finding.code
      ("a finding with code " ++ finding.code ++ " already exists in this engagement") []).map
      fun c => [c]
  else .ok []

/-- `review`. -/
def review (finding : ProposedFinding) (rows : List ExceptionRow) :
    Except AdjudicationError SkepticVerdict := do
  let contradictions := (← s.approvedExceptionsOf rows) ++ (← s.outOfPeriod rows) ++
    (← s.compensating rows) ++ (← s.duplicate finding)
  let isDuplicate (c : Contradiction) : Bool := c.kind = .duplicateOfExisting
  let subjects := (rows.map (·.name)).dedup
  let contradicted := (contradictions.filter fun c => !isDuplicate c).map (·.subjectRef)
  let surviving := subjects.filter fun subject => !contradicted.contains subject
  -- without exceptions there is nothing to contradict
  if rows = [] then return { supported := true, contradictions }
  else if contradictions.any isDuplicate then
    return { supported := false, contradictions
             rationale := finding.code ++ " is already raised in this engagement" }
  else if surviving = [] then
    return { supported := false, contradictions
             rationale := "all " ++ counted subjects.length "exception" ++ " behind " ++
               finding.code ++ " are explained by canonical records" }
  else
    return { supported := true, contradictions
             rationale := surviving.length.repr ++ " of " ++
               counted subjects.length "exception" ++ " remain unexplained" }

end SkepticReviewer

def correlationKey (actionId : String) : String :=
  "assuranceos:" ++ actionId

structure TicketRequest where
  actionId : String
  findingCode : String
  title : String
  description : String
  ownerRef : String
  dueDate : Date
  severity : Severity
  projectOrTable : String
  labels : List String

def TicketRequest.correlationKey (request : TicketRequest) : String :=
  Adjudication.correlationKey request.actionId

/-- `created` tells a new ticket from one that was found. -/
structure TicketRef where
  system : String
  externalRef : String
  url : Option String := none
  created : Bool := false

structure TicketWriter where
  system : String
  createOrGet : TicketRequest → Except String TicketRef

/-- The writer of an action that is tracked inside the service only. -/
def nullTicketWriter : TicketWriter where
  system := "none"
  createOrGet request := .ok { system := "none", externalRef := request.correlationKey }

/-- The providers in `TICKET_WRITERS`. -/
inductive TicketSystem where
  | jira
  | servicenow
  deriving DecidableEq, Repr

def TicketSystem.external : TicketSystem → ExternalSystem
  | .jira => .jira
  | .servicenow => .servicenow

/-- The fields that a create request sets. -/
inductive TicketFields where
  | jira (project summary description issueType dueDate : String) (labels : List String)
  | servicenow (table shortDescription description assignedTo dueDate correlationId
      correlationDisplay severity : String)
  deriving DecidableEq, Repr

/-- A record of the provider: the key of an issue, or the number and the `sys_id` of a
record, with its fields. -/
structure Ticket where
  number : String
  sysId : String := ""
  fields : TicketFields
  deriving DecidableEq, Repr

/-- The ticket is filed under the key, in whichever project or table. -/
def TicketFields.carries (key : String) : TicketFields → Bool
  | .jira _ _ _ _ _ labels => key ∈ labels
  | .servicenow _ _ _ _ _ correlationId _ _ => correlationId = key

def TicketFields.projectOrTable : TicketFields → String
  | .jira project .. => project
  | .servicenow table .. => table

/-- `JiraTicketWriter` and `ServiceNowTicketWriter`, with the transport's number of
attempts. -/
structure RestWriter where
  system : TicketSystem
  baseUrl : String
  issueType : String := "Task"
  maxAttempts : Nat := 3

namespace RestWriter

variable (writer : RestWriter)

def fields (request : TicketRequest) : TicketFields :=
  match writer.system with
  | .jira =>
    .jira request.projectOrTable (PyString.firstChars 255 request.title) request.description
      writer.issueType request.dueDate.isoformat (request.correlationKey :: request.labels)
  | .servicenow =>
    .servicenow request.projectOrTable (PyString.firstChars 160 request.title)
      request.description request.ownerRef request.dueDate.isoformat request.correlationKey
      ("AssuranceOS " ++ request.findingCode) request.severity.value

/-- `record.get("number") or record.get("sys_id")`; an issue has its key only. -/
def reference (ticket : Ticket) : String :=
  match writer.system with
  | .jira => ticket.number
  | .servicenow => if ticket.number ≠ "" then ticket.number else ticket.sysId

def ticketRef (request : TicketRequest) (ticket : Ticket) (created : Bool) : TicketRef where
  system := writer.system.external.value
  externalRef := writer.reference ticket
  url := some (writer.baseUrl ++
    match writer.system with
    | .jira => "/browse/" ++ ticket.number
    | .servicenow => "/" ++ request.projectOrTable ++ ".do?sys_id=" ++ ticket.sysId)
  created := created

/-- The query of `_find`, which asks for two records at most. -/
def search (tickets : List Ticket) (request : TicketRequest) : List Ticket :=
  (tickets.filter fun t =>
    t.fields.projectOrTable = request.projectOrTable ∧
      t.fields.carries request.correlationKey).take 2

def find (tickets : List Ticket) (request : TicketRequest) : Except String (Option TicketRef) :=
  match search tickets request with
  | [] => .ok none
  | [ticket] => .ok (some (writer.ticketRef request ticket false))
  | records =>
    .error ("correlation key '" ++ request.correlationKey ++ "' matches " ++
      toString records.length ++
      match writer.system with
      | .jira => " Jira issues; remediation must map to exactly one"
      | .servicenow => " ServiceNow records; remediation must map to exactly one")

/-- What `create_or_get` makes of the answer to the create request. -/
def readCreated (request : TicketRequest) (ticket : Ticket) : Except String TicketRef :=
  if writer.reference ticket = "" then
    .error (match writer.system with
      | .jira => "Jira issue creation returned no issue key"
      | .servicenow => "ServiceNow insert returned no record number")
  else .ok (writer.ticketRef request ticket true)

/-- `create_or_get` while nobody else asks the provider: `number` and `sysId` are those
of the ticket that the provider makes, if one is made. -/
def createOrGet (tickets : List Ticket) (number sysId : String) (request : TicketRequest) :
    Except String TicketRef := do
  match ← writer.find tickets request with
  | some existing => return existing
  | none => writer.readCreated request ⟨number, sysId, writer.fields request⟩

end RestWriter

end Adjudication
