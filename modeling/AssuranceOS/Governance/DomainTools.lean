/-
The domain tools that read evidence, test runs and exceptions
(`governance/domain_tools.py`).

A handler runs on the canonical state: the evidence vault with its objects, and the rows of
`control_test_runs` and `control_test_exceptions`.  Reading bytes is an access event, so a handler
leaves a state behind.  The arguments are a JSON object of the model's choice; what a handler
returns is the dictionary of the source as a structure, and the texts of its errors are
constructors with the data they are made from.
-/
import AssuranceOS.ControlTesting.Service
import AssuranceOS.Governance.Policy
import AssuranceOS.Vault.Service

namespace Governance.DomainTools

open JsonText Checked Vault Adjudication

/-- What follows the first byte of a character: the bits of that byte, the number of further
bytes, and the range of the next one. -/
def leadByte (b : ℕ) : Option (ℕ × ℕ × ℕ × ℕ) :=
  if 0xC2 ≤ b ∧ b ≤ 0xDF then some (b - 0xC0, 1, 0x80, 0xBF)
  else if b = 0xE0 then some (0x0, 2, 0xA0, 0xBF)
  else if b = 0xED then some (0xD, 2, 0x80, 0x9F)
  else if 0xE1 ≤ b ∧ b ≤ 0xEF then some (b - 0xE0, 2, 0x80, 0xBF)
  else if b = 0xF0 then some (0x0, 3, 0x90, 0xBF)
  else if 0xF1 ≤ b ∧ b ≤ 0xF3 then some (b - 0xF0, 3, 0x80, 0xBF)
  else if b = 0xF4 then some (0x4, 3, 0x80, 0x8F)
  else none

/-- The rest of a character: its number, if its bytes are there, and the bytes after it. -/
def continuation : ℕ → ℕ → ℕ → ℕ → Bytes → Option ℕ × Bytes
  | 0, _, _, code, bytes => (some code, bytes)
  | _ + 1, _, _, _, [] => (none, [])
  | n + 1, low, high, code, b :: bytes =>
    if low ≤ b.toNat ∧ b.toNat ≤ high then
      continuation n 0x80 0xBF (code * 64 + (b.toNat - 0x80)) bytes
    else (none, b :: bytes)

def replacement : Char := Char.ofNat 0xFFFD

/-- Every step takes a byte, so that the number of bytes is enough fuel. -/
def decodeFrom : ℕ → Bytes → List Char
  | 0, _ | _, [] => []
  | n + 1, b :: bytes =>
    if b.toNat < 0x80 then Char.ofNat b.toNat :: decodeFrom n bytes
    else
      match leadByte b.toNat with
      | none => replacement :: decodeFrom n bytes
      | some (code, count, low, high) =>
        let (code, rest) := continuation count low high code bytes
        ((code.map Char.ofNat).getD replacement) :: decodeFrom n rest

/-- `payload.decode("utf-8", errors="replace")`. -/
def decodeReplace (payload : Bytes) : String :=
  String.ofList (decodeFrom payload.length payload)

-- a character of three bytes, one that is cut off, and a byte that begins none
example : (decodeReplace [0xE2, 0x82, 0xAC, 0xE2, 0x82, 0x41, 0xFF]).toList =
    ['€', replacement, 'A', replacement] := by
  decide +kernel

/-- `text.find(part)`. -/
def find (part text : String) : Option ℕ :=
  text.toList.tails.findIdx? fun rest => part.toList.isPrefixOf rest

/-- `part in text`. -/
def contains (part text : String) : Bool :=
  (find part text).isSome

/-- A row of `control_test_runs`. -/
structure TestRunRow where
  run : ControlTesting.ControlTestRun
  createdAt : Timestamp

/-- A row of `control_test_exceptions`. -/
structure TestExceptionRow where
  tenantId : String
  row : ControlTesting.ExceptionRow

structure CanonicalState where
  vault : VaultState
  testRuns : List TestRunRow := []
  testExceptions : List TestExceptionRow := []

structure DomainToolContext where
  vault : Option EvidenceVault
  maxContentBytes : ℤ := 2000000

structure AgentIdentity where
  workloadUri : String

/-- What the handlers take from outside. -/
structure ToolEnvironment where
  conversions : Conversions
  unicode : PyString.UnicodeData
  /-- the full upper-case mapping of a code point -/
  uppercase : Char → List Char
  /-- the database hands times back with their zone -/
  zoned : Bool
  /-- what the vault gets from outside, for its calls in their order -/
  ambient : ℕ → Ambient

inductive DomainToolError where
  /-- the engagement is outside the evidence scope of the task -/
  | outsideScope (engagementId : String)
  /-- the evidence scopes do not permit reading evidence -/
  | scopesForbid (scopes : List String)
  | noVault
  | required (key : String)
  | noRun
  /-- an exception of the vault -/
  | vault (error : VaultError)
  /-- `int` of an infinite float -/
  | overflow
  deriving DecidableEq

inductive EvidenceContent where
  | unread
  | omitted (sizeBytes : ℕ)
  | error (error : VaultError)
  | text (content : String)
  deriving DecidableEq

structure EvidenceEntry where
  evidenceId : String
  sourceType : String
  sourceLocator : String
  contentSha256 : String
  classification : String
  recordKind : RecordKind
  integrityStatus : IntegrityStatus
  tainted : Bool
  accepted : Bool
  collectedAt : String
  sizeBytes : ℕ
  content : EvidenceContent
  deriving DecidableEq

structure EvidenceMatch where
  evidenceId : String
  sourceType : String
  sourceLocator : String
  contentSha256 : String
  excerpt : String
  deriving DecidableEq

structure RunSummary where
  runId : String
  testId : String
  testVersion : String
  status : ControlTesting.RunStatus
  conclusion : Option ControlTesting.TestConclusion
  populationCount : ℕ
  reconciledCount : ℤ
  sampledCount : ℕ
  exceptionCount : Option ℕ
  populationComplete : Bool
  inputManifestHashPrefix : String
  resultManifestHashPrefix : String
  period : String × String
  deriving DecidableEq

structure ExceptionEntry where
  exceptionKey : String
  subjectRef : String
  classification : String
  severity : String
  status : ControlTesting.ExceptionStatus
  reason : String
  evidenceIds : List String
  deriving DecidableEq

inductive ToolResult where
  | evidence (engagementId : Option String) (count : ℕ) (contentIncluded : Bool)
      (evidence : List EvidenceEntry)
  | integrity (evidenceId : String) (status : IntegrityStatus) (expectedSha256 : String)
      (observedSha256 : Option String)
  | matching (subject : String) (count : ℕ) (found : List EvidenceMatch)
  | run (summary : RunSummary)
  | exceptions (runId : Option String) (count : ℕ) (exceptions : List ExceptionEntry)
  deriving DecidableEq

/-- `_text`. -/
def text (c : Conversions) : Value → String
  | .null | .arr _ | .obj _ => ""
  | value => PyString.strip (c.str value)

def isInfinite (c : Conversions) : Value → Bool
  | .float literal =>
    match c.real literal with
    | .infinite _ => true
    | _ => false
  | _ => false

/-- `_bounded_int`. -/
def boundedInt (c : Conversions) (value : Value) (fallback ceiling : ℤ) :
    Except DomainToolError ℤ := do
  require (isInfinite c value = false) .overflow
  match c.int value with
  | none => return fallback
  | some parsed => return max 1 (min parsed ceiling)

/-- `_engagement_scope`. -/
def engagementScope (envelope : ExecutionEnvelope) (requested : String) :
    Except DomainToolError (Option String) :=
  let scopes := envelope.allowedEvidenceScopes
  if requested ≠ "" ∧ requested ≠ envelope.engagementId then
    if "tenant" ∉ scopes then .error (.outsideScope requested)
    else .ok (some requested)
  else if "engagement" ∈ scopes ∨ scopes = [] then .ok (some envelope.engagementId)
  else if "tenant" ∈ scopes then .ok (some requested)
  else .error (.scopesForbid (scopes.eraseDups.insertionSort (· ≤ ·)))

/-! ### The evidence tools -/

/-- The rows that a tool selects: of the tenant, not deleted, of the engagement if it is not
empty, and of the source type if one is given. -/
def selectEvidence (db : Vault.Database) (tenantId : String) (engagementId : Option String)
    (sourceType : String) (limit : ℕ) : List EvidenceRecord :=
  (db.evidence.filter fun r => r.tenantId = tenantId ∧ r.Active ∧
    (PyString.truthy engagementId → r.engagementId = engagementId) ∧
    (sourceType ≠ "" → r.sourceType = sourceType)).take limit

section Tools

variable (context : DomainToolContext) (env : ToolEnvironment) (identity : AgentIdentity)
  (envelope : ExecutionEnvelope) (arguments : Object)

/-- `_text(arguments.get(key))`. -/
def argument (key : String) : String :=
  text env.conversions (get arguments key)

/-- `_text(arguments.get(key)) or _text(arguments.get(other))`. -/
def argumentOr (key other : String) : String :=
  if argument env arguments key ≠ "" then argument env arguments key
  else argument env arguments other

def lower (s : String) : String := PyString.lower env.unicode s

/-- `s.upper()`. -/
def upper (s : String) : String := String.ofList (s.toList.flatMap env.uppercase)

/-- The arguments of `evidence.query`. -/
structure EvidenceRequest where
  engagementId : Option String
  sourceType : String
  query : String
  includeContent : Bool
  limit : ℤ

def evidenceRequest : Except DomainToolError EvidenceRequest := do
  let engagementId ← engagementScope envelope (argument env arguments "engagement_id")
  let limit ← boundedInt env.conversions (get arguments "limit") 50 500
  return {
    engagementId := engagementId
    sourceType := argument env arguments "source_type"
    query := lower env (argumentOr env arguments "query" "locator")
    includeContent := env.conversions.truthy (get arguments "include_content")
    limit := limit }

def narrow (query : String) (records : List EvidenceRecord) : List EvidenceRecord :=
  if query = "" then records
  else
    match records.filter fun r =>
        contains query (lower env r.sourceLocator) || contains query (lower env r.evidenceId) with
    | [] => records
    | found => found

def evidenceEntry (r : EvidenceRecord) (content : EvidenceContent) : EvidenceEntry where
  evidenceId := r.evidenceId
  sourceType := r.sourceType
  sourceLocator := r.sourceLocator
  contentSha256 := r.contentSha256
  classification := r.classification
  recordKind := r.recordKind
  integrityStatus := r.integrityStatus
  tainted := r.tainted
  accepted := r.accepted
  collectedAt := r.collectedAt.isoformat env.zoned
  sizeBytes := r.sizeBytes
  content := content

/-- The loop of `evidence.query` with `include_content`: the record at the position `i` is read
if its size is within what is left of the budget. -/
def readEntries (S : EvidenceVault) : ℕ → ℤ → List EvidenceRecord → VaultState →
    List EvidenceEntry × VaultState
  | _, _, [], v => ([], v)
  | i, budget, r :: records, v =>
    if (r.sizeBytes : ℤ) > budget then
      let (entries, v) := readEntries S (i + 1) budget records v
      (evidenceEntry env r (.omitted r.sizeBytes) :: entries, v)
    else
      match S.readBytes v (env.ambient i) envelope.tenantId r.evidenceId identity.workloadUri
          "agent" envelope.purpose with
      | .error error =>
        let (entries, v) := readEntries S (i + 1) budget records v
        (evidenceEntry env r (.error error) :: entries, v)
      | .ok (payload, db) =>
        let (entries, v) :=
          readEntries S (i + 1) (budget - payload.length) records { v with db := db }
        (evidenceEntry env r (.text (decodeReplace payload)) :: entries, v)

/-- `_evidence_query`. -/
def evidenceQuery (s : CanonicalState) : Except DomainToolError ToolResult × CanonicalState :=
  match evidenceRequest env envelope arguments with
  | .error error => (.error error, s)
  | .ok request =>
    let records := narrow env request.query (selectEvidence s.vault.db envelope.tenantId
      request.engagementId request.sourceType request.limit.toNat)
    let (entries, v) :=
      match request.includeContent, context.vault with
      | true, some S =>
        readEntries env identity envelope S 0 context.maxContentBytes records s.vault
      | _, _ => (records.map fun r => evidenceEntry env r .unread, s.vault)
    (.ok (.evidence request.engagementId entries.length request.includeContent entries),
      { s with vault := v })

/-- `_evidence_hash_verify`. -/
def evidenceHashVerify (s : CanonicalState) : Except DomainToolError ToolResult × CanonicalState :=
  match context.vault with
  | none => (.error .noVault, s)
  | some S =>
    let evidenceId := argument env arguments "evidence_id"
    if evidenceId = "" then (.error (.required "evidence_id"), s)
    else
      match S.verifyIntegrity s.vault (env.ambient 0) envelope.tenantId evidenceId with
      | .error error => (.error (.vault error), s)
      | .ok (report, failure, db) =>
        (match failure with
          | some error => .error (.vault error)
          -- the report has no attribute `observed_sha256`
          | none => .ok (.integrity evidenceId report.status report.expectedSha256 none),
          { s with vault := { s.vault with db := db } })

/-- The arguments of a contradiction search. -/
structure SearchRequest where
  subject : String
  engagementId : Option String

def searchRequest : Except DomainToolError SearchRequest := do
  let subject := argumentOr env arguments "subject" "query"
  require (subject ≠ "") (.required "subject")
  let engagementId ← engagementScope envelope (argument env arguments "engagement_id")
  return ⟨subject, engagementId⟩

/-- The text of a record's object for the search, empty if it is not read. -/
def searchPayload (subject : String) (i : ℕ) (r : EvidenceRecord) (v : VaultState) :
    String × VaultState :=
  match context.vault with
  | none => ("", v)
  | some S =>
    if r.sizeBytes ≤ 400000 then
      match S.readBytes v (env.ambient i) envelope.tenantId r.evidenceId identity.workloadUri
          "agent" ("contradiction search: " ++ subject) with
      | .error _ => ("", v)
      | .ok (payload, db) => (decodeReplace payload, { v with db := db })
    else ("", v)

/-- `payload[max(0, index - 200) : index + 400]`. -/
def excerptAt (payload : String) (index : ℕ) : String :=
  String.ofList ((payload.toList.take (index + 400)).drop (index - 200))

def matchOf (subject : String) (r : EvidenceRecord) (payload : String) : Option EvidenceMatch :=
  (find (lower env subject) (lower env (r.sourceLocator ++ "\n" ++ payload))).map fun index =>
    { evidenceId := r.evidenceId
      sourceType := r.sourceType
      sourceLocator := r.sourceLocator
      contentSha256 := r.contentSha256
      excerpt := excerptAt payload index }

def searchRecords (subject : String) : ℕ → List EvidenceRecord → VaultState →
    List EvidenceMatch × VaultState
  | _, [], v => ([], v)
  | i, r :: records, v =>
    let (payload, v) := searchPayload context env identity envelope subject i r v
    let (found, v) := searchRecords subject (i + 1) records v
    ((matchOf env subject r payload).toList ++ found, v)

/-- `_contradictions_search`. -/
def contradictionsSearch (s : CanonicalState) :
    Except DomainToolError ToolResult × CanonicalState :=
  match searchRequest env envelope arguments with
  | .error error => (.error error, s)
  | .ok request =>
    let records := selectEvidence s.vault.db envelope.tenantId request.engagementId "" 300
    let (found, v) :=
      searchRecords context env identity envelope request.subject 0 records s.vault
    (.ok (.matching request.subject found.length (found.take 20)), { s with vault := v })

def summaryOf (run : ControlTesting.ControlTestRun) : RunSummary where
  runId := run.runId
  testId := run.testId
  testVersion := run.testVersion
  status := run.status
  conclusion := run.conclusion
  populationCount := run.populationCount
  reconciledCount := run.reconciledCount
  sampledCount := run.sampledCount
  exceptionCount := run.exceptionCount
  populationComplete := run.populationComplete
  inputManifestHashPrefix := PyString.firstChars 16 run.inputManifestHash
  resultManifestHashPrefix := PyString.firstChars 16 (run.resultManifestHash.getD "")
  period := (ControlTesting.isoformat run.periodStart, ControlTesting.isoformat run.periodEnd)

/-- The runs of the tenant, of the run id and of the test id if they are given. -/
def selectRuns (runs : List TestRunRow) (tenantId runId testId : String) : List TestRunRow :=
  runs.filter fun x => x.run.tenantId = tenantId ∧ (runId ≠ "" → x.run.runId = runId) ∧
    (testId ≠ "" → x.run.testId = testId)

/-- `_population_reconcile`. -/
def populationReconcile (s : CanonicalState) :
    Except DomainToolError ToolResult × CanonicalState :=
  let runId := argument env arguments "run_id"
  let testId := upper env (argument env arguments "test_id")
  match orderByDesc (·.createdAt) (selectRuns s.testRuns envelope.tenantId runId testId) with
  | [] => (.error .noRun, s)
  | x :: _ => (.ok (.run (summaryOf x.run)), s)

def exceptionEntry (x : TestExceptionRow) : ExceptionEntry where
  exceptionKey := x.row.exception.exceptionKey
  subjectRef := x.row.exception.subjectRef
  classification := x.row.exception.classification
  severity := x.row.exception.severity
  status := x.row.exception.status
  reason := x.row.exception.reason
  evidenceIds := x.row.exception.evidenceIds

def selectExceptions (rows : List TestExceptionRow) (tenantId runId : String) :
    List TestExceptionRow :=
  (rows.filter fun x => x.tenantId = tenantId ∧ (runId ≠ "" → x.row.runId = runId)).take 200

/-- `_exceptions_classify`. -/
def exceptionsClassify (s : CanonicalState) :
    Except DomainToolError ToolResult × CanonicalState :=
  let runId := argument env arguments "run_id"
  let rows := selectExceptions s.testExceptions envelope.tenantId runId
  (.ok (.exceptions (if runId = "" then none else some runId) rows.length
    (rows.map exceptionEntry)), s)

/-- The tools by their handlers; `evidence.contradictions.query` is `contradictions.search`. -/
inductive DomainTool where
  | evidenceQuery
  | evidenceHashVerify
  | contradictionsSearch
  | populationReconcile
  | exceptionsClassify
  deriving DecidableEq, Repr

/-- `handler(arguments=..., identity=..., envelope=...)`. -/
def DomainTool.call (tool : DomainTool) (s : CanonicalState) :
    Except DomainToolError ToolResult × CanonicalState :=
  match tool with
  | .evidenceQuery => DomainTools.evidenceQuery context env identity envelope arguments s
  | .evidenceHashVerify => DomainTools.evidenceHashVerify context env envelope arguments s
  | .contradictionsSearch =>
    DomainTools.contradictionsSearch context env identity envelope arguments s
  | .populationReconcile => DomainTools.populationReconcile env envelope arguments s
  | .exceptionsClassify => DomainTools.exceptionsClassify env envelope arguments s

end Tools

end Governance.DomainTools
