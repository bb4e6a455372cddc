/-
Organization onboarding (`onboarding.py`, `db/models/onboarding.py` and the tables of
profiles and facts in `db/models/organization.py`).

Each public operation is a function from the database to a new one or an error; an
operation that raises rolls back.  The sessions do not flush before a query, so a count
sees the rows as they were flushed last (`decideFact`).  A call carries its clock
reading, the random parts of its ids, and for `captureSource` what the vault answers to
the ingestion, which writes none of these tables.  The views that the operations return
are read from the rows and left out.
-/
import AssuranceOS.Lib.Checked
import AssuranceOS.Lib.Table
import AssuranceOS.Vault.Definitions

namespace Onboarding

open Checked
open JsonText (Value)

inductive WorkflowStatus where
  | researching
  | profileReview
  | ready
  | approved
  deriving DecidableEq, Repr

structure OnboardingWorkflow where
  workflowId : String
  tenantId : String
  workflowKey : String
  status : WorkflowStatus := .researching
  companyName : String
  normalizedDomain : Option String
  headquartersCountry : Option String
  industryHint : Option String
  profileId : String
  stateVersion : Nat := 1
  canonicalFactCount : Option Nat := none
  sourceSnapshotCount : Option Nat := none
  approvedBy : Option String := none
  approvedAt : Option Nat := none

inductive ProfileStatus where
  | draft
  | canonical
  deriving DecidableEq, Repr

structure OrganizationProfile where
  profileId : String
  tenantId : String
  version : Nat
  status : ProfileStatus := .draft
  legalName : String
  primaryDomain : Option String
  headquartersCountry : Option String
  industry : Option String
  canonicalAt : Option Nat := none

inductive ClaimType where
  | observed
  | proposed
  | inference
  | assertion
  | unknown
  deriving DecidableEq, Repr

inductive FactStatus where
  | proposed
  | accepted
  | corrected
  | notApplicable
  deriving DecidableEq, Repr

structure OrganizationFact where
  factId : String
  tenantId : String
  profileId : String
  factKey : String
  value : Value
  claimType : ClaimType
  sourceType : String
  sourceRef : Option String
  confidence : Option ℚ
  status : FactStatus
  createdAt : Nat

inductive SourceQuality where
  | official
  | authoritative
  | reputable
  deriving DecidableEq, Repr

structure PublicSourceSnapshot where
  snapshotId : String
  tenantId : String
  workflowId : String
  sourceUrl : String
  publisher : String
  sourceQuality : SourceQuality
  evidenceId : String
  contentSha256 : String
  retrievedAt : Nat
  effectiveAt : Option Nat
  excerptLocator : Option String

inductive Decision where
  | accept
  | correct
  | notApplicable
  deriving DecidableEq, Repr

structure OrganizationFactDecision where
  decisionId : String
  tenantId : String
  workflowId : String
  factId : String
  decision : Decision
  decidedBy : String
  reason : String
  correctionFactId : Option String
  decidedAt : Nat
  /-- `original_proposal` of the details. -/
  originalKey : String
  originalValue : Value
  originalClaimType : ClaimType
  originalSourceRef : Option String

structure Database where
  tenants : List String
  workflows : List OnboardingWorkflow := []
  profiles : List OrganizationProfile := []
  facts : List OrganizationFact := []
  decisions : List OrganizationFactDecision := []
  snapshots : List PublicSourceSnapshot := []

structure OnboardingStartInput where
  workflowKey : String
  companyName : String
  primaryDomain : Option String := none
  headquartersCountry : Option String := none
  industry : Option String := none

structure PublicSourceInput where
  sourceUrl : String
  publisher : String
  sourceQuality : SourceQuality
  content : String
  retrievedAt : Nat
  effectiveAt : Option Nat := none
  excerptLocator : Option String := none

structure FactProposalInput where
  factKey : String
  value : Value
  claimType : ClaimType
  snapshotId : Option String := none
  confidence : Option ℚ := none
  evidence_for_positive_claims : claimType ≠ .unknown → PyString.truthy snapshotId = true

structure FactDecisionInput where
  decision : Decision
  decidedBy : String
  reason : String
  correctedValue : Option Value := none
  correction_has_value : decision = .correct → correctedValue.isSome = true := by decide

inductive OnboardingError where
  | tenantNotFound (tenantId : String)
  | workflowNotFound
  | prohibitedFact
  | foreignSnapshot
  | factExists (factKey : String)
  | notReviewable
  | awaitingReview (facts : Nat)
  | notReady
  | vault (error : Vault.VaultError)
  | integrityError

/-! ### Queries and insertions -/

namespace Database

variable (db : Database)

def getWorkflow (tenantId workflowId : String) : Option OnboardingWorkflow :=
  db.workflows.find? fun w => w.tenantId = tenantId ∧ w.workflowId = workflowId

def getProfile (profileId : String) : Option OrganizationProfile :=
  Table.get? OrganizationProfile.profileId profileId db.profiles

/-- The facts of the profile with a status, as they were flushed last. -/
def countFacts (profileId : String) (status : FactStatus) : Nat :=
  (db.facts.filter fun f => f.profileId = profileId ∧ f.status = status).length

def putWorkflow (w : OnboardingWorkflow) : Database :=
  { db with workflows := Table.put OnboardingWorkflow.workflowId w db.workflows }

def putProfile (p : OrganizationProfile) : Database :=
  { db with profiles := Table.put OrganizationProfile.profileId p db.profiles }

def addFact (f : OrganizationFact) : Except OnboardingError Database := do
  require (∀ g ∈ db.facts, ¬ (g.profileId = f.profileId ∧ g.factKey = f.factKey)) .integrityError
  let rows ← ofOption .integrityError (Table.insert? OrganizationFact.factId f db.facts)
  return { db with facts := rows }

def putFact (f : OrganizationFact) : Except OnboardingError Database := do
  require (∀ g ∈ db.facts, g.factId ≠ f.factId →
    ¬ (g.profileId = f.profileId ∧ g.factKey = f.factKey)) .integrityError
  return { db with facts := Table.put OrganizationFact.factId f db.facts }

def addProfile (p : OrganizationProfile) : Except OnboardingError Database := do
  let rows ← ofOption .integrityError (Table.insert? OrganizationProfile.profileId p db.profiles)
  return { db with profiles := rows }

def addWorkflow (w : OnboardingWorkflow) : Except OnboardingError Database := do
  let rows ← ofOption .integrityError (Table.insert? OnboardingWorkflow.workflowId w db.workflows)
  return { db with workflows := rows }

def addDecision (d : OrganizationFactDecision) : Except OnboardingError Database := do
  let rows ← ofOption .integrityError
    (Table.insert? OrganizationFactDecision.decisionId d db.decisions)
  return { db with decisions := rows }

def addSnapshot (s : PublicSourceSnapshot) : Except OnboardingError Database := do
  let rows ← ofOption .integrityError (Table.insert? PublicSourceSnapshot.snapshotId s db.snapshots)
  return { db with snapshots := rows }

end Database

/-- `new_id(kind)`: the random part of the id number `n` of its kind. -/
def newId (hex : String → Nat → String) (kind : String) (n : Nat := 0) : String :=
  kind ++ "_" ++ hex kind n

structure OnboardingService where
  sha256 : String → String

/-- `_PROHIBITED_FACTS`. -/
def prohibitedFacts : List String :=
  ["employee.health", "employee.ethnicity", "employee.religion", "misconduct", "solvency",
    "legal_violation"]

/-- The columns of the profile that a reviewed fact can reach. -/
inductive ProfileColumn where
  | legalName
  | headquartersCountry
  | industry
  deriving DecidableEq, Repr

/-- `_PROFILE_COLUMNS`. -/
def profileColumn (factKey : String) : Option ProfileColumn :=
  if factKey = "public.legal_entity_name" then some .legalName
  else if factKey = "public.headquarters_country" then some .headquartersCountry
  else if factKey = "public.industry" then some .industry
  else none

def OrganizationProfile.set (p : OrganizationProfile) (column : ProfileColumn) (value : String) :
    OrganizationProfile :=
  match column with
  | .legalName => { p with legalName := value }
  | .headquartersCountry => { p with headquartersCountry := some value }
  | .industry => { p with industry := some value }

namespace OnboardingService

variable (S : OnboardingService)

/-- `_workflow_in_session`. -/
def requireWorkflow (db : Database) (tenantId workflowId : String) :
    Except OnboardingError OnboardingWorkflow :=
  ofOption .workflowNotFound (db.getWorkflow tenantId workflowId)

/-- The facts that the company states when it starts, in the order of the source. -/
def statedFacts (data : OnboardingStartInput) : List (String × String) :=
  [("legal_identity.legal_name", some data.companyName),
    ("legal_identity.primary_domain", data.primaryDomain),
    ("legal_identity.headquarters_country", data.headquartersCountry),
    ("industry.primary", data.industry)].filterMap fun (key, value) => value.map (key, ·)

/-- The row of the `n`-th stated fact. -/
def statedFact (now : Nat) (hex : String → Nat → String) (w : OnboardingWorkflow)
    (n : Nat) (key value : String) : OrganizationFact where
  factId := newId hex "fact" n
  tenantId := w.tenantId
  profileId := w.profileId
  factKey := key
  value := .str value
  claimType := .assertion
  sourceType := "onboarding_input"
  sourceRef := some w.workflowId
  confidence := none
  status := .accepted
  createdAt := now

def addStated (now : Nat) (hex : String → Nat → String) (w : OnboardingWorkflow) :
    Nat → List (String × String) → Database → Except OnboardingError Database
  | _, [], db => .ok db
  | n, (key, value) :: rest, db => do
    let db ← db.addFact (statedFact now hex w n key value)
    addStated now hex w (n + 1) rest db

def start (db : Database) (now : Nat) (hex : String → Nat → String) (tenantId : String)
    (data : OnboardingStartInput) : Except OnboardingError Database := do
  require (tenantId ∈ db.tenants) (.tenantNotFound tenantId)
  if db.workflows.any fun w => w.tenantId = tenantId && w.workflowKey = data.workflowKey then
    return db
  else
    let versions := (db.profiles.filter fun p => p.tenantId = tenantId).map (·.version)
    let profile : OrganizationProfile :=
      { profileId := newId hex "org", tenantId, version := versions.foldr max 0 + 1
        legalName := data.companyName, primaryDomain := data.primaryDomain
        headquartersCountry := data.headquartersCountry, industry := data.industry }
    let db ← db.addProfile profile
    let workflow : OnboardingWorkflow :=
      { workflowId := newId hex "onb", tenantId, workflowKey := data.workflowKey
        companyName := data.companyName, normalizedDomain := data.primaryDomain
        headquartersCountry := data.headquartersCountry, industryHint := data.industry
        profileId := profile.profileId }
    let db ← db.addWorkflow workflow
    addStated now hex workflow 0 (statedFacts data) db

def keepSnapshot (db : Database) (snapshot : PublicSourceSnapshot) :
    Except OnboardingError Database :=
  if db.snapshots.any fun s => s.tenantId = snapshot.tenantId &&
      s.contentSha256 = snapshot.contentSha256 && s.sourceUrl = snapshot.sourceUrl then .ok db
  else db.addSnapshot snapshot

/-- `vault` is the evidence id that the ingestion returns, or what it raises. -/
def captureSource (db : Database) (hex : String → Nat → String) (tenantId workflowId : String)
    (data : PublicSourceInput) (vault : Except Vault.VaultError String) :
    Except OnboardingError Database := do
  let workflow ← requireWorkflow db tenantId workflowId
  let evidenceId ← vault.mapError .vault
  let db ← keepSnapshot db
    { snapshotId := newId hex "src", tenantId, workflowId, sourceUrl := data.sourceUrl
      publisher := data.publisher, sourceQuality := data.sourceQuality, evidenceId
      contentSha256 := S.sha256 data.content, retrievedAt := data.retrievedAt
      effectiveAt := data.effectiveAt, excerptLocator := data.excerptLocator }
  return db.putWorkflow
    { workflow with status := .profileReview, stateVersion := workflow.stateVersion + 1 }

/-- The snapshot that a proposal names must belong to the workflow. -/
def requireSnapshot (db : Database) (tenantId workflowId : String) (snapshotId : Option String) :
    Except OnboardingError (Option PublicSourceSnapshot) :=
  match snapshotId with
  | none => .ok none
  | some id =>
    if id = "" then .ok none
    else
      (ofOption .foreignSnapshot (db.snapshots.find? fun s =>
        s.tenantId = tenantId ∧ s.workflowId = workflowId ∧ s.snapshotId = id)).map some

/-- The checks of `propose_fact`, in the order of the source. -/
def reviewProposal (db : Database) (tenantId workflowId : String) (data : FactProposalInput) :
    Except OnboardingError (OnboardingWorkflow × Option PublicSourceSnapshot) := do
  require (¬ PyString.startswith data.factKey prohibitedFacts) .prohibitedFact
  let workflow ← requireWorkflow db tenantId workflowId
  let snapshot ← requireSnapshot db tenantId workflowId data.snapshotId
  require (∀ f ∈ db.facts, ¬ (f.profileId = workflow.profileId ∧ f.factKey = data.factKey))
    (.factExists data.factKey)
  return (workflow, snapshot)

def proposeFact (db : Database) (now : Nat) (hex : String → Nat → String)
    (tenantId workflowId : String) (data : FactProposalInput) :
    Except OnboardingError Database := do
  let (workflow, snapshot) ← reviewProposal db tenantId workflowId data
  let db ← db.addFact
    { factId := newId hex "fact", tenantId, profileId := workflow.profileId
      factKey := data.factKey, value := data.value, claimType := data.claimType
      sourceType := if snapshot.isSome then "public_source" else "unresolved"
      sourceRef := snapshot.map (·.evidenceId), confidence := data.confidence
      status := .proposed, createdAt := now }
  return db.putWorkflow
    { workflow with status := .profileReview, stateVersion := workflow.stateVersion + 1 }

def proposalKey (f : OrganizationFact) : String :=
  String.ofList (f.factKey.toList.take 120) ++ ".proposal." ++
    String.ofList (f.factId.toList.drop (f.factId.length - 12))

/-- `_promote_to_profile`. -/
def promoteToProfile (db : Database) (workflow : OnboardingWorkflow) (fact : OrganizationFact) :
    Database :=
  match profileColumn fact.factKey, fact.value, db.getProfile workflow.profileId with
  | some column, .str value, some profile =>
    if fact.status = .accepted ∧ PyString.strip value ≠ "" then
      db.putProfile (profile.set column (PyString.strip value))
    else db
  | _, _, _ => db

/-- The fact under review, and the one that stands in its place: the same fact, or the
correction.  An acceptance is not flushed when the facts under review are counted, so
`remaining` then counts the fact itself. -/
structure Reviewed where
  db : Database
  fact : OrganizationFact
  correction : Option OrganizationFact
  remaining : Nat

def reviewFact (db : Database) (now : Nat) (hex : String → Nat → String) (tenantId : String)
    (workflow : OnboardingWorkflow) (fact : OrganizationFact) (data : FactDecisionInput) :
    Except OnboardingError Reviewed := do
  match data.decision with
  | .accept =>
    let reviewed := { fact with status := .accepted }
    let written ← db.putFact reviewed
    return ⟨written, reviewed, none, db.countFacts workflow.profileId .proposed⟩
  | .notApplicable =>
    let reviewed := { fact with status := .notApplicable }
    let written ← db.putFact reviewed
    return ⟨written, reviewed, none, db.countFacts workflow.profileId .proposed⟩
  | .correct =>
    let reviewed := { fact with factKey := proposalKey fact, status := .corrected }
    let correction : OrganizationFact :=
      { factId := newId hex "fact", tenantId, profileId := workflow.profileId
        factKey := fact.factKey, value := data.correctedValue.getD .null, claimType := .assertion
        sourceType := "user_correction", sourceRef := some fact.factId, confidence := none
        status := .accepted, createdAt := now }
    let written ← db.putFact reviewed
    let written ← written.addFact correction
    return ⟨written, reviewed, some correction, written.countFacts workflow.profileId .proposed⟩

def decideFact (db : Database) (now : Nat) (hex : String → Nat → String)
    (tenantId workflowId factId : String) (data : FactDecisionInput) :
    Except OnboardingError Database := do
  let workflow ← requireWorkflow db tenantId workflowId
  let fact ← ofOption .notReviewable (db.facts.find? fun f =>
    f.tenantId = tenantId ∧ f.profileId = workflow.profileId ∧ f.factId = factId)
  require (fact.status = .proposed) .notReviewable
  let reviewed ← reviewFact db now hex tenantId workflow fact data
  let db ← reviewed.db.addDecision
    { decisionId := newId hex "fdc", tenantId, workflowId, factId := fact.factId
      decision := data.decision, decidedBy := data.decidedBy, reason := data.reason
      correctionFactId := reviewed.correction.map (·.factId), decidedAt := now
      originalKey := fact.factKey, originalValue := fact.value
      originalClaimType := fact.claimType, originalSourceRef := fact.sourceRef }
  let db := db.putWorkflow
    { workflow with
      status := if reviewed.remaining = 0 then .ready else .profileReview
      stateVersion := workflow.stateVersion + 1 }
  return promoteToProfile db workflow (reviewed.correction.getD reviewed.fact)

def approve (db : Database) (now : Nat) (tenantId workflowId approvedBy : String) :
    Except OnboardingError Database := do
  let workflow ← requireWorkflow db tenantId workflowId
  let pending := db.countFacts workflow.profileId .proposed
  require (pending = 0) (.awaitingReview pending)
  -- the foreign key of the workflow keeps the profile in place
  let profile ← ofOption .integrityError (db.getProfile workflow.profileId)
  let accepted := db.countFacts profile.profileId .accepted
  require (profile.legalName ≠ "" ∧ 1 ≤ accepted) .notReady
  return (db.putProfile { profile with status := .canonical, canonicalAt := some now }).putWorkflow
    { workflow with
      status := .approved, approvedBy := some approvedBy, approvedAt := some now
      stateVersion := workflow.stateVersion + 1, canonicalFactCount := some accepted
      sourceSnapshotCount := some
        (db.snapshots.filter fun s => s.workflowId = workflowId).length }

end OnboardingService

/-- The operations with their arguments. -/
inductive Op where
  | start (tenantId : String) (data : OnboardingStartInput)
  | captureSource (tenantId workflowId : String) (data : PublicSourceInput)
      (vault : Except Vault.VaultError String)
  | proposeFact (tenantId workflowId : String) (data : FactProposalInput)
  | decideFact (tenantId workflowId factId : String) (data : FactDecisionInput)
  | approve (tenantId workflowId approvedBy : String)

/-- One call: its clock reading, the random parts of its ids, and the operation. -/
structure Call where
  now : Nat
  hex : String → Nat → String
  op : Op

variable (S : OnboardingService)

def Call.exec (db : Database) (call : Call) : Except OnboardingError Database :=
  match call.op with
  | .start tenantId data => OnboardingService.start db call.now call.hex tenantId data
  | .captureSource tenantId workflowId data vault =>
    S.captureSource db call.hex tenantId workflowId data vault
  | .proposeFact tenantId workflowId data =>
    OnboardingService.proposeFact db call.now call.hex tenantId workflowId data
  | .decideFact tenantId workflowId factId data =>
    OnboardingService.decideFact db call.now call.hex tenantId workflowId factId data
  | .approve tenantId workflowId approvedBy =>
    OnboardingService.approve db call.now tenantId workflowId approvedBy

/-- A call that raises changes nothing. -/
def step (db : Database) (call : Call) : Database :=
  match call.exec S db with
  | .ok db' => db'
  | .error _ => db

/-- The calls in their order. -/
def run (db : Database) (calls : List Call) : Database :=
  calls.foldl (step S) db

/-- A database before anything is started. -/
structure Fresh (db : Database) : Prop where
  workflows : db.workflows = []
  profiles : db.profiles = []
  facts : db.facts = []

end Onboarding
