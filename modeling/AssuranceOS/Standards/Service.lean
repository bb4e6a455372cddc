/-
The standards service (`standards/service.py`, `standards/repository.py`).

A call is one transaction: it raises and changes nothing, or it writes its rows.  Registered
packs, approvals and compilations are the rows that the later modules are about; a standard,
its criteria, their crosswalks and mappings, and the entitlements of a tenant are rows that no
compilation reads.

The registry and the compiler that a call works with are part of the call, since a deployment
may load other packs and other inventories over time.  The identifiers that `new_id` draws and
the time are inputs of a call.
-/
import AssuranceOS.Lib.Runs
import AssuranceOS.Standards.Compiler

namespace Standards

open Checked
open Orchestration (Timestamp)

structure Standard where
  standardId : String
  tenantId : Option String
  input : StandardInput

structure Criterion where
  criterionId : String
  standardId : String
  input : PackCriterion

inductive CrosswalkRelation where
  | equivalent
  | subset
  | superset
  | related
  | conflicts
  deriving DecidableEq, Repr

structure CriteriaCrosswalk where
  crosswalkId : String
  sourceCriterionId : String
  targetCriterionId : String
  relation : CrosswalkRelation
  rationale : String
  assertedBy : String
  deriving DecidableEq, Repr

structure CriteriaMapping where
  mappingId : String
  tenantId : Option String
  criterionId : String
  targetType : String
  targetRef : String
  coverage : String
  rationale : Option String
  deriving DecidableEq, Repr

structure StandardEntitlement where
  entitlementId : String
  tenantId : String
  standardCode : String
  licenceRef : String
  grantedBy : String
  expiresOn : Option Date
  deriving DecidableEq, Repr

inductive RegistrationStatus where
  | registered
  | approved
  deriving DecidableEq, Repr

structure AuditPackRegistration where
  registrationId : String
  packId : String
  version : String
  status : RegistrationStatus := .registered
  packageSha256 : String
  releaseKeyId : Option String
  standardCode : String
  standardVersion : String
  registeredBy : String
  approvedAt : Option Timestamp := none
  approvedBy : Option String := none
  approvalReason : Option String := none
  deriving DecidableEq, Repr

structure PackCompilation where
  compilationId : String
  tenantId : String
  engagementId : String
  registrationId : String
  packId : String
  packVersion : String
  packageSha256 : String
  workflowVersion : String
  pins : CompilationPins
  pinsDigest : String
  organizationContext : OrganizationContext
  taskCount : ℕ
  gateCount : ℕ
  compiledBy : String
  compiledAt : Timestamp

/-- What a compilation reads and writes of an engagement. -/
structure Engagement where
  engagementId : String
  tenantId : String
  auditPackRef : String
  periodStart : Date
  periodEnd : Date
  period_ordered : periodStart ≤ periodEnd

/-- The tables of the standards, the packs and their compilations. -/
structure Database where
  standards : List Standard := []
  criteria : List Criterion := []
  crosswalks : List CriteriaCrosswalk := []
  mappings : List CriteriaMapping := []
  entitlements : List StandardEntitlement := []
  registrations : List AuditPackRegistration := []
  compilations : List PackCompilation := []
  engagements : List Engagement := []
  orchestration : Orchestration.Database

namespace Database

variable (db : Database)

def getStandard (code version : String) : Option Standard :=
  db.standards.find? fun s => s.input.code = code ∧ s.input.version = version

def getCriterion (standardId code : String) : Option Criterion :=
  db.criteria.find? fun c => c.standardId = standardId ∧ c.input.criteriaId = code

def getRegistration (packId version : String) : Option AuditPackRegistration :=
  db.registrations.find? fun r => r.packId = packId ∧ r.version = version

def compilationFor (tenantId engagementId : String) : Option PackCompilation :=
  db.compilations.find? fun c => c.tenantId = tenantId ∧ c.engagementId = engagementId

def getEngagement (engagementId : String) : Option Engagement :=
  db.engagements.find? fun e => e.engagementId = engagementId

def addStandard (row : Standard) : Except StandardsError Database := do
  require (∀ s ∈ db.standards, s.standardId ≠ row.standardId ∧
    ¬ (s.input.code = row.input.code ∧ s.input.version = row.input.version)) .integrityError
  return { db with standards := db.standards ++ [row] }

def addCriterion (row : Criterion) : Except StandardsError Database := do
  require (∀ c ∈ db.criteria, c.criterionId ≠ row.criterionId ∧
    ¬ (c.standardId = row.standardId ∧ c.input.criteriaId = row.input.criteriaId)) .integrityError
  return { db with criteria := db.criteria ++ [row] }

def addCrosswalk (row : CriteriaCrosswalk) : Except StandardsError Database := do
  require (∀ c ∈ db.crosswalks, c.crosswalkId ≠ row.crosswalkId ∧
    ¬ (c.sourceCriterionId = row.sourceCriterionId ∧ c.targetCriterionId = row.targetCriterionId ∧
      c.relation = row.relation)) .integrityError
  return { db with crosswalks := db.crosswalks ++ [row] }

def addMapping (row : CriteriaMapping) : Except StandardsError Database := do
  require (∀ m ∈ db.mappings, m.mappingId ≠ row.mappingId ∧
    ¬ (m.criterionId = row.criterionId ∧ m.targetType = row.targetType ∧
      m.targetRef = row.targetRef)) .integrityError
  return { db with mappings := db.mappings ++ [row] }

def addEntitlement (row : StandardEntitlement) : Except StandardsError Database := do
  require (∀ e ∈ db.entitlements, e.entitlementId ≠ row.entitlementId ∧
    ¬ (e.tenantId = row.tenantId ∧ e.standardCode = row.standardCode)) .integrityError
  return { db with entitlements := db.entitlements ++ [row] }

def addRegistration (row : AuditPackRegistration) : Except StandardsError Database := do
  require (∀ r ∈ db.registrations, r.registrationId ≠ row.registrationId ∧
    ¬ (r.packId = row.packId ∧ r.version = row.version)) .integrityError
  return { db with registrations := db.registrations ++ [row] }

def addCompilation (row : PackCompilation) : Except StandardsError Database := do
  require (∀ c ∈ db.compilations, c.compilationId ≠ row.compilationId ∧
    c.engagementId ≠ row.engagementId) .integrityError
  return { db with compilations := db.compilations ++ [row] }

end Database

structure StandardsService where
  registry : Option (List LoadedAuditPack)
  compiler : AuditPackCompiler
  sha256 : Vault.Bytes → String

/-- `pack.reference`. -/
def LoadedAuditPack.reference (pack : LoadedAuditPack) : String := pack.manifest.reference

/-- `registry.get`; of packs with one reference the last one loaded counts. -/
def StandardsService.getPack (service : StandardsService) (packId version : String) :
    Except StandardsError LoadedAuditPack := do
  let packs ← ofOption (.packNotFound (packId ++ "@" ++ version)) service.registry
  ofOption (.packNotFound (packId ++ "@" ++ version))
    ((Dict.ofPairs (packs.map fun pack => (pack.reference, pack))).lookup (packId ++ "@" ++ version))

/-- A criterion of a standard version, by its three names. -/
structure CriterionName where
  standardCode : String
  standardVersion : String
  criterionCode : String

/-- `_require_criterion`. -/
def requireCriterion (db : Database) (name : CriterionName) : Except StandardsError Criterion := do
  let standard ← ofOption (.standardNotFound name.standardCode name.standardVersion)
    (db.getStandard name.standardCode name.standardVersion)
  ofOption (.criterionNotFound name.criterionCode)
    (db.getCriterion standard.standardId name.criterionCode)

structure CompileRequest where
  packId : String
  version : String
  context : OrganizationContext
  engagementId : String
  compiledBy : String

/-- What `compile_engagement` returns. -/
structure CompilationReply where
  compilationId : String
  engagementId : String
  pack : String
  workflowVersion : String
  taskCount : ℕ
  gateCount : ℕ
  pinsDigest : String
  pins : CompilationPins
  taskKeys : List String

/-- The operations of the service. -/
inductive Op where
  | registerStandard (standard : StandardInput) (criteria : List PackCriterion)
    (tenantId : Option String)
  | addCrosswalk (source target : CriterionName) (relation : CrosswalkRelation)
    (rationale assertedBy : String)
  | mapCriterion (name : CriterionName) (targetType targetRef coverage : String)
    (rationale tenantId : Option String)
  | grantEntitlement (tenantId standardCode licenceRef grantedBy : String)
    (expiresOn : Option Date)
  | registerPack (pack : LoadedAuditPack) (registeredBy : String)
  | approvePack (packId version approvedBy reason : String)
  | compileEngagement (request : CompileRequest)

/-- A call, with what it draws from its surroundings. -/
structure Call where
  service : StandardsService
  newId : ℕ → String
  now : Timestamp
  op : Op

namespace Call

variable (call : Call) (db : Database)

def registerStandard (standard : StandardInput) (criteria : List PackCriterion)
    (tenantId : Option String) : Except StandardsError Database := do
  require (db.getStandard standard.code standard.version = none)
    (.duplicateStandard standard.code standard.version)
  let db ← db.addStandard
    { standardId := call.newId 0, tenantId := tenantId, input := standard }
  let rows := criteria.zipIdx.map fun c : PackCriterion × ℕ =>
    { criterionId := call.newId (c.2 + 1), standardId := call.newId 0, input := c.1 : Criterion }
  rows.foldlM Database.addCriterion db

def addCrosswalk (source target : CriterionName) (relation : CrosswalkRelation)
    (rationale assertedBy : String) : Except StandardsError Database := do
  let sourceRow ← requireCriterion db source
  let targetRow ← requireCriterion db target
  db.addCrosswalk
    { crosswalkId := call.newId 0
      sourceCriterionId := sourceRow.criterionId
      targetCriterionId := targetRow.criterionId
      relation := relation
      rationale := rationale
      assertedBy := assertedBy }

def mapCriterion (name : CriterionName) (targetType targetRef coverage : String)
    (rationale tenantId : Option String) : Except StandardsError Database := do
  require (targetType ∈ ["risk", "control", "procedure", "test"]) (.valueError "target_type")
  let criterion ← requireCriterion db name
  db.addMapping
    { mappingId := call.newId 0
      tenantId := tenantId
      criterionId := criterion.criterionId
      targetType := targetType
      targetRef := targetRef
      coverage := coverage
      rationale := rationale }

def grantEntitlement (tenantId standardCode licenceRef grantedBy : String)
    (expiresOn : Option Date) : Except StandardsError Database :=
  db.addEntitlement
    { entitlementId := call.newId 0
      tenantId := tenantId
      standardCode := standardCode
      licenceRef := licenceRef
      grantedBy := grantedBy
      expiresOn := expiresOn }

def registerPack (pack : LoadedAuditPack) (registeredBy : String) :
    Except StandardsError Database :=
  match db.getRegistration pack.manifest.packId pack.manifest.version with
  | some existing =>
    if existing.packageSha256 ≠ pack.packageSha256 then
      .error (.packNotReleased
        (.otherArtefact pack.reference existing.packageSha256 pack.packageSha256))
    else .ok db
  | none => db.addRegistration
      { registrationId := call.newId 0
        packId := pack.manifest.packId
        version := pack.manifest.version
        packageSha256 := pack.packageSha256
        releaseKeyId := pack.manifest.releaseKeyId
        standardCode := pack.manifest.standard.code
        standardVersion := pack.manifest.standard.version
        registeredBy := registeredBy }

def approvePack (packId version approvedBy reason : String) : Except StandardsError Database := do
  let record ← ofOption (.packNotFound (packId ++ "@" ++ version))
    (db.getRegistration packId version)
  .ok (if record.status = .approved then db
    else
      { db with
        registrations := Table.put AuditPackRegistration.registrationId
          { record with
            status := .approved
            approvedAt := some call.now
            approvedBy := some approvedBy
            approvalReason := some reason } db.registrations })

def admittedRegistration (request : CompileRequest) (pack : LoadedAuditPack) :
    Except StandardsError AuditPackRegistration := do
  let reference := request.packId ++ "@" ++ request.version
  let registration ← ofOption (.packNotFound reference)
    (db.getRegistration request.packId request.version)
  require (registration.status = .approved) (.packNotReleased (.notApproved reference))
  require (registration.packageSha256 = pack.packageSha256)
    (.packNotReleased (.tampered reference pack.packageSha256 registration.packageSha256))
  return registration

/-- The engagement of a compilation, which has not been compiled. -/
def uncompiledEngagement (request : CompileRequest) : Except StandardsError Engagement := do
  let notFound : StandardsError :=
    .packCompilation (.engagementNotFound request.engagementId request.context.tenantId)
  let engagement ← ofOption notFound (db.getEngagement request.engagementId)
  require (engagement.tenantId = request.context.tenantId) notFound
  require ((db.compilationFor request.context.tenantId request.engagementId).isNone = true)
    (.packCompilation (.alreadyCompiled request.engagementId))
  return engagement

/-- Compiles the pack into the engagement, once. -/
def compileEngagement (request : CompileRequest) :
    Except StandardsError (Database × CompilationReply) := do
  let pack ← call.service.getPack request.packId request.version
  let registration ← admittedRegistration db request pack
  let engagement ← uncompiledEngagement db request
  let (workflow, pins) ← call.service.compiler.compile pack request.context
  let digest := pinsDigest call.service.sha256 pins
  let (orchestration, _) ← (Orchestration.WorkflowCompiler.compile db.orchestration
    request.context.tenantId request.engagementId workflow call.now
    (fun key => call.newId ((workflow.tasks.map (·.key)).idxOf key + 1))
    (fun _ => call.now)).mapError .orchestration
  let gateCount := (workflow.tasks.filter fun task => PyString.truthy task.humanGate).length
  let db ← { db with
      orchestration := orchestration
      engagements := Table.put Engagement.engagementId
        { engagement with auditPackRef := pack.reference } db.engagements }.addCompilation
    { compilationId := call.newId 0
      tenantId := request.context.tenantId
      engagementId := request.engagementId
      registrationId := registration.registrationId
      packId := request.packId
      packVersion := request.version
      packageSha256 := pack.packageSha256
      workflowVersion := workflow.workflowVersion
      pins := pins
      pinsDigest := digest
      organizationContext := request.context
      taskCount := workflow.tasks.length
      gateCount := gateCount
      compiledBy := request.compiledBy
      compiledAt := call.now }
  return (db,
    { compilationId := call.newId 0
      engagementId := request.engagementId
      pack := pack.reference
      workflowVersion := workflow.workflowVersion
      taskCount := workflow.tasks.length
      gateCount := gateCount
      pinsDigest := digest
      pins := pins
      taskKeys := workflow.tasks.map (·.key) })

def exec : Except StandardsError Database :=
  match call.op with
  | .registerStandard standard criteria tenantId =>
    call.registerStandard db standard criteria tenantId
  | .addCrosswalk source target relation rationale assertedBy =>
    call.addCrosswalk db source target relation rationale assertedBy
  | .mapCriterion name targetType targetRef coverage rationale tenantId =>
    call.mapCriterion db name targetType targetRef coverage rationale tenantId
  | .grantEntitlement tenantId standardCode licenceRef grantedBy expiresOn =>
    call.grantEntitlement db tenantId standardCode licenceRef grantedBy expiresOn
  | .registerPack pack registeredBy => call.registerPack db pack registeredBy
  | .approvePack packId version approvedBy reason =>
    call.approvePack db packId version approvedBy reason
  | .compileEngagement request => (call.compileEngagement db request).map Prod.fst

end Call

/-- A call that raises changes nothing. -/
def step (db : Database) (call : Call) : Database :=
  match call.exec db with
  | .ok db' => db'
  | .error _ => db

/-- The calls in their order. -/
def run (db : Database) (calls : List Call) : Database := calls.foldl step db

end Standards
