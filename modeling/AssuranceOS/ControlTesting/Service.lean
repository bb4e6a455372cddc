/-
`control_testing/service.py`: running a released control test, and verifying a run.

What the service takes from outside is an `Environment`: the JSON-schema library, the
SHA-256 digest of a text, the procedures of the packages (any result, any failure, at any
time), and what the database itself refuses to store.  A transaction either commits all of
its writes or none (`transaction`).
-/
import AssuranceOS.ControlTesting.Definitions
import AssuranceOS.Lib.Attempt
import AssuranceOS.Lib.Civil
import AssuranceOS.Lib.PythonValue

namespace ControlTesting

open JsonText Checked

/-- What the service takes from outside. -/
structure Environment where
  registry : List LoadedControlTest
  requireCanonicalEvidence : Bool := false
  /-- `Draft202012Validator(schema).validate(value)`: the message of the first error -/
  schemaError : Value → Value → Option String
  /-- the digest of a text, in hexadecimal -/
  sha256 : List Char → String
  /-- the text has no lone surrogate -/
  encodes : List Char → Bool
  conversions : Conversions
  /-- `str` of a list of texts -/
  reprStrings : List String → String
  newId : ℕ → String
  /-- `runtime.execute`: the output of the package's procedure and the execution environment -/
  execute : ℕ → LoadedControlTest → Object → Object → Object → Except Failure (Object × Value)
  /-- column lengths, and texts and JSON that the database cannot store -/
  storesResult : Object → Bool
  storesException : TestExceptionResult → Bool
  storesFailure : Failure → Bool

/-- A row of `engagement_tasks`. -/
structure TaskReference where
  tenantId : String
  taskId : String
  engagementId : String

structure Database where
  runs : List ControlTestRun := []
  exceptions : List ExceptionRow := []
  /-- the synchronised releases, by test id and version -/
  releases : List (String × String) := []
  /-- the engagements, tasks and evidence records that the requests refer to, by tenant -/
  engagements : List (String × String) := []
  tasks : List TaskReference := []
  evidence : List (String × String) := []

/-- The database, with the readings of the clock counted. -/
structure World where
  db : Database
  ticks : ℕ := 0

namespace Database

variable (db : Database)

def hasEngagement (tenantId engagementId : String) : Bool :=
  db.engagements.any fun e => e = (tenantId, engagementId)

def hasEvidence (tenantId evidenceId : String) : Bool :=
  db.evidence.any fun e => e = (tenantId, evidenceId)

def getRun (tenantId runId : String) : Option ControlTestRun :=
  db.runs.find? fun r => r.tenantId = tenantId ∧ r.runId = runId

def getRunByIdempotency (tenantId key : String) : Option ControlTestRun :=
  db.runs.find? fun r => r.tenantId = tenantId ∧ r.idempotencyKey = key

/-- `add_run`, with the primary key and the unique idempotency key of a tenant. -/
def addRun (run : ControlTestRun) : Option Database :=
  if db.runs.any fun r => r.runId = run.runId ∨
      r.tenantId = run.tenantId ∧ r.idempotencyKey = run.idempotencyKey then none
  else some { db with runs := db.runs ++ [run] }

def putRun (run : ControlTestRun) : Database :=
  { db with runs := Table.put ControlTestRun.runId run db.runs }

/-- `add_exception`, with the unique key of a run. -/
def addException (row : ExceptionRow) : Option Database :=
  if db.exceptions.any fun e => e.runId = row.runId ∧
      e.exception.exceptionKey = row.exception.exceptionKey then none
  else some { db with exceptions := db.exceptions ++ [row] }

/-- `repository.exceptions`. -/
def exceptionsOf (runId : String) : List TestExceptionResult :=
  ((db.exceptions.filter fun e => e.runId = runId).map ExceptionRow.exception).insertionSort
    fun a b => a.exceptionKey ≤ b.exceptionKey

end Database

/-- `TestExceptionResult.model_validate(item)`. -/
def TestExceptionResult.modelValidate (item : Value) : Option TestExceptionResult := do
  let entries ← asObject item
  let exceptionKey ← (entries.lookup "exception_key").bind asString
  let subjectRef ← (entries.lookup "subject_ref").bind asString
  let classification ← (entries.lookup "classification").bind asString
  let severity ← asString ((entries.lookup "severity").getD (.str "medium"))
  let status ← asString ((entries.lookup "status").getD (.str "open"))
  let status ← ExceptionStatus.ofValue status
  let reason ← (entries.lookup "reason").bind asString
  let attributes ← asObject ((entries.lookup "attributes").getD (.obj []))
  let evidenceIds ← asStrings ((entries.lookup "evidence_ids").getD (.arr []))
  return { exceptionKey, subjectRef, classification, severity, status, reason, attributes,
           evidenceIds }

section Digests

variable (env : Environment)

/-- `digest`. -/
def digest (value : Value) : Except ControlTestError String := do
  require (env.encodes (dumps value)) .encoding
  return env.sha256 (dumps value)

theorem digest_eq_ok {env : Environment} {v : Value} {h : String} :
    digest env v = .ok h ↔ env.encodes (dumps v) = true ∧ env.sha256 (dumps v) = h := by
  unfold digest
  rw [require_bind_eq_ok]
  simp [pure, Except.pure]

def isoformat (d : Date) : String := String.ofList (Civil.dateText ['-'] d)

/-- What a run records of its population. -/
structure Reconciliation where
  populationCount : ℕ
  sampledCount : ℕ
  reconciledCount : ℤ
  populationComplete : Bool
  limitations : List String

/-- The document of `_result_hash`. -/
def resultManifest (value : Object) (reconciliation : Reconciliation) : Value :=
  .obj [("schema", .str "assurance.control_test_result_manifest.v1"),
    ("output", .obj value),
    ("population_count", .int reconciliation.populationCount),
    ("sampled_count", .int reconciliation.sampledCount),
    ("reconciled_count", .int reconciliation.reconciledCount),
    ("population_complete", .bool reconciliation.populationComplete)]

/-- `_result_hash`. -/
def resultHash (value : Object) (reconciliation : Reconciliation) :
    Except ControlTestError String :=
  digest env (resultManifest value reconciliation)

end Digests

/-! ### Preparing the inputs -/

section Inputs

variable (env : Environment) (release : LoadedControlTest) (request : ControlTestRunRequest)

def validateSchema (schema value : Value) : Except ControlTestError Unit :=
  match env.schemaError schema value with
  | none => .ok ()
  | some message => .error (.invalidInput message)

/-- The rows of one dataset, from row `index` on. -/
def validateRecords (contract : DatasetContract) : ℕ → List Value → Except ControlTestError Unit
  | _, [] => .ok ()
  | index, record :: records =>
    match env.schemaError contract.rowSchema record with
    | some message => .error (.rowInvalid contract.name index message)
    | none => validateRecords contract (index + 1) records

def validateDataset (dataset : ControlTestDataset) : Except ControlTestError Unit := do
  let contract ← ofOption (.keyError dataset.name) (release.manifest.contract? dataset.name)
  validateRecords env contract 0 dataset.records
  require (¬ (contract.evidenceRequired ∧ dataset.evidenceIds = []))
    (.evidenceRequired dataset.name)
  require (¬ (dataset.authoritative = false ∧ contract.role = .population)) .notAuthoritative

/-- The names that `sorted` puts in order. -/
def sortedNames (names : List String) : List String := names.insertionSort (· ≤ ·)

def sortedDatasets : List ControlTestDataset :=
  request.datasets.insertionSort fun a b => a.name ≤ b.name

/-- `_validate_request`. -/
def validateRequest : Except ControlTestError Unit := do
  validateSchema env release.parameterSchema (.obj request.parameters)
  let names := request.datasets.map ControlTestDataset.name
  let contracts := release.manifest.datasets
  let unknown := sortedNames (names.filter fun n => n ∉ contracts.map DatasetContract.name)
  let missing := sortedNames ((contracts.filter fun c => c.required && c.name ∉ names).map
    DatasetContract.name)
  require (unknown = [] ∧ missing = []) (.datasetContract missing unknown)
  request.datasets.forM (validateDataset env release)
  validateSchema env release.inputSchema (.obj [("parameters", .obj request.parameters),
    ("datasets", .obj ((sortedDatasets request).map fun d => (d.name, .arr d.records)))])

/-- `_validate_canonical_references`. -/
def validateCanonicalReferences (db : Database) (tenantId : String) :
    Except ControlTestError Unit := do
  require (∀ id ∈ request.engagementId, db.hasEngagement tenantId id) .engagementMissing
  match request.taskId with
  | none => pure ()
  | some taskId =>
    let task ← ofOption .taskMissing
      (db.tasks.find? fun t => t.tenantId = tenantId ∧ t.taskId = taskId)
    require (∀ id ∈ request.engagementId, task.engagementId = id) .taskOfAnotherEngagement
  if env.requireCanonicalEvidence then
    require (∀ d ∈ request.datasets, ∀ id ∈ d.evidenceIds, db.hasEvidence tenantId id)
      .evidenceNotCanonical

/-- The key of a record; a list or an object cannot be put in a set. -/
def recordKey (contract : DatasetContract) (record : Value) :
    Except ControlTestError (List Value) :=
  contract.primaryKey.mapM fun field =>
    match get ((asObject record).getD []) field with
    | .arr _ | .obj _ => .error .conversion
    | v => .ok v

def duplicateKeysFrom (contract : DatasetContract) :
    List (List Value) → List Value → Except ControlTestError (List String)
  | _, [] => .ok []
  | seen, record :: records => do
    let key ← recordKey contract record
    let rest ← duplicateKeysFrom contract (key :: seen) records
    if seen.any fun k => equalItems env.conversions.real k key then
      return String.intercalate "|" (key.map env.conversions.str) :: rest
    else return rest

/-- `_duplicate_keys`. -/
def duplicateKeys (contract : DatasetContract) (records : List Value) :
    Except ControlTestError (List String) :=
  if contract.primaryKey = [] then .ok [] else duplicateKeysFrom env contract [] records

/-- `xs[:n]`. -/
def firstItems {α : Type} (n : ℤ) (xs : List α) : List α :=
  if 0 ≤ n then xs.take n.toNat else xs.take (xs.length - n.natAbs)

def parameter? (name : Option String) : Option Value :=
  match name with
  | some n => if n = "" then none else request.parameters.lookup n
  | none => none

/-- `_sample`. -/
def sample (records : List Value) : Except ControlTestError (List Value) :=
  let policy := release.manifest.sampling
  match policy.method with
  | .fullPopulation => .ok records
  | .deterministicHash => do
    let size ← match parameter? request policy.sizeParameter with
      | some v => ofOption .conversion (env.conversions.int v)
      | none => .ok ((policy.defaultSize.getD records.length : ℕ) : ℤ)
    let seed := match parameter? request policy.seedParameter with
      | some v => env.conversions.str v
      | none => policy.defaultSeed
    let ranked := records.insertionSort fun a b =>
      env.sha256 (seed.toList ++ dumps a) ≤ env.sha256 (seed.toList ++ dumps b)
    return firstItems (min size ranked.length) ranked

/-- The prepared datasets, the input manifest and the reconciliation. -/
structure Prepared where
  datasets : Object
  inputManifest : Value
  reconciliation : Reconciliation

def datasetManifest (dataset : ControlTestDataset) (records : List Value) :
    Except ControlTestError Value := do
  let contract ← ofOption (.keyError dataset.name) (release.manifest.contract? dataset.name)
  let contentHash ← digest env (.arr dataset.records)
  let schemaHash ← digest env contract.rowSchema
  return .obj [("name", .str dataset.name), ("role", .str contract.role.value),
    ("row_count", .int dataset.records.length), ("sampled_row_count", .int records.length),
    ("content_hash", .str contentHash), ("schema_hash", .str schemaHash),
    ("evidence_ids", .arr ((sortedNames dataset.evidenceIds).map .str)),
    ("authoritative", .bool dataset.authoritative),
    ("expected_count", match dataset.expectedCount with
      | some n => .int n
      | none => .null),
    ("metadata", dataset.metadata)]

def inputManifest (datasets : List Value) : Value :=
  .obj [("schema", .str "assurance.control_test_input_manifest.v1"),
    ("test_id", .str request.testId), ("version", .str request.version),
    ("period_start", .str (isoformat request.periodStart)),
    ("period_end", .str (isoformat request.periodEnd)),
    ("parameters", .obj request.parameters), ("datasets", .arr datasets)]

def expectedCount (population : ControlTestDataset) : Except ControlTestError (Option ℤ) :=
  match parameter? request release.manifest.reconciliation.expectedCountParameter with
  | some v => (ofOption .conversion (env.conversions.int v)).map some
  | none => .ok (population.expectedCount.map fun n => (n : ℤ))

/-- The keys of the population that come again, where they matter. -/
def populationDuplicates (records : List Value) : Except ControlTestError (List String) :=
  if release.manifest.reconciliation.rejectDuplicatePrimaryKeys then
    duplicateKeys env release.manifest.population records
  else .ok []

/-- The reconciliation of a population of `count` records. -/
def reconcile (count : ℕ) (expected : Option ℤ) (duplicates : List String) (sampledCount : ℕ) :
    Reconciliation :=
  let counted : Bool := expected = none ∨ expected = some (count : ℤ)
  let complete : Bool := counted && duplicates = []
  { populationCount := count
    sampledCount := sampledCount
    -- `expected or len(population.records)`: no count and zero are both false
    reconciledCount := if complete then count else
      min count (match expected with
        | some n => if n = 0 then (count : ℤ) else n
        | none => count)
    populationComplete := complete
    limitations :=
      (if counted then [] else
        ["population count " ++ toString count ++ " does not match expected count " ++
          toString (expected.getD 0)]) ++
      (if duplicates = [] then [] else
        ["duplicate population keys: " ++ env.reprStrings (duplicates.take 10)]) }

def preparedRecords (sampled : List Value) (dataset : ControlTestDataset) : List Value :=
  if dataset.name = release.manifest.population.name then sampled else dataset.records

/-- `_prepare_datasets`. -/
def prepareDatasets : Except ControlTestError Prepared := do
  let contract := release.manifest.population
  let population ← ofOption (.keyError contract.name) (request.dataset? contract.name)
  let expected ← expectedCount env release request population
  let duplicates ← populationDuplicates env release population.records
  let sampled ← sample env release request population.records
  let manifests ← (sortedDatasets request).mapM fun d =>
    datasetManifest env release d (preparedRecords release sampled d)
  return {
    datasets := (sortedDatasets request).map fun d =>
      (d.name, .arr (preparedRecords release sampled d))
    inputManifest := inputManifest request manifests
    reconciliation := reconcile env population.records.length expected duplicates sampled.length }

def context (tenantId runId : String) : Object :=
  [("tenant_id", .str tenantId), ("run_id", .str runId),
    ("period_start", .str (isoformat request.periodStart)),
    ("period_end", .str (isoformat request.periodEnd)), ("purpose", .str request.purpose)]

end Inputs

/-- `_result_from_row`. -/
def resultFromRow (db : Database) (row : ControlTestRun) :
    Except ControlTestError ControlTestRunResult := do
  let result := row.result.getD []
  let rows ← ofOption .validation (asObjects ((result.lookup "rows").getD (.arr [])))
  let limitations ← ofOption .validation (asStrings ((result.lookup "limitations").getD (.arr [])))
  return {
    runId := row.runId
    testId := row.testId
    version := row.testVersion
    status := if row.status = .running then .failed else row.status
    conclusion := row.conclusion.getD .notTested
    populationCount := row.populationCount
    sampledCount := row.sampledCount
    reconciledCount := row.reconciledCount
    populationComplete := row.populationComplete
    exceptionCount := row.exceptionCount.getD 0
    exceptions := db.exceptionsOf row.runId
    rows := rows
    inputManifestHash := row.inputManifestHash
    executionManifestHash := row.executionManifestHash.getD ""
    resultManifestHash := row.resultManifestHash.getD ""
    limitations := limitations }

def transaction {α : Type} (f : Database → Except ControlTestError (α × Database)) :
    Attempt World ControlTestError α := fun w =>
  match f w.db with
  | .ok (a, db) => (.ok a, { w with db := db })
  | .error e => (.error e, w)

/-- What the first transaction of a run does. -/
inductive Opening where
  | existing (result : ControlTestRunResult)
  | created (runId : String)

def openedRow (tenantId : String) (request : ControlTestRunRequest)
    (reconciliation : Reconciliation) (inputHash runId : String) : ControlTestRun where
  runId := runId
  tenantId := tenantId
  engagementId := request.engagementId
  taskId := request.taskId
  testId := request.testId
  testVersion := request.version
  status := .running
  purpose := request.purpose
  periodStart := request.periodStart
  periodEnd := request.periodEnd
  idempotencyKey := request.idempotencyKey
  parameters := request.parameters
  populationCount := reconciliation.populationCount
  sampledCount := reconciliation.sampledCount
  reconciledCount := reconciliation.reconciledCount
  populationComplete := reconciliation.populationComplete
  inputManifestHash := inputHash

/-- The first transaction: an earlier run of the key, or a new row. -/
def openRun (tenantId : String) (request : ControlTestRunRequest) (prepared : Prepared)
    (inputHash runId : String) (db : Database) :
    Except ControlTestError (Opening × Database) :=
  match db.getRunByIdempotency tenantId request.idempotencyKey with
  | some existing => do
    require (existing.inputManifestHash = inputHash) .idempotencyReused
    let result ← resultFromRow db existing
    return (.existing result, db)
  | none => do
    require (db.releases.any fun release => release = (request.testId, request.version))
      (.releaseNotFound request.testId request.version)
    let db ← ofOption .integrity
      (db.addRun (openedRow tenantId request prepared.reconciliation inputHash runId))
    return (.created runId, db)

def executionManifest (release : LoadedControlTest) (request : ControlTestRunRequest)
    (inputHash : String) (environment : Value) : Value :=
  .obj [("schema", .str "assurance.control_test_execution_manifest.v1"),
    ("test_id", .str release.manifest.testId), ("version", .str release.manifest.version),
    ("package_hash", .str release.packageSha256), ("manifest_hash", .str release.manifestHash),
    ("code_hash", .str release.codeHash), ("input_manifest_hash", .str inputHash),
    ("parameters", .obj request.parameters), ("sampling", release.manifest.samplingDump),
    ("resources", release.manifest.resourcesDump), ("environment", environment)]

/-- What `_finalize` reads out of the result. -/
structure Reading where
  exceptions : List TestExceptionResult
  conclusion : TestConclusion
  executionHash : String
  resultHash : String

/-- `_finalize`, before its transaction. -/
def readResult (env : Environment) (release : LoadedControlTest) (request : ControlTestRunRequest)
    (value : Object) (environment : Value) (inputHash : String) (reconciliation : Reconciliation) :
    Except ControlTestError Reading := do
  let items ← ofOption .conversion (iterate ((value.lookup "exceptions").getD (.arr [])))
  let exceptions ← items.mapM fun item => ofOption .validation (TestExceptionResult.modelValidate item)
  let conclusion ← ofOption (.keyError "conclusion") (value.lookup "conclusion")
  let conclusion ← ofOption .valueError ((asString conclusion).bind TestConclusion.ofValue)
  let executionHash ← digest env (executionManifest release request inputHash environment)
  let resultHash ← resultHash env value reconciliation
  return { exceptions, conclusion, executionHash, resultHash }

def ControlTestRun.finalized (row : ControlTestRun) (status : RunStatus) (value : Object)
    (reading : Reading) : ControlTestRun :=
  { row with
    status := status
    exceptionCount := some reading.exceptions.length
    conclusion := some reading.conclusion
    executionManifestHash := some reading.executionHash
    resultManifestHash := some reading.resultHash
    result := some value }

/-- `add_exception` for each of them. -/
def addExceptions (env : Environment) (runId : String) :
    List TestExceptionResult → Database → Except ControlTestError Database
  | [], db => .ok db
  | e :: es, db => do
    require (env.storesException e) .integrity
    let db ← ofOption .integrity (db.addException { runId := runId, exception := e })
    addExceptions env runId es db

/-- The transaction of `_finalize`. -/
def closeRun (env : Environment) (tenantId runId : String) (status : RunStatus) (value : Object)
    (reading : Reading) (db : Database) :
    Except ControlTestError (ControlTestRunResult × Database) := do
  let row ← ofOption (.runNotFound runId) (db.getRun tenantId runId)
  let row := row.finalized status value reading
  require (env.storesResult value) .integrity
  let db ← addExceptions env runId reading.exceptions (db.putRun row)
  let result ← resultFromRow db row
  return (result, db)

/-- `_finalize`. -/
def finalize (env : Environment) (tenantId runId : String) (release : LoadedControlTest)
    (request : ControlTestRunRequest) (value : Object) (environment : Value) (status : RunStatus)
    (inputHash : String) (reconciliation : Reconciliation) :
    Attempt World ControlTestError ControlTestRunResult := do
  let reading ← .lift (readResult env release request value environment inputHash reconciliation)
  transaction (closeRun env tenantId runId status value reading)

def failRun (env : Environment) (tenantId runId : String) (f : Failure) (db : Database) :
    Except ControlTestError (Unit × Database) := do
  let row ← ofOption (.runNotFound runId) (db.getRun tenantId runId)
  require (env.storesFailure f) .integrity
  return ((), db.putRun { row with
    status := .failed
    conclusion := some .testFailedTechnically
    failureClass := some f.name
    errorMessage := some (String.ofList (f.text.toList.take 8000)) })

def blockedResult (reconciliation : Reconciliation) : Object :=
  [("conclusion", .str TestConclusion.populationIncomplete.value), ("rows", .arr []),
    ("exceptions", .arr []), ("limitations", .arr (reconciliation.limitations.map .str))]

def blockedEnvironment : Value :=
  .obj [("runtime", .str "not_executed"), ("reason", .str "population_incomplete")]

/-- The guarded block: the procedure and the check of its output. -/
def executeChecked (env : Environment) (ticks : ℕ) (release : LoadedControlTest)
    (request : ControlTestRunRequest) (tenantId runId : String) (prepared : Prepared) :
    Except Failure (Object × Value) := do
  let (value, environment) ← env.execute ticks release prepared.datasets request.parameters
    (context request tenantId runId)
  match env.schemaError release.outputSchema (.obj value) with
  | some message => .error { name := "ValidationError", text := message }
  | none => return (value, environment)

/-- `registry.get`. -/
def Environment.release? (env : Environment) (testId version : String) : Option LoadedControlTest :=
  env.registry.find? fun r => r.manifest.testId = testId ∧ r.manifest.version = version

def tick : Attempt World ControlTestError ℕ := fun w =>
  (.ok w.ticks, { w with ticks := w.ticks + 1 })

/-- What the checks of a request make of it. -/
structure Admission where
  release : LoadedControlTest
  prepared : Prepared
  inputHash : String

/-- The checks of `run` and of `verify_reproducibility` on a request. -/
def admitRun (env : Environment) (db : Database) (tenantId : String)
    (request : ControlTestRunRequest) : Except ControlTestError Admission := do
  let release ← ofOption (.releaseNotFound request.testId request.version)
    (env.release? request.testId request.version)
  validateRequest env release request
  validateCanonicalReferences env request db tenantId
  let prepared ← prepareDatasets env release request
  let inputHash ← digest env prepared.inputManifest
  return { release, prepared, inputHash }

def finishRun (env : Environment) (tenantId runId : String) (request : ControlTestRunRequest)
    (admission : Admission) : Attempt World ControlTestError ControlTestRunResult :=
  let release := admission.release
  let reconciliation := admission.prepared.reconciliation
  if !reconciliation.populationComplete && release.manifest.reconciliation.requireComplete then
    finalize env tenantId runId release request (blockedResult reconciliation) blockedEnvironment
      .blocked admission.inputHash reconciliation
  else do
    let now ← tick
    match executeChecked env now release request tenantId runId admission.prepared with
    | .error f =>
      -- `except Exception`
      if f.ordinary then
        transaction (failRun env tenantId runId f)
      Attempt.raise (.failure f)
    | .ok (value, environment) =>
      finalize env tenantId runId release request value environment .succeeded
        admission.inputHash reconciliation

/-- `run`. -/
def run (env : Environment) (tenantId : String) (request : ControlTestRunRequest) :
    Attempt World ControlTestError ControlTestRunResult := do
  let w ← Attempt.get
  let admission ← .lift (admitRun env w.db tenantId request)
  let now ← tick
  match ← transaction (openRun tenantId request admission.prepared admission.inputHash
    (env.newId now)) with
  | .existing result => return result
  | .created runId => finishRun env tenantId runId request admission

/-- `get_run`. -/
def getRun (db : Database) (tenantId runId : String) :
    Except ControlTestError ControlTestRunResult := do
  let row ← ofOption (.runNotFound runId) (db.getRun tenantId runId)
  resultFromRow db row

/-- `verify_reproducibility`. -/
def verifyReproducibility (env : Environment) (w : World) (tenantId runId : String)
    (request : ControlTestRunRequest) : Except ControlTestError ControlTestRunResult := do
  let original ← getRun w.db tenantId runId
  let release ← ofOption (.releaseNotFound original.testId original.version)
    (env.release? original.testId original.version)
  validateRequest env release request
  validateCanonicalReferences env request w.db tenantId
  let prepared ← prepareDatasets env release request
  let inputHash ← digest env prepared.inputManifest
  require (inputHash = original.inputManifestHash) .inputsDiffer
  let (value, _) ← (executeChecked env w.ticks release request tenantId runId prepared).mapError
    .failure
  let hash ← resultHash env value prepared.reconciliation
  require (hash = original.resultManifestHash) .resultMismatch
  return { original with reproducible := some true }

end ControlTesting
