/-
The data of the control-test engine (`control_testing/definitions.py`, the loaded package of
`control_testing/registry.py`, and the rows of `db/models/control_testing.py` that a run
writes).

A `dict` is a JSON object up to the order of its keys; a request carries it with its keys in
order (`Canonical`).  A run row carries what the service records of a run.
-/
import AssuranceOS.Lib.JsonAccess
import AssuranceOS.Lib.Table
import AssuranceOS.Lib.Checked

namespace ControlTesting

open JsonText

abbrev Date := ℤ

inductive TestConclusion where
  | effective
  | partiallyEffective
  | ineffective
  | notApplicable
  | notTested
  | insufficientEvidence
  | populationIncomplete
  | sourceUnreliable
  | testFailedTechnically
  | scopeLimitation
  deriving DecidableEq, Repr

namespace TestConclusion

def value : TestConclusion → String
  | effective => "effective"
  | partiallyEffective => "partially_effective"
  | ineffective => "ineffective"
  | notApplicable => "not_applicable"
  | notTested => "not_tested"
  | insufficientEvidence => "insufficient_evidence"
  | populationIncomplete => "population_incomplete"
  | sourceUnreliable => "source_unreliable"
  | testFailedTechnically => "test_failed_technically"
  | scopeLimitation => "scope_limitation"

def all : List TestConclusion :=
  [effective, partiallyEffective, ineffective, notApplicable, notTested, insufficientEvidence,
    populationIncomplete, sourceUnreliable, testFailedTechnically, scopeLimitation]

/-- `TestConclusion(value)`. -/
def ofValue (v : String) : Option TestConclusion :=
  all.find? fun c => c.value = v

end TestConclusion

inductive DatasetRole where
  | population
  | reference
  | exceptions
  deriving DecidableEq, Repr

def DatasetRole.value : DatasetRole → String
  | population => "population"
  | reference => "reference"
  | exceptions => "exceptions"

structure DatasetContract where
  name : String
  role : DatasetRole
  rowSchema : Value
  primaryKey : List String := []
  required : Bool := true
  evidenceRequired : Bool := true

structure ReconciliationPolicy where
  requireComplete : Bool := true
  expectedCountParameter : Option String := none
  rejectDuplicatePrimaryKeys : Bool := true

inductive SamplingMethod where
  | fullPopulation
  | deterministicHash
  deriving DecidableEq, Repr

structure SamplingPolicy where
  method : SamplingMethod := .fullPopulation
  sizeParameter : Option String := none
  defaultSize : Option ℕ := none
  seedParameter : Option String := none
  defaultSeed : String := "assuranceos"

/-- A manifest declares exactly one population. -/
structure ControlTestManifest where
  testId : String
  version : String
  datasets : List DatasetContract
  reconciliation : ReconciliationPolicy := {}
  sampling : SamplingPolicy := {}
  /-- `manifest.sampling` and `manifest.resources` as the execution manifest records them -/
  samplingDump : Value := .null
  resourcesDump : Value := .null
  population : DatasetContract
  population_mem : population ∈ datasets
  population_role : ∀ c ∈ datasets, c.role = .population ↔ c = population
  names_nodup : (datasets.map DatasetContract.name).Nodup

structure LoadedControlTest where
  manifest : ControlTestManifest
  inputSchema : Value
  outputSchema : Value
  parameterSchema : Value
  packageSha256 : String
  manifestHash : String
  codeHash : String

/-- `contracts[name]`. -/
def ControlTestManifest.contract? (m : ControlTestManifest) (name : String) :
    Option DatasetContract :=
  Table.get? DatasetContract.name name m.datasets

/-- The keys of every object are in order, and none comes twice. -/
structure Canonical (v : Value) : Prop where
  sorted : v.sorted = v
  distinct : v.Distinct

structure ControlTestDataset where
  name : String
  records : List Value
  evidenceIds : List String := []
  authoritative : Bool := true
  expectedCount : Option ℕ := none
  metadata : Value := .obj []
  canonical_records : ∀ r ∈ records, Canonical r
  canonical_metadata : Canonical metadata

structure ControlTestRunRequest where
  testId : String
  version : String
  purpose : String
  periodStart : Date
  periodEnd : Date
  requestedBy : String
  idempotencyKey : String
  engagementId : Option String := none
  taskId : Option String := none
  parameters : Object
  datasets : List ControlTestDataset
  canonical_parameters : Canonical (.obj parameters)
  names_nodup : (datasets.map ControlTestDataset.name).Nodup

/-- `dataset_by_name.get(name)`. -/
def ControlTestRunRequest.dataset? (request : ControlTestRunRequest) (name : String) :
    Option ControlTestDataset :=
  Table.get? ControlTestDataset.name name request.datasets

inductive ExceptionStatus where
  | opened
  | approvedException
  | falsePositive
  | resolved
  deriving DecidableEq, Repr

/-- `status: Literal[...]`. -/
def ExceptionStatus.ofValue (v : String) : Option ExceptionStatus :=
  if v = "open" then some .opened
  else if v = "approved_exception" then some .approvedException
  else if v = "false_positive" then some .falsePositive
  else if v = "resolved" then some .resolved
  else none

structure TestExceptionResult where
  exceptionKey : String
  subjectRef : String
  classification : String
  severity : String
  status : ExceptionStatus
  reason : String
  attributes : Object
  evidenceIds : List String

inductive RunStatus where
  | running
  | succeeded
  | blocked
  | failed
  deriving DecidableEq, Repr

structure ControlTestRun where
  runId : String
  tenantId : String
  engagementId : Option String
  taskId : Option String
  testId : String
  testVersion : String
  status : RunStatus
  purpose : String
  periodStart : Date
  periodEnd : Date
  idempotencyKey : String
  parameters : Object
  populationCount : ℕ
  sampledCount : ℕ
  reconciledCount : ℤ
  populationComplete : Bool
  exceptionCount : Option ℕ := none
  conclusion : Option TestConclusion := none
  inputManifestHash : String
  executionManifestHash : Option String := none
  resultManifestHash : Option String := none
  result : Option Object := none
  failureClass : Option String := none
  errorMessage : Option String := none

/-- A row of `control_test_exceptions`. -/
structure ExceptionRow where
  runId : String
  exception : TestExceptionResult

structure ControlTestRunResult where
  runId : String
  testId : String
  version : String
  status : RunStatus
  conclusion : TestConclusion
  populationCount : ℕ
  sampledCount : ℕ
  reconciledCount : ℤ
  populationComplete : Bool
  exceptionCount : ℕ
  exceptions : List TestExceptionResult
  rows : List Value
  inputManifestHash : String
  executionManifestHash : String
  resultManifestHash : String
  reproducible : Option Bool := none
  limitations : List String

/-- An exception of a library, or of the procedure: its class, its text, and whether
`except Exception` catches it. -/
structure Failure where
  name : String
  text : String
  ordinary : Bool := true
  deriving DecidableEq

inductive ControlTestError where
  | releaseNotFound (testId version : String)
  | runNotFound (runId : String)
  | idempotencyReused
  | engagementMissing
  | taskMissing
  | taskOfAnotherEngagement
  | evidenceNotCanonical
  | datasetContract (missing unknown : List String)
  | rowInvalid (dataset : String) (index : ℕ) (message : String)
  | evidenceRequired (dataset : String)
  | notAuthoritative
  | invalidInput (message : String)
  | inputsDiffer
  | resultMismatch
  /-- a constraint of the database -/
  | integrity
  /-- a value that pydantic refuses -/
  | validation
  | keyError (key : String)
  | valueError
  /-- `int` of a text that is no number, an iteration over a number, a list in a set -/
  | conversion
  | encoding
  | failure (f : Failure)

end ControlTesting
