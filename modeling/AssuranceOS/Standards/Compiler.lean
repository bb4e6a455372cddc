/-
The Audit Pack compiler (`standards/compiler.py`).

`AuditPackCompiler.compile` checks that the platform has what the pack needs, that the tenant
may use the standard and that the criteria cover the period, and turns the procedures into the
tasks of a workflow, with the pins of the compilation.  The tasks are those of `tasksOf`: they
depend on the manifest and on the digest of the package only.

Versions are compared by their runs of ASCII digits.
-/
import AssuranceOS.Lib.Checked
import AssuranceOS.Lib.Dict
import AssuranceOS.Lib.JsonAscii
import AssuranceOS.Standards.Definitions
import AssuranceOS.Vault.Definitions

namespace Standards

open Checked
open Orchestration (TaskDefinition WorkflowDefinition WorkflowCompiler.sorted)

/-- `_version_tuple`. -/
def versionTuple (value : String) : List ℕ :=
  (value.toList.splitOn '.').map fun chunk => Nat.ofDigitChars 10 (chunk.takeWhile Char.isDigit) 0

structure AuditPackCompiler where
  releasedTests : List (String × String) := []
  releasedAgents : List (String × String) := []
  availableConnectors : List String := []
  platformVersion : String

def releaseLe (t u : TestReference) : Prop :=
  t.testId < u.testId ∨ t.testId = u.testId ∧ t.version ≤ u.version

instance decidableReleaseLe : DecidableRel releaseLe := fun t u =>
  inferInstanceAs (Decidable (t.testId < u.testId ∨ t.testId = u.testId ∧ t.version ≤ u.version))

/-- `registry.list()`, of the releases of the control-test registry. -/
def listReleases (releases : List TestReference) : List TestReference :=
  releases.insertionSort releaseLe

/-- `released_test_versions`. -/
def releasedTestVersions (releases : List TestReference) : List (String × String) :=
  Dict.ofPairs ((listReleases releases).map fun t => (t.testId, t.version))

/-- A verified pack: where it lies, what it says, and the digest of its release. -/
structure LoadedAuditPack where
  packDirName : String
  manifest : PackManifest
  packageSha256 : String

namespace AuditPackCompiler

variable (compiler : AuditPackCompiler)

def testProblem (reference : TestReference) : Option CompatibilityProblem :=
  match compiler.releasedTests.lookup reference.testId with
  | none => some (.testNotReleased reference.testId)
  | some released =>
    -- pinned exactly, not "at least"
    if released ≠ reference.version then
      some (.testAtOtherVersion reference.testId released reference.version)
    else none

def agentReleased (role : String) : Bool :=
  (compiler.releasedAgents.lookup role).isSome

def problems (manifest : PackManifest) : List CompatibilityProblem :=
  (if versionTuple compiler.platformVersion < versionTuple manifest.compatibility.minPlatformVersion
    then [.platform manifest.compatibility.minPlatformVersion compiler.platformVersion] else []) ++
  manifest.compatibility.requiresControlTests.filterMap compiler.testProblem ++
  (manifest.compatibility.requiresAgentRoles.filter fun role => ¬ compiler.agentReleased role).map
    .agentRole ++
  (manifest.compatibility.requiresConnectors.filter fun connector =>
    connector ∉ compiler.availableConnectors).map .connector ++
  (manifest.procedures.filter fun procedure => ¬ compiler.agentReleased procedure.agent).map
    fun procedure => .procedureAgent procedure.key procedure.agent

/-- The platform can run the pack. -/
def checkCompatibility (manifest : PackManifest) : Except StandardsError Unit :=
  require (compiler.problems manifest = [])
    (.packCompatibility manifest.reference (compiler.problems manifest).dedup)

end AuditPackCompiler

def checkEntitlement (manifest : PackManifest) (context : OrganizationContext) :
    Except StandardsError Unit :=
  require (manifest.standard.entitlementRequired = false ∨
      manifest.standard.code ∈ context.entitlements)
    (.packEntitlement manifest.reference manifest.standard.code context.tenantId)

def staleCriteria (manifest : PackManifest) (context : OrganizationContext) : List String :=
  (manifest.criteria.filter fun criterion =>
    ¬ criterion.effective.effectiveOver context.periodStart context.periodEnd).map (·.criteriaId)

def checkEffectivity (manifest : PackManifest) (context : OrganizationContext) :
    Except StandardsError Unit :=
  require (staleCriteria manifest context = [])
    (.criteriaEffectivity manifest.reference (WorkflowCompiler.sorted (staleCriteria manifest context)))

/-- `criteria_by_id[code]`. -/
def criterionById (manifest : PackManifest) (code : String) : Option PackCriterion :=
  (Dict.ofPairs (manifest.criteria.map fun c => (c.criteriaId, c))).lookup code

def controlOf (manifest : PackManifest) (procedure : PackProcedure) : Option PackControl :=
  if PyString.truthy procedure.controlRef then
    procedure.controlRef.bind fun ref =>
      (Dict.ofPairs (manifest.controls.map fun c => (c.controlId, c))).lookup ref
  else none

/-- `control.criteria_refs`, or nothing. -/
def criteriaRefsOf (manifest : PackManifest) (procedure : PackProcedure) : List String :=
  ((controlOf manifest procedure).map (·.criteriaRefs)).getD []

def inputRefsOf (manifest : PackManifest) (procedure : PackProcedure) : List String :=
  ["pack:" ++ manifest.reference] ++
  ((controlOf manifest procedure).map fun control => "control:" ++ control.controlId).toList ++
  (criteriaRefsOf manifest procedure).map (fun code => "criterion:" ++ code) ++
  (procedure.testRef.map fun t => "control-test:" ++ t.str).toList

def optionJson : Option String → Json
  | none => .null
  | some s => .str s

def stringsJson (strings : List String) : Json := .arr (strings.map .str)

def criterionJson (criterion : PackCriterion) : Json :=
  .obj [("criteria_id", .str criterion.criteriaId), ("text", .str criterion.text),
    ("citation", .str criterion.citation), ("strength", .str criterion.strength.value)]

def controlJson (control : PackControl) : Json :=
  .obj [("control_id", .str control.controlId), ("risk", .str control.risk),
    ("expected", .str control.expected)]

def executionPolicyOf (manifest : PackManifest) (packageSha256 : String)
    (procedure : PackProcedure) : JsonObject :=
  let criteria := (criteriaRefsOf manifest procedure).filterMap (criterionById manifest)
  [("pack_reference", .str manifest.reference),
    ("package_sha256", .str packageSha256),
    ("objective", .str manifest.objective),
    ("action", .str procedure.action),
    ("criteria", stringsJson (criteriaRefsOf manifest procedure)),
    ("citations", stringsJson (criteria.map (·.citation))),
    ("criteria_detail", .arr (criteria.map criterionJson)),
    ("control", ((controlOf manifest procedure).map controlJson).getD .null),
    ("quality_rules", stringsJson manifest.qualityRules),
    ("control_test", optionJson (procedure.testRef.map TestReference.str)),
    ("depends_on", stringsJson (WorkflowCompiler.sorted procedure.dependsOn))]

theorem defaultAttempts_pos : 1 ≤ 3 := by omega

theorem defaultAttempts_le : 3 ≤ 100 := by omega

theorem defaultDelay_nonneg : (0 : ℚ) ≤ 5 := by decide +kernel

theorem defaultMultiplier_le : (1 : ℚ) ≤ 2 := by decide +kernel

theorem defaultMaxDelay_nonneg : (0 : ℚ) ≤ 300 := by decide +kernel

/-- The task of a procedure; a priority beyond its bound is refused by the definition. -/
def taskOf (manifest : PackManifest) (packageSha256 : String) (procedure : PackProcedure) :
    Except StandardsError TaskDefinition :=
  if h : 100 + procedure.step ≤ 10000 then
    .ok
      { key := procedure.key
        taskType := procedure.taskType
        definitionVersion := manifest.version
        dependencies := (WorkflowCompiler.sorted procedure.dependsOn).map fun parent =>
          { taskKey := parent }
        assignedAgentRole := some procedure.agent
        inputRefs := inputRefsOf manifest procedure
        executionPolicy := executionPolicyOf manifest packageSha256 procedure
        modelPolicy := procedure.modelPolicy
        toolPolicy := procedure.toolPolicy
        retryPolicy :=
          { one_le_maxAttempts := defaultAttempts_pos
            maxAttempts_le := defaultAttempts_le
            initialDelay_nonneg := defaultDelay_nonneg
            one_le_multiplier := defaultMultiplier_le
            maxDelay_nonneg := defaultMaxDelay_nonneg }
        priority := 100 + procedure.step
        deadlineSeconds := procedure.deadlineSeconds
        humanGate := procedure.humanGate
        key_valid := procedure.key_valid
        priority_le := h
        deadline_pos := procedure.deadline_pos
        gatePositionRequiresGate := fun _ => rfl }
  else .error (.validationError "priority")

def procedureLe (p q : PackProcedure) : Prop :=
  p.step < q.step ∨ p.step = q.step ∧ p.key ≤ q.key

instance decidableProcedureLe : DecidableRel procedureLe := fun p q =>
  inferInstanceAs (Decidable (p.step < q.step ∨ p.step = q.step ∧ p.key ≤ q.key))

def orderedProcedures (manifest : PackManifest) : List PackProcedure :=
  manifest.procedures.insertionSort procedureLe

def tasksOf (manifest : PackManifest) (packageSha256 : String) :
    Except StandardsError (List TaskDefinition) :=
  (orderedProcedures manifest).mapM (taskOf manifest packageSha256)

/-- `date.isoformat()`. -/
def isoformat (d : Date) : String := String.ofList (Civil.dateText ['-'] d)

def workflowMetadata (pack : LoadedAuditPack) (context : OrganizationContext) : JsonObject :=
  let manifest := pack.manifest
  [("pack_id", .str manifest.packId),
    ("pack_version", .str manifest.version),
    ("package_sha256", .str pack.packageSha256),
    ("objective", .str manifest.objective),
    ("standard", .str (manifest.standard.code ++ "@" ++ manifest.standard.version)),
    ("human_gates", stringsJson manifest.humanGates),
    ("quality_rules", stringsJson manifest.qualityRules),
    ("entity", .str context.entityName),
    ("period", stringsJson [isoformat context.periodStart, isoformat context.periodEnd]),
    ("in_scope_systems", stringsJson context.inScopeSystems)]

def workflowOf (pack : LoadedAuditPack) (context : OrganizationContext)
    (tasks : List TaskDefinition) : Except StandardsError WorkflowDefinition :=
  if 64 < pack.manifest.reference.length then .error (.validationError "workflow_version")
  else if h : tasks ≠ [] then
    .ok
      { workflowVersion := pack.manifest.reference
        tasks := tasks
        metadata := workflowMetadata pack context
        tasks_ne_nil := h }
  else .error (.validationError "tasks")

def validate (workflow : WorkflowDefinition) : Except StandardsError Unit :=
  (Orchestration.WorkflowCompiler.validate workflow).mapError fun _ =>
    .packCompilation (.workflow workflow.workflowVersion)

namespace AuditPackCompiler

variable (compiler : AuditPackCompiler)

/-- `sorted({item.agent for item in manifest.procedures})`. -/
def procedureAgents (manifest : PackManifest) : List String :=
  WorkflowCompiler.sorted (manifest.procedures.map (·.agent)).dedup

/-- The released version of each agent that a procedure is assigned to. -/
def agentRoles (manifest : PackManifest) : Except StandardsError (List (String × String)) :=
  (procedureAgents manifest).mapM fun role =>
    (ofOption (.keyError role) (compiler.releasedAgents.lookup role)).map fun version =>
      (role, version)

def pinsOf (pack : LoadedAuditPack) (context : OrganizationContext)
    (agentRoles : List (String × String)) : CompilationPins :=
  let manifest := pack.manifest
  { packId := manifest.packId
    packVersion := manifest.version
    packageSha256 := pack.packageSha256
    releaseKeyId := manifest.releaseKeyId
    standardCode := manifest.standard.code
    standardVersion := manifest.standard.version
    criteria := Dict.ofPairs (manifest.criteria.map fun c => (c.criteriaId, c.citation))
    controlTests := Dict.ofPairs
      (manifest.compatibility.requiresControlTests.map fun t => (t.testId, t.version))
    agentRoles := agentRoles
    platformVersion := compiler.platformVersion
    organizationProfileVersion := context.profileVersion
    compiledFrom := pack.packDirName }

/-- The workflow of a pack for an organization, with its pins. -/
def compile (pack : LoadedAuditPack) (context : OrganizationContext) :
    Except StandardsError (WorkflowDefinition × CompilationPins) := do
  compiler.checkCompatibility pack.manifest
  checkEntitlement pack.manifest context
  checkEffectivity pack.manifest context
  let tasks ← tasksOf pack.manifest pack.packageSha256
  let workflow ← workflowOf pack context tasks
  validate workflow
  let agentRoles ← compiler.agentRoles pack.manifest
  return (workflow, compiler.pinsOf pack context agentRoles)

variable {compiler} {pack : LoadedAuditPack} {context : OrganizationContext}
  {workflow : WorkflowDefinition} {pins : CompilationPins}

/-- **A compilation** passes every check, and its tasks and pins are those of the pack. -/
theorem compile_eq_ok : compiler.compile pack context = .ok (workflow, pins) ↔
    compiler.checkCompatibility pack.manifest = .ok () ∧
    checkEntitlement pack.manifest context = .ok () ∧
    checkEffectivity pack.manifest context = .ok () ∧
    (∃ tasks, tasksOf pack.manifest pack.packageSha256 = .ok tasks ∧
      workflowOf pack context tasks = .ok workflow) ∧
    validate workflow = .ok () ∧
    ∃ roles, compiler.agentRoles pack.manifest = .ok roles ∧
      compiler.pinsOf pack context roles = pins := by
  unfold compile
  constructor
  · intro h
    obtain ⟨⟨⟩, hcompatible, h⟩ := bind_eq_ok.mp h
    obtain ⟨⟨⟩, hentitled, h⟩ := bind_eq_ok.mp h
    obtain ⟨⟨⟩, heffective, h⟩ := bind_eq_ok.mp h
    obtain ⟨tasks, htasks, h⟩ := bind_eq_ok.mp h
    obtain ⟨made, hmade, h⟩ := bind_eq_ok.mp h
    obtain ⟨⟨⟩, hvalid, h⟩ := bind_eq_ok.mp h
    obtain ⟨roles, hroles, h⟩ := bind_eq_ok.mp h
    obtain ⟨rfl, rfl⟩ := Prod.mk.inj (Except.ok.inj h)
    exact ⟨hcompatible, hentitled, heffective, ⟨tasks, htasks, hmade⟩, hvalid, roles, hroles, rfl⟩
  · rintro ⟨hcompatible, hentitled, heffective, ⟨tasks, htasks, hmade⟩, hvalid, roles, hroles, rfl⟩
    rw [hcompatible, hentitled, heffective, htasks]
    show (workflowOf pack context tasks >>= _) = _
    rw [hmade]
    show (validate workflow >>= _) = _
    rw [hvalid]
    show (compiler.agentRoles pack.manifest >>= _) = _
    rw [hroles]
    rfl

end AuditPackCompiler

variable {context : OrganizationContext}

theorem workflowOf_tasks {pack : LoadedAuditPack} {tasks : List TaskDefinition}
    {workflow : WorkflowDefinition} (h : workflowOf pack context tasks = .ok workflow) :
    workflow.tasks = tasks := by
  unfold workflowOf at h
  split at h
  · cases h
  · split at h
    · rw [← Except.ok.inj h]
    · cases h

theorem checkEffectivity_eq_ok {manifest : PackManifest} :
    checkEffectivity manifest context = .ok () ↔ ∀ criterion ∈ manifest.criteria,
      criterion.effective.Covers context.periodStart context.periodEnd := by
  unfold checkEffectivity staleCriteria
  rw [require_eq_ok, List.map_eq_nil_iff, List.filter_eq_nil_iff]
  simp only [← effectiveOver_iff, decide_not, Bool.not_eq_true', Bool.not_eq_false,
    Bool.decide_eq_true]

open JsonText (Value)

def optionValue : Option String → Value
  | none => .null
  | some s => .str s

def dictValue (entries : List (String × String)) : Value :=
  .obj (entries.map fun e => (e.1, .str e.2))

/-- `pins.digest_source`. -/
def CompilationPins.digestSource (pins : CompilationPins) : JsonText.Object :=
  [("pack_id", .str pins.packId),
    ("pack_version", .str pins.packVersion),
    ("package_sha256", .str pins.packageSha256),
    ("release_key_id", optionValue pins.releaseKeyId),
    ("standard_code", .str pins.standardCode),
    ("standard_version", .str pins.standardVersion),
    ("criteria", dictValue pins.criteria),
    ("control_tests", dictValue pins.controlTests),
    ("agent_roles", dictValue pins.agentRoles),
    ("platform_version", .str pins.platformVersion),
    ("organization_profile_version",
      (pins.organizationProfileVersion.map Value.int).getD .null),
    ("compiled_from", .str pins.compiledFrom)]

/-- `pins_digest`. -/
def pinsDigest (sha256 : Vault.Bytes → String) (pins : CompilationPins) : String :=
  sha256 (Vault.utf8 (JsonText.dumpsAscii (.obj pins.digestSource)))

end Standards
