/-
Standards, criteria and Audit Packs (`standards/definitions.py`, `standards/exceptions.py`).

A `PackManifest` is a parsed `pack.yaml`.  What the pydantic validators of the source refuse
cannot be built here: the coherence rules of the pack are fields of the structure.

A date is the ordinal of its day.
-/
import AssuranceOS.Lib.Civil
import AssuranceOS.Orchestration.Compiler

namespace Standards

open Orchestration (validKey)

/-- `datetime.date`. -/
abbrev Date := ℤ

/-- The dates of a window, which may be open at either end. -/
structure Window where
  effectiveFrom : Option Date := none
  effectiveTo : Option Date := none
  deriving DecidableEq, Repr

/-- `window_must_be_ordered`. -/
def Window.Ordered (w : Window) : Prop :=
  ∀ start ∈ w.effectiveFrom, ∀ stop ∈ w.effectiveTo, start ≤ stop

/-- `effective_over`. -/
def Window.effectiveOver (w : Window) (start stop : Date) : Bool :=
  if w.effectiveFrom.any fun d => start < d then false
  else if w.effectiveTo.any fun d => d < stop then false
  else true

def Window.Covers (w : Window) (start stop : Date) : Prop :=
  (∀ d ∈ w.effectiveFrom, d ≤ start) ∧ ∀ d ∈ w.effectiveTo, stop ≤ d

variable {w : Window} {start stop : Date}

theorem effectiveOver_iff :
    w.effectiveOver start stop = true ↔ w.Covers start stop := by
  unfold Window.effectiveOver Window.Covers
  by_cases hstart : w.effectiveFrom.any fun d => start < d
  · rw [if_pos hstart]
    obtain ⟨d, hd, hlt⟩ := Option.any_eq_true _ _ |>.mp hstart
    refine iff_of_false (by simp) ?_
    rintro ⟨hfrom, -⟩
    have hle := hfrom d hd
    have hlt' : start < d := by simpa using hlt
    exact absurd hlt' hle.not_gt
  · rw [if_neg hstart]
    have hfrom : ∀ d ∈ w.effectiveFrom, d ≤ start := by
      intro d hd
      by_contra hlt
      exact hstart (by rw [Option.mem_def.mp hd]; simpa using hlt)
    by_cases hstop : w.effectiveTo.any fun d => d < stop
    · rw [if_pos hstop]
      obtain ⟨d, hd, hlt⟩ := Option.any_eq_true _ _ |>.mp hstop
      refine iff_of_false (by simp) ?_
      rintro ⟨-, hto⟩
      have hle := hto d hd
      have hlt' : d < stop := by simpa using hlt
      exact absurd hlt' hle.not_gt
    · rw [if_neg hstop]
      refine iff_of_true rfl ⟨hfrom, ?_⟩
      intro d hd
      by_contra hlt
      exact hstop (by rw [Option.mem_def.mp hd]; simpa using hlt)

theorem Window.Covers.mono {start' stop' : Date} (h : w.Covers start stop) (hstart : start ≤ start')
    (hstop : stop' ≤ stop) : w.Covers start' stop' :=
  ⟨fun d hd => (h.1 d hd).trans hstart, fun d hd => hstop.trans (h.2 d hd)⟩

inductive ClaimStrength where
  | mandatory
  | recommended
  | informative
  deriving DecidableEq, Repr

def ClaimStrength.value : ClaimStrength → String
  | .mandatory => "mandatory"
  | .recommended => "recommended"
  | .informative => "informative"

structure StandardInput where
  code : String
  name : String
  issuer : String
  version : String
  jurisdiction : String := "global"
  licence : String := "internal"
  entitlementRequired : Bool := false
  effective : Window := {}
  effective_ordered : effective.Ordered

structure PackCriterion where
  criteriaId : String
  text : String
  citation : String
  strength : ClaimStrength := .mandatory
  effective : Window := {}
  effective_ordered : effective.Ordered

/-- A pinned deterministic control test. -/
structure TestReference where
  testId : String
  version : String
  deriving DecidableEq, Repr

/-- `str(reference)`. -/
def TestReference.str (t : TestReference) : String := t.testId ++ "@" ++ t.version

structure PackCompatibility where
  minPlatformVersion : String := "0.8.0"
  requiresControlTests : List TestReference := []
  requiresAgentRoles : List String := []
  requiresConnectors : List String := []

structure PackControl where
  controlId : String
  risk : String
  expected : String
  criteriaRefs : List String
  criteriaRefs_ne_nil : criteriaRefs ≠ []

structure PackProcedure where
  key : String
  step : ℕ
  agent : String
  action : String
  taskType : String := "agent"
  dependsOn : List String := []
  controlRef : Option String := none
  testRef : Option TestReference := none
  humanGate : Option String := none
  modelPolicy : Option String := none
  toolPolicy : Option String := none
  deadlineSeconds : Option ℕ := none
  key_valid : validKey key = true
  one_le_step : 1 ≤ step
  deadline_pos : ∀ s ∈ deadlineSeconds, 1 ≤ s
  /-- `a_control_test_step_must_pin_a_test`. -/
  pins_test : taskType = "control_test" ↔ testRef.isSome

inductive PackStatus where
  | draft
  | review
  | released
  | retired
  deriving DecidableEq, Repr

structure PackManifest where
  packId : String
  version : String
  status : PackStatus
  signed : Bool
  objective : String
  releaseKeyId : Option String := none
  standard : StandardInput
  compatibility : PackCompatibility := {}
  criteria : List PackCriterion
  controls : List PackControl
  procedures : List PackProcedure
  humanGates : List String
  qualityRules : List String
  criteria_ne_nil : criteria ≠ []
  controls_ne_nil : controls ≠ []
  procedures_ne_nil : procedures ≠ []
  humanGates_ne_nil : humanGates ≠ []
  qualityRules_ne_nil : qualityRules ≠ []
  criteriaIds_nodup : (criteria.map (·.criteriaId)).Nodup
  controls_cite_criteria : ∀ control ∈ controls, ∀ code ∈ control.criteriaRefs,
    code ∈ criteria.map (·.criteriaId)
  keys_nodup : (procedures.map (·.key)).Nodup
  dependencies_known : ∀ procedure ∈ procedures, ∀ key ∈ procedure.dependsOn,
    key ∈ procedures.map (·.key) ∧ key ≠ procedure.key
  controls_known : ∀ procedure ∈ procedures, PyString.truthy procedure.controlRef = true →
    ∀ ref ∈ procedure.controlRef, ref ∈ controls.map (·.controlId)
  gates_declared : ∀ procedure ∈ procedures, PyString.truthy procedure.humanGate = true →
    ∀ gate ∈ procedure.humanGate, gate ∈ humanGates
  gates_enforced : ∀ gate ∈ humanGates, ∃ procedure ∈ procedures,
    PyString.truthy procedure.humanGate = true ∧ procedure.humanGate = some gate

def PackManifest.reference (m : PackManifest) : String := m.packId ++ "@" ++ m.version

/-- The tenant's side of a compilation. -/
structure OrganizationContext where
  tenantId : String
  entityName : String
  periodStart : Date
  periodEnd : Date
  inScopeSystems : List String := []
  entitlements : List String := []
  profileVersion : Option ℤ := none
  period_ordered : periodStart ≤ periodEnd

/-- Everything the compiled graph is a function of. -/
structure CompilationPins where
  packId : String
  packVersion : String
  packageSha256 : String
  releaseKeyId : Option String
  standardCode : String
  standardVersion : String
  criteria : List (String × String)
  controlTests : List (String × String)
  agentRoles : List (String × String)
  platformVersion : String
  organizationProfileVersion : Option ℤ
  compiledFrom : String
  deriving DecidableEq, Repr

/-- What a platform does not offer of what a pack needs. -/
inductive CompatibilityProblem where
  | platform (required actual : String)
  | testNotReleased (testId : String)
  | testAtOtherVersion (testId released pinned : String)
  | agentRole (role : String)
  | connector (connector : String)
  | procedureAgent (key agent : String)
  deriving DecidableEq, Repr

/-- Why a release is not taken for the artefact that was signed. -/
inductive SignatureProblem where
  | notReleaseSigned (dirName : String)
  | unreadable (dirName : String)
  | unsupportedSchema
  | unsupportedAlgorithm
  | differentFiles (dirName : String)
  | differentDigest (dirName : String)
  | invalidSignature (dirName : String)
  | otherIdentity (dirName reference : String)
  | declaredUnsigned (reference : String)
  deriving DecidableEq, Repr

/-- Why a pack may not be used. -/
inductive ReleaseProblem where
  | status (reference : String) (status : PackStatus)
  | otherArtefact (reference registered actual : String)
  | notApproved (reference : String)
  | tampered (reference onDisk approved : String)
  deriving DecidableEq, Repr

/-- Why an engagement is not compiled. -/
inductive CompilationProblem where
  | workflow (reference : String)
  | engagementNotFound (engagementId tenantId : String)
  | alreadyCompiled (engagementId : String)
  deriving DecidableEq, Repr

/-- Everything a call can raise. -/
inductive StandardsError where
  | packNotFound (reference : String)
  | packSignature (problem : SignatureProblem)
  | packSchema (dirName : String)
  | packNotReleased (problem : ReleaseProblem)
  | packCompatibility (reference : String) (problems : List CompatibilityProblem)
  | packEntitlement (reference code tenantId : String)
  | criteriaEffectivity (reference : String) (stale : List String)
  | packCompilation (problem : CompilationProblem)
  | standardNotFound (code version : String)
  | criterionNotFound (code : String)
  | duplicateStandard (code version : String)
  | valueError (argument : String)
  | validationError (field : String)
  | keyError (key : String)
  | attributeError
  | unicodeError
  | yamlError
  | orchestration (error : Orchestration.OrchestrationError)
  | integrityError

end Standards
