/-
Materiality (`adjudication/materiality.py`).

`assess` scores a finding from measured inputs under a policy and gives the
severity floor that the score calls for.  `contentHash` is the digest of the
material content of a finding, to which assessments and quality reviews are
bound.

Rates, weights and scores are exact rationals where the source has floats.
The texts that only explain a score (`components`, `rationale`) are left out.
-/
import Mathlib.Data.List.Sort
import AssuranceOS.Orchestration.Definitions

namespace Adjudication

export Orchestration (Timestamp)

open Orchestration (roundHalfEven)

inductive Severity where
  | low
  | medium
  | high
  | critical
  deriving DecidableEq, Repr

def Severity.value : Severity → String
  | .low => "low"
  | .medium => "medium"
  | .high => "high"
  | .critical => "critical"

/-- The position in `SEVERITY_ORDER`. -/
def severityRank : Severity → Nat
  | .low => 0
  | .medium => 1
  | .high => 2
  | .critical => 3

/-! ### Policies and inputs -/

inductive QualitativeFactor where
  | regulatoryReportable
  | fraudIndicator
  | repeatFinding
  | customerImpact
  | financialStatementImpact
  | pervasiveAcrossUnits
  | controlEnvironmentWeakness
  | managementOverride
  deriving DecidableEq, Repr

def defaultFactorWeights : List (QualitativeFactor × ℚ) :=
  [(.regulatoryReportable, 2), (.fraudIndicator, 3), (.managementOverride, 3),
    (.repeatFinding, 3 / 2), (.financialStatementImpact, 2), (.customerImpact, 1),
    (.pervasiveAcrossUnits, 3 / 2), (.controlEnvironmentWeakness, 1)]

/-- `Field(min_length=lo, max_length=hi)`. -/
abbrev LengthIn (lo hi : Nat) (s : String) : Prop :=
  lo ≤ s.length ∧ s.length ≤ hi

structure FactorAssertion where
  factor : QualitativeFactor
  rationale : String
  evidenceIds : List String
  rationale_length : LengthIn 3 2000 rationale := by decide
  evidence_ne_nil : evidenceIds ≠ [] := by decide

structure MaterialityPolicy where
  policyId : String := "default-v1"
  exceptionRateThreshold : ℚ := 5 / 100
  populationFloor : Nat := 20
  monetaryThreshold : Option ℚ := none
  factorWeights : List (QualitativeFactor × ℚ) := defaultFactorWeights
  severityBands : List (ℚ × Severity) := [(3, .critical), (2, .high), (1, .medium)]
  policyId_length : LengthIn 1 64 policyId := by decide
  threshold_pos : 0 < exceptionRateThreshold := by decide +kernel
  threshold_le : exceptionRateThreshold ≤ 1 := by decide +kernel
  monetary_pos : ∀ t ∈ monetaryThreshold, 0 < t := by simp
  bands_must_descend : (severityBands.map Prod.fst).Pairwise (· ≥ ·) := by decide +kernel

/-- `MaterialityPolicy()`: the policy of a request that names none. -/
def defaultPolicy : MaterialityPolicy := {}

structure MaterialityInputs where
  populationSize : Nat
  exceptionCount : Nat
  monetaryExposure : Option ℚ := none
  factors : List FactorAssertion := []
  monetary_nonneg : ∀ x ∈ monetaryExposure, 0 ≤ x := by simp
  population_must_reconcile : exceptionCount ≤ populationSize := by decide
  factors_nodup : (factors.map (·.factor)).Nodup := by decide

structure MaterialityResult where
  policyId : String
  score : ℚ
  material : Bool
  severityFloor : Severity

/-- `round(score, 6)`. -/
def round6 (q : ℚ) : ℚ :=
  roundHalfEven (q * 1000000) / 1000000

def severityFloor (bands : List (ℚ × Severity)) (score : ℚ) : Severity :=
  ((bands.find? fun band => band.1 ≤ score).map Prod.snd).getD .low

def assess (inputs : MaterialityInputs) (policy : MaterialityPolicy) : MaterialityResult :=
  let quantitative : ℚ :=
    -- below the population floor a rate is noise
    if policy.populationFloor ≤ inputs.populationSize ∧ 0 < inputs.populationSize then
      inputs.exceptionCount / inputs.populationSize / policy.exceptionRateThreshold
    else 0
  let monetary : ℚ :=
    match policy.monetaryThreshold, inputs.monetaryExposure with
    | some threshold, some exposure => exposure / threshold
    | _, _ => 0
  let qualitative : ℚ :=
    (inputs.factors.map fun item => (policy.factorWeights.lookup item.factor).getD 0).sum
  let score := max (max quantitative monetary) qualitative
  { policyId := policy.policyId
    score := round6 score
    material := 1 ≤ score
    severityFloor := severityFloor policy.severityBands score }

/-- The digest of the material content; the keys are in the order of
`sort_keys`. -/
def contentHash (sha256 : String → String) (code title : String) (severity : Severity)
    (criteria observedCondition riskStatement : String) (evidenceIds exceptionKeys : List String) :
    String :=
  let texts (l : List String) := Json.arrayText ((l.insertionSort (· ≤ ·)).map Json.escaped)
  sha256 (Json.objectText
    [("code", Json.escaped code), ("criteria", Json.escaped criteria),
      ("evidence_ids", texts evidenceIds), ("exception_keys", texts exceptionKeys),
      ("observed_condition", Json.escaped observedCondition),
      ("risk_statement", Json.escaped riskStatement), ("severity", Json.escaped severity.value),
      ("title", Json.escaped title)])

end Adjudication
