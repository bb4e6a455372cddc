/-
Audit plans (`portfolio/planning.py`).

`recommend` selects from scored candidates under a capacity policy: what minimum coverage forces,
and then the others by their value density, as long as the days and the limit on disruptive audits
last.  What is not planned is reported with the reason.  The locals of the two loops are the fields
of `PlanState`.

Days of effort and priorities are exact rationals where the source has floats, and the days of the
coverage interval are `int(months * 30.44)`, which for whole months up to 120 is the same in both.
-/
import AssuranceOS.Portfolio.Scoring
import Mathlib.Data.Prod.Lex
import Mathlib.Data.String.Basic

namespace Portfolio

inductive Disruption where
  | low
  | medium
  | high
  deriving DecidableEq, Repr

structure Candidate where
  candidateKey : String
  entityRef : String
  riskRef : String
  title : String
  objective : String
  score : RiskScore
  effortDays : ℚ
  criticality : ℚ := 0
  disruption : Disruption := .medium
  expertiseRequired : List String := []
  expertiseAvailable : Bool := true
  lastAuditedOn : Option Date := none
  suggestedCadenceMonths : ℕ := 12
  auditPackRef : Option String := none
  candidateKey_length : LengthIn 1 128 candidateKey := by decide
  entityRef_length : LengthIn 1 128 entityRef := by decide
  riskRef_length : LengthIn 1 64 riskRef := by decide
  title_length : LengthIn 3 255 title := by decide
  objective_length : 10 ≤ objective.length := by decide
  effort_pos : 0 < effortDays := by decide +kernel
  criticality_range : 0 ≤ criticality ∧ criticality ≤ 5 := by decide +kernel
  cadence_range : 1 ≤ suggestedCadenceMonths ∧ suggestedCadenceMonths ≤ 60 := by decide
  deriving DecidableEq

def Candidate.valueDensity (candidate : Candidate) : ℚ :=
  candidate.score.auditPriority / candidate.effortDays

structure CapacityPolicy where
  horizonStart : Date
  horizonEnd : Date
  availableDays : ℚ
  minimumCoverageCriticality : ℚ := 4
  coverageIntervalMonths : ℕ := 24
  contingencyFraction : ℚ := 15 / 100
  maxHighDisruption : ℕ := 2
  available_pos : 0 < availableDays := by decide +kernel
  criticality_range : 0 ≤ minimumCoverageCriticality ∧ minimumCoverageCriticality ≤ 5 := by
    decide +kernel
  interval_range : 1 ≤ coverageIntervalMonths ∧ coverageIntervalMonths ≤ 120 := by decide
  contingency_range : 0 ≤ contingencyFraction ∧ contingencyFraction ≤ 1 / 2 := by decide +kernel
  horizon_must_be_ordered : horizonStart < horizonEnd := by decide

def CapacityPolicy.plannableDays (policy : CapacityPolicy) : ℚ :=
  policy.availableDays * (1 - policy.contingencyFraction)

structure PlannedItem where
  candidateKey : String
  entityRef : String
  riskRef : String
  title : String
  objective : String
  effortDays : ℚ
  auditPriority : ℚ
  valueDensity : ℚ
  rating : String
  confidence : ℚ
  cadenceMonths : ℕ
  reason : String
  forcedByMinimumCoverage : Bool
  auditPackRef : Option String
  deriving DecidableEq

structure ExcludedItem where
  candidateKey : String
  entityRef : String
  riskRef : String
  title : String
  effortDays : ℚ
  auditPriority : ℚ
  rating : String
  reason : String
  uncovered : Bool
  deriving DecidableEq

structure BlindSpot where
  candidateKey : String
  entityRef : String
  riskRef : String
  rating : String
  auditPriority : ℚ
  confidence : ℚ
  why : String := "no current assurance from any source and not covered by this plan"
  deriving DecidableEq

structure PlanRecommendation where
  horizonStart : Date
  horizonEnd : Date
  planned : List PlannedItem
  excluded : List ExcludedItem
  blindSpots : List BlindSpot
  plannedDays : ℚ
  plannableDays : ℚ
  contingencyDays : ℚ
  coverageRatio : ℚ
  uncoveredPriority : ℚ
  policyNotes : List String
  deriving DecidableEq

def plannedItem (candidate : Candidate) (reason : String) (forced : Bool) : PlannedItem where
  candidateKey := candidate.candidateKey
  entityRef := candidate.entityRef
  riskRef := candidate.riskRef
  title := candidate.title
  objective := candidate.objective
  effortDays := candidate.effortDays
  auditPriority := candidate.score.auditPriority
  valueDensity := round6 candidate.valueDensity
  rating := candidate.score.rating.value
  confidence := candidate.score.confidence
  cadenceMonths := candidate.suggestedCadenceMonths
  reason := reason
  forcedByMinimumCoverage := forced
  auditPackRef := candidate.auditPackRef

def excludedItem (candidate : Candidate) (reason : String) : ExcludedItem where
  candidateKey := candidate.candidateKey
  entityRef := candidate.entityRef
  riskRef := candidate.riskRef
  title := candidate.title
  effortDays := candidate.effortDays
  auditPriority := candidate.score.auditPriority
  rating := candidate.score.rating.value
  reason := reason
  uncovered := candidate.score.uncovered

def blindSpot (candidate : Candidate) : BlindSpot where
  candidateKey := candidate.candidateKey
  entityRef := candidate.entityRef
  riskRef := candidate.riskRef
  rating := candidate.score.rating.value
  auditPriority := candidate.score.auditPriority
  confidence := candidate.score.confidence

/-- An `OverflowError` of the date arithmetic. -/
inductive PlanError where
  | overflow
  deriving DecidableEq, Repr

/-- `date.max`, the last day of the year 9999. -/
def dateMax : Date := 3652059

/-- `int(policy.coverage_interval_months * 30.44)`. -/
def CapacityPolicy.intervalDays (policy : CapacityPolicy) : ℕ :=
  policy.coverageIntervalMonths * 3044 / 100

/-- `_needs_coverage`. -/
def needsCoverage (candidate : Candidate) (policy : CapacityPolicy) : Except PlanError Bool :=
  if candidate.criticality < policy.minimumCoverageCriticality then .ok false
  else
    match candidate.lastAuditedOn with
    | none => .ok true
    | some day =>
      let due := day + policy.intervalDays
      if dateMax < due then .error .overflow else .ok (due ≤ policy.horizonEnd)

/-- `[item for item in candidates if _needs_coverage(item, policy)]`. -/
def forcedCandidates (policy : CapacityPolicy) :
    List Candidate → Except PlanError (List Candidate)
  | [] => .ok []
  | candidate :: candidates => do
    let needed ← needsCoverage candidate policy
    let rest ← forcedCandidates policy candidates
    return if needed then candidate :: rest else rest

structure PlanState where
  planned : List PlannedItem := []
  excluded : List ExcludedItem := []
  spent : ℚ := 0
  highDisruption : ℕ := 0

def PlanState.admitCandidate (state : PlanState) (candidate : Candidate) (reason : String)
    (forced : Bool) : PlanState :=
  { state with
    spent := state.spent + candidate.effortDays
    planned := state.planned ++ [plannedItem candidate reason forced] }

def PlanState.refuse (state : PlanState) (candidate : Candidate) (reason : String) : PlanState :=
  { state with excluded := state.excluded ++ [excludedItem candidate reason] }

/-- `key=lambda item: (-item.criticality, item.candidate_key)`. -/
def forcedOrder (a b : Candidate) : Prop :=
  toLex (-a.criticality, a.candidateKey) ≤ toLex (-b.criticality, b.candidateKey)

instance : DecidableRel forcedOrder := fun a b =>
  inferInstanceAs (Decidable (toLex (-a.criticality, a.candidateKey) ≤
    toLex (-b.criticality, b.candidateKey)))

/-- `key=lambda item: (-item.value_density, item.candidate_key)`. -/
def optionalOrder (a b : Candidate) : Prop :=
  toLex (-a.valueDensity, a.candidateKey) ≤ toLex (-b.valueDensity, b.candidateKey)

instance : DecidableRel optionalOrder := fun a b =>
  inferInstanceAs (Decidable (toLex (-a.valueDensity, a.candidateKey) ≤
    toLex (-b.valueDensity, b.candidateKey)))

def considerForced (state : PlanState) (candidate : Candidate) : PlanState :=
  if ¬ candidate.expertiseAvailable then
    state.refuse candidate ("minimum coverage requires this audit, but the function does not " ++
      "hold the required expertise (" ++ String.intercalate ", " candidate.expertiseRequired ++
      "); it needs sourcing before it can be planned")
  else
    state.admitCandidate candidate ("minimum coverage: criticality " ++
      fixed 1 candidate.criticality ++ " and " ++ (match candidate.lastAuditedOn with
        | none => "never audited"
        | some day => "last audited " ++ String.ofList (Civil.dateText ['-'] day))) true

def considerOptional (policy : CapacityPolicy) (state : PlanState) (candidate : Candidate) :
    PlanState :=
  if ¬ candidate.expertiseAvailable then
    state.refuse candidate ("the function does not hold the required expertise: " ++
      String.intercalate ", " candidate.expertiseRequired)
  else if candidate.disruption = .high ∧ policy.maxHighDisruption ≤ state.highDisruption then
    state.refuse candidate ("the plan already carries " ++ toString state.highDisruption ++
      " high-disruption engagement(s), the configured maximum")
  else if policy.plannableDays < state.spent + candidate.effortDays then
    state.refuse candidate ("does not fit remaining capacity (" ++
      fixed 1 (policy.plannableDays - state.spent) ++ " of " ++ fixed 1 policy.plannableDays ++
      " days left)")
  else
    let state := if candidate.disruption = .high then
      { state with highDisruption := state.highDisruption + 1 } else state
    state.admitCandidate candidate ("value density " ++ fixed 4 candidate.valueDensity ++
      " (priority " ++ fixed 3 candidate.score.auditPriority ++ " over " ++
      fixed 0 candidate.effortDays ++ " days)") false

/-- The planned items of high disruption, counted over all candidates with the key of an item. -/
def countHigh (candidates : List Candidate) (planned : List PlannedItem) : ℕ :=
  (planned.flatMap fun item => candidates.filter fun candidate =>
    candidate.candidateKey = item.candidateKey ∧ candidate.disruption = .high).length

def selectPlan (candidates forced : List Candidate) (policy : CapacityPolicy) : PlanState :=
  let optional := candidates.filter (· ∉ forced)
  let state := (forced.insertionSort forcedOrder).foldl considerForced {}
  let state := { state with highDisruption := countHigh candidates state.planned }
  (optional.insertionSort optionalOrder).foldl (considerOptional policy) state

/-- `recommend`. -/
def recommend (candidates : List Candidate) (policy : CapacityPolicy) :
    Except PlanError PlanRecommendation := do
  let forced ← forcedCandidates policy candidates
  let afterForced := (forced.insertionSort forcedOrder).foldl considerForced {}
  -- Reported rather than resolved: what minimum coverage requires is not trimmed.
  let notes :=
    if policy.plannableDays < afterForced.spent then
      ["minimum coverage alone requires " ++ fixed 1 afterForced.spent ++ " days against " ++
        fixed 1 policy.plannableDays ++ " plannable; capacity or scope needs a decision"]
    else []
  let state := selectPlan candidates forced policy
  let blind := candidates.filter fun candidate => candidate.score.uncovered ∧
    candidate.candidateKey ∉ state.planned.map (·.candidateKey)
  let totalPriority := (candidates.map (·.score.auditPriority)).sum
  let plannedPriority := (state.planned.map (·.auditPriority)).sum
  let coverageRatio := if totalPriority ≠ 0 then plannedPriority / totalPriority else 1
  let notes :=
    if blind = [] then notes
    else notes ++ [counted blind.length "risk" ++
      " have no assurance from any source and no place in this plan"]
  let notes :=
    if notes = [] then ["every constraint was satisfied within the plannable capacity"] else notes
  return {
    horizonStart := policy.horizonStart
    horizonEnd := policy.horizonEnd
    planned := state.planned
    excluded := state.excluded
    blindSpots := blind.map blindSpot
    plannedDays := round4 state.spent
    plannableDays := round4 policy.plannableDays
    contingencyDays := round4 (policy.availableDays - policy.plannableDays)
    coverageRatio := round6 coverageRatio
    uncoveredPriority := round6 (totalPriority - plannedPriority)
    policyNotes := notes }

end Portfolio
