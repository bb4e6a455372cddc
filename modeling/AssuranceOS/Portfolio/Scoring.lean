/-
Risk scores (`portfolio/scoring.py`).

`score` computes the inherent and the residual risk, the rating, the confidence and the audit
priority from declared inputs, with the components and the rationale that explain them.  The terms
have names of their own before they are rounded (`inherent`, `residual`, `auditPriority`), and for
each of the three sums and products over a list there is a closed form: `controlReduction_fst`,
`assuranceReliance_eq`, `confidenceIn_eq`.

Scores and weights are exact rationals where the source has floats.
-/
import AssuranceOS.Adjudication.Scores
import AssuranceOS.Lib.Civil
import Mathlib.Algebra.BigOperators.Group.List.Lemmas

namespace Portfolio

export Adjudication (LengthIn round6 round6_mono)

open Orchestration (roundHalfEven)

/-- Days. -/
abbrev Date := ℤ

/-- `f"{q:.<digits>f}"`. -/
def fixed (digits : ℕ) (q : ℚ) : String :=
  let n := (roundHalfEven (q * 10 ^ digits)).natAbs
  let fraction := if digits = 0 then [] else '.' :: Civil.padded digits (n % 10 ^ digits)
  String.ofList ((if q < 0 then ['-'] else []) ++ Civil.padded 1 (n / 10 ^ digits) ++ fraction)

/-- `f"{q:.0%}"`. -/
def percent (q : ℚ) : String := fixed 0 (q * 100) ++ "%"

/-- `round(q, 4)`. -/
def round4 (q : ℚ) : ℚ := roundHalfEven (q * 10000) / 10000

/-- `counted` of `text.py`, for words that take an `s`. -/
def counted (count : ℕ) (singular : String) : String :=
  toString count ++ " " ++ (if count = 1 then singular else singular ++ "s")

inductive AssuranceSource where
  | internalAudit
  | externalAudit
  | continuousMonitor
  | managementTesting
  | regulatoryExamination
  | none
  deriving DecidableEq, Repr

def AssuranceSource.value : AssuranceSource → String
  | .internalAudit => "internal_audit"
  | .externalAudit => "external_audit"
  | .continuousMonitor => "continuous_monitor"
  | .managementTesting => "management_testing"
  | .regulatoryExamination => "regulatory_examination"
  | .none => "none"

def defaultReliance : List (AssuranceSource × ℚ) :=
  [(.internalAudit, 80 / 100), (.externalAudit, 70 / 100), (.regulatoryExamination, 60 / 100),
    (.continuousMonitor, 50 / 100), (.managementTesting, 25 / 100), (.none, 0)]

def defaultRatingBands : List (ℚ × String) :=
  [(75 / 100, "critical"), (50 / 100, "high"), (25 / 100, "medium")]

/-- `Field(ge=0, le=1)`. -/
abbrev InUnit (q : ℚ) : Prop := 0 ≤ q ∧ q ≤ 1

theorem zero_unit : InUnit 0 := ⟨le_rfl, zero_le_one⟩

theorem half_unit : InUnit (1 / 2) := by decide +kernel

theorem one_unit : InUnit 1 := ⟨zero_le_one, le_rfl⟩

/-- The two `tested` fields are what `a_tested_control_must_say_when` checks. -/
structure ControlEvidence where
  controlRef : String
  maturity : ℚ
  coverage : ℚ
  testedEffective : Bool := false
  lastTestedOn : Option Date := none
  evidenceIds : List String := []
  controlRef_length : LengthIn 1 64 controlRef := by decide
  maturity_unit : InUnit maturity := by first | exact one_unit | decide +kernel
  coverage_unit : InUnit coverage := by first | exact one_unit | decide +kernel
  tested_dated : testedEffective → lastTestedOn.isSome := by decide
  tested_evidenced : testedEffective → evidenceIds ≠ [] := by decide

structure CoverageRecord where
  source : AssuranceSource
  obtainedOn : Date

structure RiskFactors where
  impact : ℚ
  likelihood : ℚ
  velocity : ℚ := 1 / 2
  changeIntensity : ℚ := 0
  detectability : ℚ := 1 / 2
  externalExposure : ℚ := 0
  controls : List ControlEvidence := []
  coverage : List CoverageRecord := []
  evidenceIds : List String := []
  impact_unit : InUnit impact := by
    first | exact one_unit | exact half_unit | decide +kernel
  likelihood_unit : InUnit likelihood := by
    first | exact one_unit | exact half_unit | decide +kernel
  velocity_unit : InUnit velocity := by
    first | exact half_unit | exact zero_unit | decide +kernel
  change_unit : InUnit changeIntensity := by first | exact zero_unit | decide +kernel
  detectability_unit : InUnit detectability := by
    first | exact half_unit | exact one_unit | decide +kernel
  exposure_unit : InUnit externalExposure := by first | exact zero_unit | decide +kernel

theorem default_v1_length : LengthIn 1 64 "default-v1" := by decide

structure ScoringPolicy where
  policyId : String := "default-v1"
  maxControlReduction : ℚ := 75 / 100
  testStalenessDays : ℕ := 365
  velocityWeight : ℚ := 15 / 100
  changeWeight : ℚ := 20 / 100
  exposureWeight : ℚ := 15 / 100
  reliance : List (AssuranceSource × ℚ) := defaultReliance
  coverageStalenessDays : ℕ := 548
  ratingBands : List (ℚ × String) := defaultRatingBands
  confidenceFloor : ℚ := 1 / 2
  uncertaintyPremium : ℚ := 1 / 2
  policyId_length : LengthIn 1 64 policyId := by first | exact default_v1_length | decide
  reduction_pos : 0 < maxControlReduction := by decide +kernel
  reduction_lt : maxControlReduction < 1 := by decide +kernel
  staleness_pos : 1 ≤ testStalenessDays := by decide
  velocity_unit : InUnit velocityWeight := by decide +kernel
  change_unit : InUnit changeWeight := by decide +kernel
  exposure_unit : InUnit exposureWeight := by decide +kernel
  coverageStaleness_pos : 1 ≤ coverageStalenessDays := by decide
  floor_unit : InUnit confidenceFloor := by decide +kernel
  premium_nonneg : 0 ≤ uncertaintyPremium := by decide +kernel
  premium_le : uncertaintyPremium ≤ 2 := by decide +kernel
  bands_must_descend : (ratingBands.map Prod.fst).Pairwise (· ≥ ·) := by decide +kernel

/-- `ScoringPolicy()`, the policy of a call that names none. -/
def defaultPolicy : ScoringPolicy := {}

inductive Rating where
  | low
  | medium
  | high
  | critical
  deriving DecidableEq, Repr

def Rating.value : Rating → String
  | .low => "low"
  | .medium => "medium"
  | .high => "high"
  | .critical => "critical"

def Rating.rank : Rating → ℕ
  | .low => 0
  | .medium => 1
  | .high => 2
  | .critical => 3

/-- The check of the field `rating`, which is a `Literal`. -/
def Rating.ofName (name : String) : Option Rating :=
  [Rating.low, .medium, .high, .critical].find? fun rating => rating.value = name

/-- `_rating_for`. -/
def ratingFor (score : ℚ) (policy : ScoringPolicy) : String :=
  ((policy.ratingBands.find? fun band => band.1 ≤ score).map Prod.snd).getD "low"

/-- `_days_between`. -/
def daysBetween (later earlier : Date) : ℤ := later - earlier

/-- What one control does to the notes and to the gap that remains. -/
def reduceBy (policy : ScoringPolicy) (asAt : Date) (state : List String × ℚ)
    (control : ControlEvidence) : List String × ℚ :=
  let (notes, remaining) := state
  if h : control.testedEffective then
    let age := daysBetween asAt (control.lastTestedOn.get (control.tested_dated h))
    if policy.testStalenessDays < age then
      (notes ++ [control.controlRef ++ ": last tested " ++ toString age ++ " days ago, beyond " ++
        "the " ++ toString policy.testStalenessDays ++ "-day currency window"], remaining)
    else
      (notes ++ [control.controlRef ++ ": tested effective " ++ toString age ++
        " days ago, maturity " ++ fixed 2 control.maturity ++ " x coverage " ++
        fixed 2 control.coverage], remaining * (1 - control.maturity * control.coverage))
  else
    (notes ++ [control.controlRef ++ ": not tested effective, contributes no reduction"], remaining)

/-- `control_reduction`. -/
def controlReduction (factors : RiskFactors) (policy : ScoringPolicy) (asAt : Date) :
    ℚ × List String :=
  let (notes, remaining) := factors.controls.foldl (reduceBy policy asAt) ([], 1)
  ((1 - remaining) * policy.maxControlReduction, notes)

/-- `policy.reliance.get(source, 0.0)`. -/
def ScoringPolicy.relianceOn (policy : ScoringPolicy) (source : AssuranceSource) : ℚ :=
  (policy.reliance.lookup source).getD 0

/-- `assurance_reliance`. -/
def assuranceReliance (factors : RiskFactors) (policy : ScoringPolicy) (asAt : Date) :
    ℚ × Option String :=
  factors.coverage.foldl (fun best record =>
    if policy.coverageStalenessDays < daysBetween asAt record.obtainedOn then best
    else if best.1 < policy.relianceOn record.source then
      (policy.relianceOn record.source, some record.source.value)
    else best) (0, none)

/-- `confidence_in`. -/
def confidenceIn (factors : RiskFactors) (asAt : Date) : ℚ :=
  let tested := factors.controls.filter (·.testedEffective)
  let signals : ℚ := if tested = [] then 0 else 4 / 10
  let signals := if factors.evidenceIds = [] then signals else signals + 2 / 10
  let signals :=
    if factors.controls.any fun item => item.evidenceIds ≠ [] then signals + 2 / 10 else signals
  let signals :=
    match (factors.coverage.map fun item => daysBetween asAt item.obtainedOn).min? with
    | some recent => if recent ≤ 365 then signals + 2 / 10 else signals
    | none => signals
  round4 (min signals 1)

/-- The weighted aggravators; poor detectability is one of them, so its term is inverted. -/
def aggravation (factors : RiskFactors) (policy : ScoringPolicy) : ℚ :=
  policy.velocityWeight * factors.velocity + policy.changeWeight * factors.changeIntensity +
    policy.exposureWeight * factors.externalExposure +
    policy.velocityWeight * (1 - factors.detectability)

def inherent (factors : RiskFactors) (policy : ScoringPolicy) : ℚ :=
  min 1 (factors.impact * factors.likelihood +
    (1 - factors.impact * factors.likelihood) * min (aggravation factors policy) 1)

def residual (factors : RiskFactors) (policy : ScoringPolicy) (asAt : Date) : ℚ :=
  inherent factors policy * (1 - (controlReduction factors policy asAt).1)

def uncertainty (factors : RiskFactors) (policy : ScoringPolicy) (asAt : Date) : ℚ :=
  policy.uncertaintyPremium * (1 - confidenceIn factors asAt)

def auditPriority (factors : RiskFactors) (policy : ScoringPolicy) (asAt : Date) : ℚ :=
  residual factors policy asAt * (1 - (assuranceReliance factors policy asAt).1) *
    (1 + uncertainty factors policy asAt)

structure Components where
  impact : ℚ
  likelihood : ℚ
  aggravation : ℚ
  controlReduction : ℚ
  assuranceReliance : ℚ
  assuranceSource : Option String
  uncertaintyPremium : ℚ
  testedControls : List String
  untestedControls : List String
  controlNotes : List String
  deriving DecidableEq

structure RiskScore where
  policyId : String
  inherent : ℚ
  residual : ℚ
  rating : Rating
  confidence : ℚ
  auditPriority : ℚ
  uncovered : Bool
  components : Components
  rationale : String
  deriving DecidableEq

/-- The validation error of a score whose rating is none of the names. -/
inductive ScoringError where
  | rating (name : String)
  deriving DecidableEq, Repr

def components (factors : RiskFactors) (policy : ScoringPolicy) (asAt : Date) : Components where
  impact := factors.impact
  likelihood := factors.likelihood
  aggravation := round6 (min (aggravation factors policy) 1)
  controlReduction := round6 (controlReduction factors policy asAt).1
  assuranceReliance := round6 (assuranceReliance factors policy asAt).1
  assuranceSource := (assuranceReliance factors policy asAt).2
  uncertaintyPremium := round6 (uncertainty factors policy asAt)
  testedControls := (factors.controls.filter (·.testedEffective)).map (·.controlRef)
  untestedControls := (factors.controls.filter (!·.testedEffective)).map (·.controlRef)
  controlNotes := (controlReduction factors policy asAt).2

def rationale (factors : RiskFactors) (policy : ScoringPolicy) (asAt : Date) : String :=
  let reduction := (controlReduction factors policy asAt).1
  let untested := (components factors policy asAt).untestedControls
  let (reliance, source) := assuranceReliance factors policy asAt
  let confidence := confidenceIn factors asAt
  String.intercalate "; "
    (["inherent " ++ fixed 2 (inherent factors policy) ++ " from impact " ++
        fixed 2 factors.impact ++ " x likelihood " ++ fixed 2 factors.likelihood ++
        " aggravated by " ++ fixed 2 (min (aggravation factors policy) 1),
      if reduction ≠ 0 then "controls reduce it by " ++ fixed 2 reduction
      else "no tested control reduces it"] ++
    (if untested = [] then [] else
      [counted untested.length "control" ++
        " are asserted but untested and contribute nothing: " ++
        String.intercalate ", " (untested.insertionSort (· ≤ ·))]) ++
    [match source with
      | some name => "current " ++ name ++ " assurance lowers the need for fresh work by " ++
          percent reliance
      | none => "no current assurance from any source"] ++
    (if confidence < policy.confidenceFloor then
      ["confidence " ++ fixed 2 confidence ++ " is below the " ++ fixed 2 policy.confidenceFloor ++
        " floor, raising audit priority by " ++ percent (uncertainty factors policy asAt)]
    else []))

def score (factors : RiskFactors) (policy : ScoringPolicy) (asAt : Date) :
    Except ScoringError RiskScore :=
  let name := ratingFor (residual factors policy asAt) policy
  match Rating.ofName name with
  | none => .error (.rating name)
  | some rating => .ok {
      policyId := policy.policyId
      inherent := round6 (inherent factors policy)
      residual := round6 (residual factors policy asAt)
      rating := rating
      confidence := confidenceIn factors asAt
      auditPriority := round6 (auditPriority factors policy asAt)
      uncovered := (assuranceReliance factors policy asAt).2.isNone
      components := components factors policy asAt
      rationale := rationale factors policy asAt }

/-! ### Closed forms -/

/-- The control is tested effective, and the test is not too old. -/
def ControlEvidence.IsCurrent (policy : ScoringPolicy) (asAt : Date) (control : ControlEvidence) :
    Prop :=
  control.testedEffective ∧
    ∀ tested ∈ control.lastTestedOn, daysBetween asAt tested ≤ policy.testStalenessDays

instance (policy : ScoringPolicy) (asAt : Date) (control : ControlEvidence) :
    Decidable (control.IsCurrent policy asAt) :=
  inferInstanceAs (Decidable (_ ∧ _))

def gapLeft (policy : ScoringPolicy) (asAt : Date) (control : ControlEvidence) : ℚ :=
  if control.IsCurrent policy asAt then 1 - control.maturity * control.coverage else 1

/-- What a record is relied on for, which is nothing when it is too old. -/
def currentReliance (policy : ScoringPolicy) (asAt : Date) (record : CoverageRecord) : ℚ :=
  if policy.coverageStalenessDays < daysBetween asAt record.obtainedOn then 0
  else policy.relianceOn record.source

namespace RiskFactors

variable (factors : RiskFactors)

def Tested : Prop := ∃ control ∈ factors.controls, control.testedEffective

def Cited : Prop := ∃ control ∈ factors.controls, control.evidenceIds ≠ []

def Recent (asAt : Date) : Prop :=
  ∃ record ∈ factors.coverage, daysBetween asAt record.obtainedOn ≤ 365

instance : Decidable factors.Tested := inferInstanceAs (Decidable (∃ _ ∈ _, _))

instance : Decidable factors.Cited := inferInstanceAs (Decidable (∃ _ ∈ _, _))

instance (asAt : Date) : Decidable (factors.Recent asAt) :=
  inferInstanceAs (Decidable (∃ _ ∈ _, _))

/-- How many of the five fifths of confidence the record gives. -/
def signals (asAt : Date) : ℕ :=
  (if factors.Tested then 2 else 0) + (if factors.evidenceIds = [] then 0 else 1) +
    (if factors.Cited then 1 else 0) + (if factors.Recent asAt then 1 else 0)

end RiskFactors

section ClosedForms

variable {policy : ScoringPolicy} {asAt : Date} {factors : RiskFactors}

theorem score_eq_ok {result : RiskScore} (h : score factors policy asAt = .ok result) :
    result.inherent = round6 (inherent factors policy) ∧
      result.residual = round6 (residual factors policy asAt) ∧
      Rating.ofName (ratingFor (residual factors policy asAt) policy) = some result.rating ∧
      result.confidence = confidenceIn factors asAt ∧
      result.auditPriority = round6 (auditPriority factors policy asAt) ∧
      result.uncovered = (assuranceReliance factors policy asAt).2.isNone := by
  unfold score at h
  dsimp only at h
  split at h
  · exact absurd h (by simp)
  · rename_i rating hrating
    cases h
    exact ⟨rfl, rfl, hrating, rfl, rfl, rfl⟩

theorem exists_score {rating : Rating}
    (h : Rating.ofName (ratingFor (residual factors policy asAt) policy) = some rating) :
    ∃ result, score factors policy asAt = .ok result := by
  unfold score
  dsimp only
  rw [h]
  exact ⟨_, rfl⟩

theorem reduceBy_snd (state : List String × ℚ) (control : ControlEvidence) :
    (reduceBy policy asAt state control).2 = state.2 * gapLeft policy asAt control := by
  unfold reduceBy gapLeft ControlEvidence.IsCurrent
  by_cases htested : control.testedEffective
  · obtain ⟨tested, hdate⟩ := Option.isSome_iff_exists.mp (control.tested_dated htested)
    by_cases hstale : policy.testStalenessDays < daysBetween asAt tested
    · have hnot : ¬ daysBetween asAt tested ≤ policy.testStalenessDays := not_le.mpr hstale
      simp [htested, hdate, hstale, hnot]
    · have hcurrent : daysBetween asAt tested ≤ policy.testStalenessDays := not_lt.mp hstale
      simp [htested, hdate, hstale, hcurrent]
  · simp [htested]

theorem controlReduction_fst : (controlReduction factors policy asAt).1 =
    (1 - (factors.controls.map (gapLeft policy asAt)).prod) * policy.maxControlReduction := by
  have hfold : ∀ (controls : List ControlEvidence) (state : List String × ℚ),
      (controls.foldl (reduceBy policy asAt) state).2 =
        state.2 * (controls.map (gapLeft policy asAt)).prod := by
    intro controls
    induction controls with
    | nil => simp
    | cons control controls ih =>
      intro state
      rw [List.foldl_cons, ih, reduceBy_snd, List.map_cons, List.prod_cons, mul_assoc]
  have hgap := hfold factors.controls ([], 1)
  rw [one_mul] at hgap
  rw [← hgap]
  rfl

theorem assuranceReliance_eq (factors : RiskFactors) (policy : ScoringPolicy) (asAt : Date) :
    (assuranceReliance factors policy asAt).1 =
        (factors.coverage.map (currentReliance policy asAt)).foldl max 0 ∧
      ((assuranceReliance factors policy asAt).2 = none ↔
        (assuranceReliance factors policy asAt).1 = 0) := by
  have hfold : ∀ (coverage : List CoverageRecord) (best : ℚ × Option String), 0 ≤ best.1 →
      (best.2 = none ↔ best.1 = 0) →
      let result := coverage.foldl (fun best record =>
        if policy.coverageStalenessDays < daysBetween asAt record.obtainedOn then best
        else if best.1 < policy.relianceOn record.source then
          (policy.relianceOn record.source, some record.source.value)
        else best) best
      result.1 = (coverage.map (currentReliance policy asAt)).foldl max best.1 ∧
        (result.2 = none ↔ result.1 = 0) := by
    intro coverage
    induction coverage with
    | nil => exact fun best _ hsource => ⟨rfl, hsource⟩
    | cons record coverage ih =>
      intro best hbest hsource
      simp only [List.foldl_cons, List.map_cons]
      by_cases hstale : policy.coverageStalenessDays < daysBetween asAt record.obtainedOn
      · have hnothing : currentReliance policy asAt record = 0 := if_pos hstale
        rw [if_pos hstale, hnothing, max_eq_left hbest]
        exact ih best hbest hsource
      · have hcurrent : currentReliance policy asAt record = policy.relianceOn record.source :=
          if_neg hstale
        rw [if_neg hstale, hcurrent]
        by_cases hbetter : best.1 < policy.relianceOn record.source
        · rw [if_pos hbetter, max_eq_right hbetter.le]
          have hpos : 0 < policy.relianceOn record.source := hbest.trans_lt hbetter
          exact ih _ hpos.le (by simp [hpos.ne'])
        · rw [if_neg hbetter, max_eq_left (not_lt.mp hbetter)]
          exact ih best hbest hsource
  exact hfold factors.coverage (0, none) le_rfl (by simp)

theorem roundHalfEven_intCast (n : ℤ) : roundHalfEven n = n := by
  unfold roundHalfEven
  simp

theorem round4_fifth (n : ℕ) : round4 (n / 5) = n / 5 := by
  have hint : (n : ℚ) / 5 * 10000 = ((2000 * n : ℤ) : ℚ) := by
    push_cast
    ring
  unfold round4
  rw [hint, roundHalfEven_intCast]
  push_cast
  ring

theorem signals_le (factors : RiskFactors) (asAt : Date) : factors.signals asAt ≤ 5 := by
  unfold RiskFactors.signals
  split_ifs <;> omega

theorem min?_recent (factors : RiskFactors) (asAt : Date) (a b : ℚ) :
    (match (factors.coverage.map fun item => daysBetween asAt item.obtainedOn).min? with
      | some recent => if recent ≤ 365 then a else b
      | none => b) = if factors.Recent asAt then a else b := by
  rcases hmin : (factors.coverage.map fun item => daysBetween asAt item.obtainedOn).min? with
    _ | recent
  · have hnone : ¬ factors.Recent asAt := by
      have hempty := List.map_eq_nil_iff.mp (List.min?_eq_none_iff.mp hmin)
      unfold RiskFactors.Recent
      simp [hempty]
    rw [hmin, if_neg hnone]
  · obtain ⟨hmem, hleast⟩ := List.min?_eq_some_iff.mp hmin
    have hiff : recent ≤ 365 ↔ factors.Recent asAt := by
      constructor
      · intro hrecent
        obtain ⟨record, hrecord, rfl⟩ := List.mem_map.mp hmem
        exact ⟨record, hrecord, hrecent⟩
      · rintro ⟨record, hrecord, hrecent⟩
        exact (hleast _ (List.mem_map.mpr ⟨record, hrecord, rfl⟩)).trans hrecent
    rw [hmin]
    simp only [hiff]

theorem confidenceIn_eq (factors : RiskFactors) (asAt : Date) :
    confidenceIn factors asAt = factors.signals asAt / 5 := by
  have htested : factors.controls.filter (·.testedEffective) = [] ↔ ¬ factors.Tested := by
    simp [RiskFactors.Tested, List.filter_eq_nil_iff]
  have hcited : (factors.controls.any fun item => item.evidenceIds ≠ []) ↔ factors.Cited := by
    simp [RiskFactors.Cited]
  have hle : (factors.signals asAt : ℚ) / 5 ≤ 1 := by
    rw [div_le_one (by norm_num)]
    exact_mod_cast signals_le factors asAt
  have hsum : ∀ q : ℚ, q = factors.signals asAt / 5 →
      round4 (min q 1) = factors.signals asAt / 5 := by
    rintro q rfl
    rw [min_eq_left hle, round4_fifth]
  unfold confidenceIn
  refine hsum _ ?_
  rw [min?_recent]
  unfold RiskFactors.signals
  simp only [htested, hcited, ite_not]
  split_ifs <;> norm_num

end ClosedForms

end Portfolio
