/-
The laws of a risk score, and what the validator of a policy leaves open.

The residual risk is the inherent risk times `share`, which the controls alone decide (`residual_eq`).
`scoreLaws` collects what follows for every policy: the bounds, that no order counts, and in which
directions the two move.

The validator orders the thresholds of the bands and checks neither their names nor the reliance that
a source is given.  `sound_iff` says for which policies a score is always computed, has no negative
priority and is rated in the order of the residual risk.
-/
import Mathlib.Tactic.GCongr
import Mathlib.Tactic.Linarith
import Mathlib.Tactic.NormNum
import Mathlib.Tactic.Positivity
import AssuranceOS.Portfolio.Scoring

namespace Portfolio

/-- Two risks that differ in their controls and their coverage at most. -/
structure SameFactors (factors factors' : RiskFactors) : Prop where
  impact : factors'.impact = factors.impact
  likelihood : factors'.likelihood = factors.likelihood
  velocity : factors'.velocity = factors.velocity
  changeIntensity : factors'.changeIntensity = factors.changeIntensity
  detectability : factors'.detectability = factors.detectability
  externalExposure : factors'.externalExposure = factors.externalExposure
  evidenceIds : factors'.evidenceIds = factors.evidenceIds

/-- The same risk, with its controls and its coverage in another order. -/
structure Rearranged (factors factors' : RiskFactors) : Prop extends
    SameFactors factors factors' where
  controls : factors'.controls.Perm factors.controls
  coverage : factors'.coverage.Perm factors.coverage

/-- A risk that is worse in its declared factors, with the same controls. -/
structure Raised (factors factors' : RiskFactors) : Prop where
  impact : factors.impact ≤ factors'.impact
  likelihood : factors.likelihood ≤ factors'.likelihood
  velocity : factors.velocity ≤ factors'.velocity
  changeIntensity : factors.changeIntensity ≤ factors'.changeIntensity
  externalExposure : factors.externalExposure ≤ factors'.externalExposure
  detectability : factors'.detectability ≤ factors.detectability
  controls : factors'.controls = factors.controls

/-- What a score is bounded by and how it moves. -/
structure ScoreLaws (policy : ScoringPolicy) (asAt : Date) : Prop where
  bounded : ∀ factors, 0 ≤ inherent factors policy ∧ inherent factors policy ≤ 1 ∧
    inherent factors policy * (1 - policy.maxControlReduction) ≤ residual factors policy asAt ∧
    residual factors policy asAt ≤ inherent factors policy
  rearranged : ∀ factors factors', Rearranged factors factors' →
    inherent factors' policy = inherent factors policy ∧
      residual factors' policy asAt = residual factors policy asAt ∧
      auditPriority factors' policy asAt = auditPriority factors policy asAt
  raised : ∀ factors factors', Raised factors factors' →
    inherent factors policy ≤ inherent factors' policy ∧
      residual factors policy asAt ≤ residual factors' policy asAt

section Terms

variable {policy : ScoringPolicy} {asAt : Date} {factors factors' : RiskFactors}

theorem aggravation_nonneg (factors : RiskFactors) (policy : ScoringPolicy) :
    0 ≤ aggravation factors policy := by
  have hvelocity := mul_nonneg policy.velocity_unit.1 factors.velocity_unit.1
  have hchange := mul_nonneg policy.change_unit.1 factors.change_unit.1
  have hexposure := mul_nonneg policy.exposure_unit.1 factors.exposure_unit.1
  have hdetect := mul_nonneg policy.velocity_unit.1 (sub_nonneg.mpr factors.detectability_unit.2)
  unfold aggravation
  linarith

theorem product_unit (factors : RiskFactors) :
    InUnit (factors.impact * factors.likelihood) :=
  ⟨mul_nonneg factors.impact_unit.1 factors.likelihood_unit.1,
    mul_le_one₀ factors.impact_unit.2 factors.likelihood_unit.1 factors.likelihood_unit.2⟩

theorem capped_unit (factors : RiskFactors) (policy : ScoringPolicy) :
    InUnit (min (aggravation factors policy) 1) :=
  ⟨le_min (aggravation_nonneg factors policy) zero_le_one, min_le_right _ _⟩

theorem inherent_eq (factors : RiskFactors) (policy : ScoringPolicy) :
    inherent factors policy = 1 - (1 - factors.impact * factors.likelihood) *
      (1 - min (aggravation factors policy) 1) := by
  have hproduct := product_unit factors
  have hcapped := capped_unit factors policy
  have hroom : 0 ≤ (1 - factors.impact * factors.likelihood) *
      (1 - min (aggravation factors policy) 1) :=
    mul_nonneg (sub_nonneg.mpr hproduct.2) (sub_nonneg.mpr hcapped.2)
  have hsum : factors.impact * factors.likelihood + (1 - factors.impact * factors.likelihood) *
      min (aggravation factors policy) 1 = 1 - (1 - factors.impact * factors.likelihood) *
        (1 - min (aggravation factors policy) 1) := by
    ring
  unfold inherent
  rw [hsum, min_eq_right (sub_le_self 1 hroom)]

theorem inherent_unit (factors : RiskFactors) (policy : ScoringPolicy) :
    InUnit (inherent factors policy) := by
  have hproduct := product_unit factors
  have hcapped := capped_unit factors policy
  have hroom : (1 - factors.impact * factors.likelihood) *
      (1 - min (aggravation factors policy) 1) ≤ 1 :=
    mul_le_one₀ (sub_le_self 1 hproduct.1) (sub_nonneg.mpr hcapped.2) (sub_le_self 1 hcapped.1)
  refine ⟨?_, min_le_left _ _⟩
  rw [inherent_eq]
  exact sub_nonneg.mpr hroom

/-- There is no risk: the product is zero, and so is every weighted aggravator. -/
structure RiskFree (factors : RiskFactors) (policy : ScoringPolicy) : Prop where
  product : factors.impact * factors.likelihood = 0
  velocity : policy.velocityWeight * factors.velocity = 0
  change : policy.changeWeight * factors.changeIntensity = 0
  exposure : policy.exposureWeight * factors.externalExposure = 0
  detectability : policy.velocityWeight * (1 - factors.detectability) = 0

theorem aggravation_eq_zero : aggravation factors policy = 0 ↔
    policy.velocityWeight * factors.velocity = 0 ∧
      policy.changeWeight * factors.changeIntensity = 0 ∧
      policy.exposureWeight * factors.externalExposure = 0 ∧
      policy.velocityWeight * (1 - factors.detectability) = 0 := by
  have hvelocity := mul_nonneg policy.velocity_unit.1 factors.velocity_unit.1
  have hchange := mul_nonneg policy.change_unit.1 factors.change_unit.1
  have hexposure := mul_nonneg policy.exposure_unit.1 factors.exposure_unit.1
  have hdetect := mul_nonneg policy.velocity_unit.1 (sub_nonneg.mpr factors.detectability_unit.2)
  unfold aggravation
  constructor
  · intro h
    refine ⟨?_, ?_, ?_, ?_⟩ <;> linarith
  · rintro ⟨hv, hc, he, hd⟩
    rw [hv, hc, he, hd]
    norm_num

theorem inherent_eq_zero : inherent factors policy = 0 ↔ RiskFree factors policy := by
  have hproduct := product_unit factors
  have hcapped := capped_unit factors policy
  have hle : factors.impact * factors.likelihood ≤ inherent factors policy ∧
      min (aggravation factors policy) 1 ≤ inherent factors policy := by
    have hfirst := mul_nonneg (sub_nonneg.mpr hproduct.2) hcapped.1
    have hsecond := mul_nonneg hproduct.1 (sub_nonneg.mpr hcapped.2)
    rw [inherent_eq]
    constructor
    · linarith
    · linarith
  constructor
  · intro hzero
    rw [hzero] at hle
    have haggravation : aggravation factors policy = 0 := by
      rcases min_le_iff.mp hle.2 with hnone | hone
      · exact le_antisymm hnone (aggravation_nonneg factors policy)
      · exact absurd hone (by norm_num)
    obtain ⟨hvelocity, hchange, hexposure, hdetect⟩ := aggravation_eq_zero.mp haggravation
    exact ⟨le_antisymm hle.1 hproduct.1, hvelocity, hchange, hexposure, hdetect⟩
  · rintro ⟨hzero, hvelocity, hchange, hexposure, hdetect⟩
    have haggravation := aggravation_eq_zero.mpr ⟨hvelocity, hchange, hexposure, hdetect⟩
    rw [inherent_eq, hzero, haggravation]
    norm_num

theorem Raised.aggravation (h : Raised factors factors') :
    aggravation factors policy ≤ aggravation factors' policy := by
  have hvelocity := mul_le_mul_of_nonneg_left h.velocity policy.velocity_unit.1
  have hchange := mul_le_mul_of_nonneg_left h.changeIntensity policy.change_unit.1
  have hexposure := mul_le_mul_of_nonneg_left h.externalExposure policy.exposure_unit.1
  have hdetect := mul_le_mul_of_nonneg_left h.detectability policy.velocity_unit.1
  unfold Portfolio.aggravation
  linarith

theorem Raised.inherent (h : Raised factors factors') :
    inherent factors policy ≤ inherent factors' policy := by
  have hproduct : factors.impact * factors.likelihood ≤ factors'.impact * factors'.likelihood :=
    mul_le_mul h.impact h.likelihood factors.likelihood_unit.1 factors'.impact_unit.1
  have hcapped : min (Portfolio.aggravation factors policy) 1 ≤
      min (Portfolio.aggravation factors' policy) 1 := min_le_min_right 1 h.aggravation
  have hunit := product_unit factors
  have hunit' := capped_unit factors' policy
  rw [inherent_eq, inherent_eq]
  refine sub_le_sub_left (mul_le_mul ?_ ?_ ?_ ?_) 1
  · exact sub_le_sub_left hproduct 1
  · exact sub_le_sub_left hcapped 1
  · exact sub_nonneg.mpr hunit'.2
  · exact sub_nonneg.mpr hunit.2

theorem SameFactors.inherent (h : SameFactors factors factors') :
    inherent factors' policy = inherent factors policy := by
  unfold Portfolio.inherent Portfolio.aggravation
  rw [h.impact, h.likelihood, h.velocity, h.changeIntensity, h.detectability, h.externalExposure]

/-! ### The residual risk -/

theorem gapLeft_unit (policy : ScoringPolicy) (asAt : Date) (control : ControlEvidence) :
    InUnit (gapLeft policy asAt control) := by
  have hmaturity := control.maturity_unit
  have hcoverage := control.coverage_unit
  have hnonneg := mul_nonneg hmaturity.1 hcoverage.1
  have hle : control.maturity * control.coverage ≤ 1 :=
    mul_le_one₀ hmaturity.2 hcoverage.1 hcoverage.2
  unfold gapLeft
  split_ifs
  · exact ⟨sub_nonneg.mpr hle, sub_le_self 1 hnonneg⟩
  · exact ⟨zero_le_one, le_rfl⟩

theorem prod_unit {l : List ℚ} (h : ∀ q ∈ l, InUnit q) : InUnit l.prod := by
  induction l with
  | nil => exact ⟨zero_le_one, le_rfl⟩
  | cons q l ih =>
    have hq := h q List.mem_cons_self
    have hl := ih fun p hp => h p (List.mem_cons_of_mem _ hp)
    rw [List.prod_cons]
    exact ⟨mul_nonneg hq.1 hl.1, mul_le_one₀ hq.2 hl.1 hl.2⟩

def remaining (policy : ScoringPolicy) (asAt : Date) (controls : List ControlEvidence) : ℚ :=
  (controls.map (gapLeft policy asAt)).prod

theorem remaining_unit (policy : ScoringPolicy) (asAt : Date) (controls : List ControlEvidence) :
    InUnit (remaining policy asAt controls) := by
  refine prod_unit fun q hq => ?_
  obtain ⟨control, -, rfl⟩ := List.mem_map.mp hq
  exact gapLeft_unit policy asAt control

def share (policy : ScoringPolicy) (asAt : Date) (controls : List ControlEvidence) : ℚ :=
  1 - (1 - remaining policy asAt controls) * policy.maxControlReduction

theorem residual_eq (factors : RiskFactors) (policy : ScoringPolicy) (asAt : Date) :
    residual factors policy asAt =
      inherent factors policy * share policy asAt factors.controls := by
  unfold residual
  rw [controlReduction_fst]
  rfl

theorem share_bounds (policy : ScoringPolicy) (asAt : Date) (controls : List ControlEvidence) :
    1 - policy.maxControlReduction ≤ share policy asAt controls ∧
      share policy asAt controls ≤ 1 := by
  have hremaining := remaining_unit policy asAt controls
  have hreduced := mul_nonneg hremaining.1 policy.reduction_pos.le
  have hroom := mul_nonneg (sub_nonneg.mpr hremaining.2) policy.reduction_pos.le
  unfold share
  constructor
  · linarith
  · linarith

theorem share_pos (policy : ScoringPolicy) (asAt : Date) (controls : List ControlEvidence) :
    0 < share policy asAt controls :=
  (sub_pos.mpr policy.reduction_lt).trans_le (share_bounds policy asAt controls).1

theorem share_perm {controls controls' : List ControlEvidence} (h : controls'.Perm controls) :
    share policy asAt controls' = share policy asAt controls := by
  unfold share remaining
  rw [(h.map _).prod_eq]

theorem residual_nonneg (factors : RiskFactors) (policy : ScoringPolicy) (asAt : Date) :
    0 ≤ residual factors policy asAt := by
  rw [residual_eq]
  exact mul_nonneg (inherent_unit factors policy).1 (share_pos policy asAt _).le

theorem residual_bounds (factors : RiskFactors) (policy : ScoringPolicy) (asAt : Date) :
    inherent factors policy * (1 - policy.maxControlReduction) ≤ residual factors policy asAt ∧
      residual factors policy asAt ≤ inherent factors policy := by
  have hnonneg := (inherent_unit factors policy).1
  obtain ⟨hleast, hmost⟩ := share_bounds policy asAt factors.controls
  rw [residual_eq]
  exact ⟨mul_le_mul_of_nonneg_left hleast hnonneg, mul_le_of_le_one_right hnonneg hmost⟩

theorem residual_unit (factors : RiskFactors) (policy : ScoringPolicy) (asAt : Date) :
    InUnit (residual factors policy asAt) :=
  ⟨residual_nonneg factors policy asAt,
    (residual_bounds factors policy asAt).2.trans (inherent_unit factors policy).2⟩

variable {q : ℚ}

theorem round6_nonneg (h : 0 ≤ q) : 0 ≤ round6 q := by
  have hzero : round6 0 = 0 := by
    unfold round6
    rw [zero_mul, ← Int.cast_zero, roundHalfEven_intCast]
    norm_num
  rw [← hzero]
  exact round6_mono h

theorem round6_unit (h : InUnit q) : InUnit (round6 q) := by
  have hone : round6 1 = 1 := by decide +kernel
  refine ⟨round6_nonneg h.1, ?_⟩
  rw [← hone]
  exact round6_mono h.2

theorem score_unit {result : RiskScore} (h : score factors policy asAt = .ok result) :
    InUnit result.confidence ∧ InUnit result.residual := by
  obtain ⟨-, hresidual, -, hconfidence, -⟩ := score_eq_ok h
  rw [hresidual, hconfidence, confidenceIn_eq]
  refine ⟨⟨by positivity, ?_⟩, round6_unit (residual_unit factors policy asAt)⟩
  rw [div_le_one (by norm_num)]
  exact_mod_cast signals_le factors asAt

theorem residual_eq_zero : residual factors policy asAt = 0 ↔ inherent factors policy = 0 := by
  rw [residual_eq, mul_eq_zero, or_iff_left (share_pos policy asAt _).ne']

/-! ### The audit priority -/

theorem uncertainty_nonneg (factors : RiskFactors) (policy : ScoringPolicy) (asAt : Date) :
    0 ≤ uncertainty factors policy asAt := by
  have hle : confidenceIn factors asAt ≤ 1 := by
    have hsignals : (factors.signals asAt : ℚ) ≤ 5 := by exact_mod_cast signals_le factors asAt
    rw [confidenceIn_eq, div_le_one (by norm_num)]
    exact hsignals
  exact mul_nonneg policy.premium_nonneg (sub_nonneg.mpr hle)

theorem Rearranged.signals (h : Rearranged factors factors') :
    factors'.signals asAt = factors.signals asAt := by
  have htested : factors'.Tested ↔ factors.Tested := by
    simp only [RiskFactors.Tested, h.controls.mem_iff]
  have hcited : factors'.Cited ↔ factors.Cited := by
    simp only [RiskFactors.Cited, h.controls.mem_iff]
  have hrecent : factors'.Recent asAt ↔ factors.Recent asAt := by
    simp only [RiskFactors.Recent, h.coverage.mem_iff]
  unfold RiskFactors.signals
  simp only [htested, hcited, hrecent, h.evidenceIds]

theorem Rearranged.reliance (h : Rearranged factors factors') :
    (assuranceReliance factors' policy asAt).1 = (assuranceReliance factors policy asAt).1 := by
  rw [(assuranceReliance_eq factors' policy asAt).1, (assuranceReliance_eq factors policy asAt).1]
  exact (h.coverage.map _).foldl_eq 0

theorem Rearranged.residual (h : Rearranged factors factors') :
    residual factors' policy asAt = residual factors policy asAt := by
  rw [residual_eq, residual_eq, h.inherent, share_perm h.controls]

theorem le_foldl_max (l : List ℚ) (start q : ℚ) :
    q ≤ l.foldl max start ↔ q ≤ start ∨ ∃ x ∈ l, q ≤ x := by
  induction l generalizing start with
  | nil => simp
  | cons x l ih =>
    rw [List.foldl_cons, ih, le_max_iff]
    simp [or_assoc]

theorem le_reliance (hq : 0 < q) : q ≤ (assuranceReliance factors policy asAt).1 ↔
    ∃ record ∈ factors.coverage,
      daysBetween asAt record.obtainedOn ≤ policy.coverageStalenessDays ∧
        q ≤ policy.relianceOn record.source := by
  rw [(assuranceReliance_eq factors policy asAt).1, le_foldl_max, or_iff_right (not_le.mpr hq)]
  constructor
  · rintro ⟨x, hx, hle⟩
    obtain ⟨record, hrecord, rfl⟩ := List.mem_map.mp hx
    unfold currentReliance at hle
    split_ifs at hle with hstale
    · exact absurd hle (not_le.mpr hq)
    · exact ⟨record, hrecord, not_lt.mp hstale, hle⟩
  · rintro ⟨record, hrecord, hcurrent, hle⟩
    refine ⟨_, List.mem_map.mpr ⟨record, hrecord, rfl⟩, ?_⟩
    unfold currentReliance
    rw [if_neg (not_lt.mpr hcurrent)]
    exact hle

end Terms

/-- **The laws of a score**, for every policy and every date. -/
theorem scoreLaws (policy : ScoringPolicy) (asAt : Date) : ScoreLaws policy asAt where
  bounded factors := by
    obtain ⟨hnonneg, hle⟩ := inherent_unit factors policy
    obtain ⟨hleast, hmost⟩ := residual_bounds factors policy asAt
    exact ⟨hnonneg, hle, hleast, hmost⟩
  rearranged factors factors' h := by
    refine ⟨h.inherent, h.residual, ?_⟩
    have hconfidence : confidenceIn factors' asAt = confidenceIn factors asAt := by
      rw [confidenceIn_eq, confidenceIn_eq, h.signals]
    unfold auditPriority uncertainty
    rw [h.residual, h.reliance, hconfidence]
  raised factors factors' h := by
    refine ⟨h.inherent, ?_⟩
    rw [residual_eq, residual_eq, h.controls]
    exact mul_le_mul_of_nonneg_right h.inherent (share_pos policy asAt _).le

/-- The names that the residual risks below `bound` are given, from the top. -/
def reach : ℚ → List (ℚ × String) → List String
  | bound, [] => if 0 < bound then ["low"] else []
  | bound, (threshold, name) :: bands =>
    if threshold ≤ 1 ∧ max threshold 0 < bound then name :: reach (max threshold 0) bands
    else reach bound bands

/-- The names that a policy gives; every residual risk is below 2. -/
def ScoringPolicy.reachable (policy : ScoringPolicy) : List String :=
  reach 2 policy.ratingBands

/-- What the validator would have to check. -/
structure SoundPolicy (policy : ScoringPolicy) : Prop where
  reliance : ∀ source, policy.relianceOn source ≤ 1
  named : ∀ name ∈ policy.reachable, (Rating.ofName name).isSome
  descending : policy.reachable.Pairwise fun name later =>
    ∀ rating ∈ Rating.ofName name, ∀ rating' ∈ Rating.ofName later, rating'.rank ≤ rating.rank

/-- What a score is promised to be; the priority is the one before it is rounded. -/
structure ScoresSoundly (policy : ScoringPolicy) : Prop where
  total : ∀ factors asAt, ∃ result, score factors policy asAt = .ok result
  nonneg : ∀ factors asAt, 0 ≤ auditPriority factors policy asAt ∧
    ∀ result, score factors policy asAt = .ok result → 0 ≤ result.auditPriority
  ordered : ∀ factors asAt result factors' asAt' result',
    score factors policy asAt = .ok result → score factors' policy asAt' = .ok result' →
    residual factors policy asAt < residual factors' policy asAt' →
    result.rating.rank ≤ result'.rating.rank

def nameAt (bands : List (ℚ × String)) (risk : ℚ) : String :=
  ((bands.find? fun band => band.1 ≤ risk).map Prod.snd).getD "low"

section Bands

variable {bands : List (ℚ × String)} {bound risk : ℚ} {name : String}
variable {threshold : ℚ}

theorem nameAt_cons_of_le (h : threshold ≤ risk) :
    nameAt ((threshold, name) :: bands) risk = name := by
  simp [nameAt, h]

theorem nameAt_cons_of_lt (h : risk < threshold) :
    nameAt ((threshold, name) :: bands) risk = nameAt bands risk := by
  simp [nameAt, not_le.mpr h]

theorem mem_reach : name ∈ reach bound bands ↔
    ∃ risk, InUnit risk ∧ risk < bound ∧ nameAt bands risk = name := by
  induction bands generalizing bound with
  | nil =>
    unfold reach
    split_ifs with hbound
    · rw [List.mem_singleton]
      constructor
      · rintro rfl
        exact ⟨0, ⟨le_rfl, zero_le_one⟩, hbound, rfl⟩
      · rintro ⟨risk, -, -, rfl⟩
        rfl
    · refine iff_of_false List.not_mem_nil ?_
      rintro ⟨risk, hunit, hlt, -⟩
      exact hbound (hunit.1.trans_lt hlt)
  | cons band bands ih =>
    obtain ⟨threshold, first⟩ := band
    unfold reach
    split_ifs with hreached
    · rw [List.mem_cons, ih]
      constructor
      · rintro (rfl | ⟨risk, hunit, hlt, rfl⟩)
        · exact ⟨max threshold 0, ⟨le_max_right _ _, max_le hreached.1 zero_le_one⟩, hreached.2,
            nameAt_cons_of_le (le_max_left _ _)⟩
        · have hbelow : risk < threshold := by
            rcases lt_max_iff.mp hlt with h | h
            · exact h
            · exact absurd hunit.1 (not_le.mpr h)
          exact ⟨risk, hunit, hlt.trans hreached.2, nameAt_cons_of_lt hbelow⟩
      · rintro ⟨risk, hunit, hlt, rfl⟩
        by_cases hle : threshold ≤ risk
        · exact Or.inl (nameAt_cons_of_le hle)
        · have hbelow := not_le.mp hle
          exact Or.inr ⟨risk, hunit, lt_max_of_lt_left hbelow, (nameAt_cons_of_lt hbelow).symm⟩
    · -- no risk below the bound reaches this band
      rw [ih]
      refine exists_congr fun risk => and_congr_right fun hunit => and_congr_right fun hlt => ?_
      have hbelow : risk < threshold := by
        by_contra hle
        have hreach := not_lt.mp hle
        exact hreached ⟨hreach.trans hunit.2, (max_le hreach hunit.1).trans_lt hlt⟩
      rw [nameAt_cons_of_lt hbelow]

/-- A relation holds between the names in their order if and only if it holds between the names of
any two risks of which the first is lower. -/
theorem reach_pairwise {R : String → String → Prop} (hrefl : ∀ name, R name name) :
    (reach bound bands).Pairwise R ↔ ∀ risk risk', InUnit risk → InUnit risk' → risk' < bound →
      risk ≤ risk' → R (nameAt bands risk') (nameAt bands risk) := by
  induction bands generalizing bound with
  | nil =>
    have hlow : ∀ risk, nameAt [] risk = "low" := fun _ => rfl
    unfold reach
    split_ifs <;> simp [hlow, hrefl]
  | cons band bands ih =>
    obtain ⟨threshold, first⟩ := band
    unfold reach
    split_ifs with hreached
    · rw [List.pairwise_cons, ih]
      constructor
      · rintro ⟨hfirst, hrest⟩ risk risk' hunit hunit' hlt hle
        by_cases htop : threshold ≤ risk
        · rw [nameAt_cons_of_le htop, nameAt_cons_of_le (htop.trans hle)]
          exact hrefl first
        · have hbelow := not_le.mp htop
          rw [nameAt_cons_of_lt hbelow]
          by_cases htop' : threshold ≤ risk'
          · rw [nameAt_cons_of_le htop']
            exact hfirst _ (mem_reach.mpr ⟨risk, hunit, lt_max_of_lt_left hbelow, rfl⟩)
          · have hbelow' := not_le.mp htop'
            rw [nameAt_cons_of_lt hbelow']
            exact hrest risk risk' hunit hunit' (lt_max_of_lt_left hbelow') hle
      · intro hall
        constructor
        · intro name hname
          obtain ⟨risk, hunit, hlt, rfl⟩ := mem_reach.mp hname
          have hbelow : risk < threshold := (lt_max_iff.mp hlt).resolve_right (not_lt.mpr hunit.1)
          have hpair := hall risk (max threshold 0) hunit
            ⟨le_max_right _ _, max_le hreached.1 zero_le_one⟩ hreached.2 hlt.le
          rwa [nameAt_cons_of_le (le_max_left _ _), nameAt_cons_of_lt hbelow] at hpair
        · intro risk risk' hunit hunit' hlt hle
          have hbelow' : risk' < threshold :=
            (lt_max_iff.mp hlt).resolve_right (not_lt.mpr hunit'.1)
          have hpair := hall risk risk' hunit hunit' (hlt.trans hreached.2) hle
          rwa [nameAt_cons_of_lt hbelow', nameAt_cons_of_lt (hle.trans_lt hbelow')] at hpair
    · rw [ih]
      refine forall_congr' fun risk => forall_congr' fun risk' => forall_congr' fun hunit =>
        forall_congr' fun hunit' => forall_congr' fun hlt => forall_congr' fun hle => ?_
      have hbelow' : risk' < threshold := by
        by_contra hge
        have hreach := not_lt.mp hge
        exact hreached ⟨hreach.trans hunit'.2, (max_le hreach hunit'.1).trans_lt hlt⟩
      rw [nameAt_cons_of_lt hbelow', nameAt_cons_of_lt (hle.trans_lt hbelow')]

end Bands

section Policies

variable {policy : ScoringPolicy}

/-- A risk of exactly this size: the product alone, without aggravators or controls. -/
def riskOf (risk : ℚ) (hunit : InUnit risk) : RiskFactors where
  impact := risk
  likelihood := 1
  velocity := 0
  detectability := 1
  impact_unit := hunit

theorem inherent_riskOf (risk : ℚ) (hunit : InUnit risk) (policy : ScoringPolicy) :
    inherent (riskOf risk hunit) policy = risk := by
  have haggravation : aggravation (riskOf risk hunit) policy = 0 := by
    simp [aggravation, riskOf]
  rw [inherent_eq, haggravation]
  simp [riskOf]

theorem residual_riskOf (risk : ℚ) (hunit : InUnit risk) (policy : ScoringPolicy) (asAt : Date) :
    residual (riskOf risk hunit) policy asAt = risk := by
  rw [residual_eq, inherent_riskOf]
  simp [riskOf, share, remaining]

theorem exists_score_iff {factors : RiskFactors} {asAt : Date} :
    (∃ result, score factors policy asAt = .ok result) ↔
      (Rating.ofName (ratingFor (residual factors policy asAt) policy)).isSome := by
  rw [Option.isSome_iff_exists]
  constructor
  · rintro ⟨result, hresult⟩
    exact ⟨_, (score_eq_ok hresult).2.2.1⟩
  · rintro ⟨rating, hrating⟩
    exact exists_score hrating

theorem total_iff : (∀ factors asAt, ∃ result, score factors policy asAt = .ok result) ↔
    ∀ name ∈ policy.reachable, (Rating.ofName name).isSome := by
  constructor
  · intro htotal name hname
    obtain ⟨risk, hunit, -, rfl⟩ := mem_reach.mp hname
    have hscore := exists_score_iff.mp (htotal (riskOf risk hunit) 0)
    rwa [residual_riskOf] at hscore
  · intro hnamed factors asAt
    have hunit := residual_unit factors policy asAt
    exact exists_score_iff.mpr (hnamed _ (mem_reach.mpr
      ⟨_, hunit, hunit.2.trans_lt one_lt_two, rfl⟩))

theorem nonneg_iff : (∀ factors asAt, 0 ≤ auditPriority factors policy asAt) ↔
    ∀ source, policy.relianceOn source ≤ 1 := by
  constructor
  · intro hnonneg source
    by_contra hmore
    have hover := not_le.mp hmore
    let factors : RiskFactors :=
      { riskOf 1 ⟨zero_le_one, le_rfl⟩ with coverage := [⟨source, 0⟩] }
    have hresidual : residual factors policy 0 = 1 :=
      residual_riskOf 1 ⟨zero_le_one, le_rfl⟩ policy 0
    have hreliance : policy.relianceOn source ≤ (assuranceReliance factors policy 0).1 :=
      (le_reliance (zero_lt_one.trans hover)).mpr
        ⟨⟨source, 0⟩, List.mem_singleton.mpr rfl, Int.natCast_nonneg _, le_rfl⟩
    have hscale := uncertainty_nonneg factors policy 0
    have hpriority := hnonneg factors 0
    unfold auditPriority at hpriority
    rw [hresidual, one_mul] at hpriority
    have hnegative : 1 - (assuranceReliance factors policy 0).1 < 0 := by linarith
    exact absurd hpriority (not_le.mpr (mul_neg_of_neg_of_pos hnegative (by linarith)))
  · intro hreliance factors asAt
    have hle : (assuranceReliance factors policy asAt).1 ≤ 1 := by
      by_contra hmore
      obtain ⟨record, -, -, hover⟩ :=
        (le_reliance (zero_lt_one.trans (not_le.mp hmore))).mp le_rfl
      exact hmore (hover.trans (hreliance record.source))
    have hscale := uncertainty_nonneg factors policy asAt
    unfold auditPriority
    exact mul_nonneg (mul_nonneg (residual_nonneg factors policy asAt) (sub_nonneg.mpr hle))
      (by linarith)

theorem ordered_iff : (∀ factors asAt result factors' asAt' result',
    score factors policy asAt = .ok result → score factors' policy asAt' = .ok result' →
    residual factors policy asAt < residual factors' policy asAt' →
    result.rating.rank ≤ result'.rating.rank) ↔
    policy.reachable.Pairwise fun name later =>
      ∀ rating ∈ Rating.ofName name, ∀ rating' ∈ Rating.ofName later,
        rating'.rank ≤ rating.rank := by
  have hrefl : ∀ name, ∀ rating ∈ Rating.ofName name, ∀ rating' ∈ Rating.ofName name,
      rating'.rank ≤ rating.rank := by
    intro name rating hrating rating' hrating'
    rw [Option.mem_unique hrating hrating']
  unfold ScoringPolicy.reachable
  rw [reach_pairwise hrefl]
  constructor
  · intro hordered risk risk' hunit hunit' _ hle rating' hrating' rating hrating
    rcases lt_or_eq_of_le hle with hlt | rfl
    · have hname : Rating.ofName (ratingFor (residual (riskOf risk hunit) policy 0) policy) =
          some rating := by
        rw [residual_riskOf]
        exact hrating
      have hname' : Rating.ofName (ratingFor (residual (riskOf risk' hunit') policy 0) policy) =
          some rating' := by
        rw [residual_riskOf]
        exact hrating'
      obtain ⟨result, hresult⟩ := exists_score hname
      obtain ⟨result', hresult'⟩ := exists_score hname'
      have hrank := hordered _ 0 result _ 0 result' hresult hresult' (by
        rwa [residual_riskOf, residual_riskOf])
      have hsame := (score_eq_ok hresult).2.2.1.symm.trans hname
      have hsame' := (score_eq_ok hresult').2.2.1.symm.trans hname'
      rwa [Option.some_inj.mp hsame, Option.some_inj.mp hsame'] at hrank
    · rw [Option.mem_unique hrating hrating']
  · intro hall factors asAt result factors' asAt' result' hresult hresult' hlt
    have hunit := residual_unit factors policy asAt
    have hunit' := residual_unit factors' policy asAt'
    exact hall _ _ hunit hunit' (hunit'.2.trans_lt one_lt_two) hlt.le _
      (score_eq_ok hresult').2.2.1 _ (score_eq_ok hresult).2.2.1

/-- **Policies.**  Every score is computed, has no negative priority and is rated in the order of
the residual risk if and only if the policy is sound. -/
theorem sound_iff (policy : ScoringPolicy) : ScoresSoundly policy ↔ SoundPolicy policy := by
  constructor
  · intro h
    exact ⟨nonneg_iff.mp fun factors asAt => (h.nonneg factors asAt).1, total_iff.mp h.total,
      ordered_iff.mp h.ordered⟩
  · intro h
    refine ⟨total_iff.mpr h.named, fun factors asAt => ?_, ordered_iff.mpr h.descending⟩
    have hnonneg := nonneg_iff.mpr h.reliance factors asAt
    refine ⟨hnonneg, fun result hresult => ?_⟩
    rw [(score_eq_ok hresult).2.2.2.2.1]
    exact round6_nonneg hnonneg

end Policies

def severePolicy : ScoringPolicy :=
  { defaultPolicy with
    ratingBands := [(1 / 2, "severe")]
    bands_must_descend := by decide +kernel }

/-- The score of a risk in the band is not computed. -/
theorem severe_raises : score (riskOf 1 ⟨zero_le_one, le_rfl⟩) severePolicy 0 =
      .error (.rating "severe") ∧ ¬ ScoresSoundly severePolicy := by
  have hname : ratingFor (residual (riskOf 1 ⟨zero_le_one, le_rfl⟩) severePolicy 0) severePolicy =
      "severe" := by
    decide +kernel
  have hraises : score (riskOf 1 ⟨zero_le_one, le_rfl⟩) severePolicy 0 =
      .error (.rating "severe") := by
    unfold score
    dsimp only
    rw [hname]
    rfl
  refine ⟨hraises, fun h => ?_⟩
  obtain ⟨result, hresult⟩ := h.total (riskOf 1 ⟨zero_le_one, le_rfl⟩) 0
  rw [hraises] at hresult
  exact absurd hresult (by simp)

end Portfolio
