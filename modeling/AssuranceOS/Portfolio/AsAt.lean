/-
What a control earns that is asserted, or whose test is out of date, and scores as at a past date.

Such a control does not enter the reduction (`AddsControl.residual`), but it enters the confidence.
With more confidence the audit priority falls, and `asserted_iff` says when this has no effect.

The ages of tests and of coverage are compared with the windows only, and an age that is negative
passes.  `sameScore_iff` says when two records that agree until the date have the same score.
-/
import Mathlib.Algebra.BigOperators.Ring.List
import AssuranceOS.Portfolio.ScoreLaws

namespace Portfolio

/-- The same risk with one control more. -/
structure AddsControl (factors factors' : RiskFactors) (control : ControlEvidence) : Prop extends
    SameFactors factors factors' where
  controls : factors'.controls.Perm (control :: factors.controls)
  coverage : factors'.coverage = factors.coverage

/-- Nothing is lowered, neither before it is rounded nor in the score. -/
structure NotLowered (policy : ScoringPolicy) (asAt : Date) (factors factors' : RiskFactors) :
    Prop where
  residual : residual factors policy asAt ≤ residual factors' policy asAt
  auditPriority : auditPriority factors policy asAt ≤ auditPriority factors' policy asAt
  scores : ∀ result result', score factors policy asAt = .ok result →
    score factors' policy asAt = .ok result' → result.residual ≤ result'.residual ∧
      result.rating.rank ≤ result'.rating.rank ∧ result.auditPriority ≤ result'.auditPriority

section

variable {policy : ScoringPolicy} {asAt : Date} {factors factors' : RiskFactors}
  {control : ControlEvidence}

theorem AddsControl.residual (h : AddsControl factors factors' control)
    (hnot : ¬ control.IsCurrent policy asAt) :
    residual factors' policy asAt = residual factors policy asAt := by
  have hnothing : gapLeft policy asAt control = 1 := if_neg hnot
  have hgap : remaining policy asAt factors'.controls = remaining policy asAt factors.controls := by
    unfold remaining
    rw [(h.controls.map _).prod_eq, List.map_cons, List.prod_cons, hnothing, one_mul]
  rw [residual_eq, residual_eq, h.inherent]
  unfold share
  rw [hgap]

theorem AddsControl.reliance (h : AddsControl factors factors' control) :
    assuranceReliance factors' policy asAt = assuranceReliance factors policy asAt := by
  unfold assuranceReliance
  rw [h.coverage]

/-- The control is the first that is marked tested, or the first that cites evidence. -/
def AddsSignal (factors : RiskFactors) (control : ControlEvidence) : Prop :=
  (control.testedEffective ∧ ¬ factors.Tested) ∨ (control.evidenceIds ≠ [] ∧ ¬ factors.Cited)

theorem signal_or (n : ℕ) (hn : 0 < n) (p q : Prop) [Decidable p] [Decidable q] :
    (if p then n else 0) ≤ (if q ∨ p then n else 0) ∧
      ((if q ∨ p then n else 0) ≤ (if p then n else 0) ↔ ¬ (q ∧ ¬ p)) := by
  by_cases hp : p
  · simp [hp]
  · by_cases hq : q
    · simp [hp, hq, hn.ne']
    · simp [hp, hq]

theorem AddsControl.signals (h : AddsControl factors factors' control) (asAt : Date) :
    factors.signals asAt ≤ factors'.signals asAt ∧
      (factors.signals asAt = factors'.signals asAt ↔ ¬ AddsSignal factors control) := by
  have htested : factors'.Tested ↔ control.testedEffective ∨ factors.Tested := by
    simp [RiskFactors.Tested, h.controls.mem_iff]
  have hcited : factors'.Cited ↔ control.evidenceIds ≠ [] ∨ factors.Cited := by
    simp [RiskFactors.Cited, h.controls.mem_iff]
  have hrecent : factors'.Recent asAt ↔ factors.Recent asAt := by
    simp only [RiskFactors.Recent, h.coverage]
  obtain ⟨hle, hiff⟩ := signal_or 2 two_pos factors.Tested control.testedEffective
  obtain ⟨hle', hiff'⟩ := signal_or 1 one_pos factors.Cited (control.evidenceIds ≠ [])
  unfold RiskFactors.signals AddsSignal
  simp only [htested, hcited, hrecent, h.evidenceIds]
  refine ⟨by omega, ?_⟩
  rw [not_or, ← hiff, ← hiff']
  omega

theorem auditPriority_le_iff {n : ℕ}
    (hresidual : residual factors' policy asAt = residual factors policy asAt)
    (hreliance : assuranceReliance factors' policy asAt = assuranceReliance factors policy asAt)
    (hsignals : factors'.signals asAt = factors.signals asAt + n) :
    auditPriority factors policy asAt ≤ auditPriority factors' policy asAt ↔
      n = 0 ∨ policy.uncertaintyPremium = 0 ∨ 1 ≤ (assuranceReliance factors policy asAt).1 ∨
        residual factors policy asAt = 0 := by
  have hcount : (factors'.signals asAt : ℚ) = factors.signals asAt + n := by exact_mod_cast hsignals
  have hdifference : auditPriority factors' policy asAt - auditPriority factors policy asAt =
      -(residual factors policy asAt * (1 - (assuranceReliance factors policy asAt).1) *
        (policy.uncertaintyPremium * (n / 5))) := by
    unfold auditPriority uncertainty
    rw [hresidual, hreliance, confidenceIn_eq, confidenceIn_eq, hcount]
    ring
  have hresidual_nonneg := residual_nonneg factors policy asAt
  have hpremium := policy.premium_nonneg
  have hn : (0 : ℚ) ≤ n / 5 := by positivity
  rw [← sub_nonneg, hdifference, neg_nonneg]
  constructor
  · intro h
    by_contra hnone
    simp only [not_or, not_le] at hnone
    obtain ⟨hsome, hscaled, hcovered, hrisk⟩ := hnone
    have hmore : (0 : ℚ) < n / 5 := by
      have hpos : 0 < n := Nat.pos_of_ne_zero hsome
      positivity
    have hscale : 0 < policy.uncertaintyPremium := lt_of_le_of_ne hpremium (Ne.symm hscaled)
    have hroom : 0 < residual factors policy asAt := lt_of_le_of_ne hresidual_nonneg (Ne.symm hrisk)
    exact absurd h (not_le.mpr (mul_pos (mul_pos hroom (sub_pos.mpr hcovered))
      (mul_pos hscale hmore)))
  · rintro (rfl | hscaled | hcovered | hrisk)
    · simp
    · rw [hscaled]
      simp
    · have hroom : residual factors policy asAt *
          (1 - (assuranceReliance factors policy asAt).1) ≤ 0 :=
        mul_nonpos_of_nonneg_of_nonpos hresidual_nonneg (sub_nonpos.mpr hcovered)
      exact mul_nonpos_of_nonpos_of_nonneg hroom (mul_nonneg hpremium hn)
    · rw [hrisk]
      simp

/-- **Asserted controls.**  One that is not currently tested effective lowers nothing if and only
if it gives no confidence, or confidence counts for nothing under the policy, or the risk is fully
covered, or there is none. -/
theorem asserted_iff (h : AddsControl factors factors' control)
    (hnot : ¬ control.IsCurrent policy asAt) :
    NotLowered policy asAt factors factors' ↔
      ¬ AddsSignal factors control ∨ policy.uncertaintyPremium = 0 ∨
        (∃ record ∈ factors.coverage,
          daysBetween asAt record.obtainedOn ≤ policy.coverageStalenessDays ∧
            1 ≤ policy.relianceOn record.source) ∨
        RiskFree factors policy := by
  obtain ⟨hmore, hsame⟩ := h.signals asAt
  obtain ⟨n, hn⟩ := Nat.le.dest hmore
  have hnone : n = 0 ↔ ¬ AddsSignal factors control := by
    rw [← hsame]
    omega
  have hresidual := h.residual hnot
  have hpriority := auditPriority_le_iff hresidual h.reliance hn.symm
  rw [hnone, le_reliance one_pos, residual_eq_zero, inherent_eq_zero] at hpriority
  rw [← hpriority]
  constructor
  · exact fun hlowered => hlowered.auditPriority
  · intro hle
    refine ⟨hresidual.ge, hle, fun result result' hresult hresult' => ?_⟩
    obtain ⟨-, hres, hrating, -, hpri, -⟩ := score_eq_ok hresult
    obtain ⟨-, hres', hrating', -, hpri', -⟩ := score_eq_ok hresult'
    rw [hresidual] at hres' hrating'
    have hsameRating : result.rating = result'.rating :=
      Option.some_inj.mp (hrating.symm.trans hrating')
    refine ⟨?_, ?_, ?_⟩
    · rw [hres, hres']
    · rw [hsameRating]
    · rw [hpri, hpri']
      exact round6_mono hle

end

/-! ### A control that is only asserted -/

def bareRisk : RiskFactors where
  impact := 8 / 10
  likelihood := 5 / 10

/-- Nobody has tested the control, but a document is cited for it. -/
def assertedControl : ControlEvidence where
  controlRef := "AC-1"
  maturity := 1
  coverage := 1
  evidenceIds := ["policy-document"]

def assertedRisk : RiskFactors := { bareRisk with controls := [assertedControl] }

theorem assertedRisk_adds : AddsControl bareRisk assertedRisk assertedControl :=
  ⟨⟨rfl, rfl, rfl, rfl, rfl, rfl, rfl⟩, .refl _, rfl⟩

/-- The assertion lowers the audit priority. -/
theorem asserted_lowers : AddsControl bareRisk assertedRisk assertedControl ∧
    ¬ assertedControl.IsCurrent defaultPolicy 0 ∧
    ¬ NotLowered defaultPolicy 0 bareRisk assertedRisk := by
  refine ⟨assertedRisk_adds, by decide, fun h => ?_⟩
  exact absurd h.auditPriority (by decide +kernel)

def premiumless : ScoringPolicy :=
  { defaultPolicy with
    uncertaintyPremium := 0
    premium_nonneg := le_rfl
    premium_le := zero_le_two }

/-- Under a policy without a premium it lowers nothing. -/
theorem asserted_without_premium :
    NotLowered premiumless 0 bareRisk assertedRisk :=
  (asserted_iff assertedRisk_adds (by decide)).mpr (Or.inr (Or.inl rfl))

def ControlEvidence.TestedAfter (asAt : Date) (control : ControlEvidence) : Prop :=
  ∃ tested ∈ control.lastTestedOn, asAt < tested

instance (asAt : Date) (control : ControlEvidence) : Decidable (control.TestedAfter asAt) :=
  match h : control.lastTestedOn with
  | none => isFalse (by simp [ControlEvidence.TestedAfter, h])
  | some tested => decidable_of_iff (asAt < tested) (by simp [ControlEvidence.TestedAfter, h])

/-- The same control, but for a test after the date. -/
structure OtherTest (asAt : Date) (control control' : ControlEvidence) : Prop where
  controlRef : control'.controlRef = control.controlRef
  maturity : control'.maturity = control.maturity
  coverage : control'.coverage = control.coverage
  later : control.TestedAfter asAt ∨ control'.TestedAfter asAt
  before : control.testedEffective → control.TestedAfter asAt
  before' : control'.testedEffective → control'.TestedAfter asAt

/-- Two records that differ in tests and in coverage after the date only. -/
structure AgreeUntil (asAt : Date) (factors factors' : RiskFactors) : Prop extends
    SameFactors factors factors' where
  controls : List.Forall₂ (fun control control' => control = control' ∨
    OtherTest asAt control control') factors.controls factors'.controls
  coverage : (factors'.coverage.filter fun record => record.obtainedOn ≤ asAt).Perm
    (factors.coverage.filter fun record => record.obtainedOn ≤ asAt)

/-- The same terms, before they are rounded and in the score. -/
structure SameScore (policy : ScoringPolicy) (asAt : Date) (factors factors' : RiskFactors) :
    Prop where
  inherent : inherent factors' policy = inherent factors policy
  residual : residual factors' policy asAt = residual factors policy asAt
  confidence : confidenceIn factors' asAt = confidenceIn factors asAt
  auditPriority : auditPriority factors' policy asAt = auditPriority factors policy asAt
  uncovered : (assuranceReliance factors' policy asAt).2 = none ↔
    (assuranceReliance factors policy asAt).2 = none
  scores : ∀ result result', score factors policy asAt = .ok result →
    score factors' policy asAt = .ok result' →
    result'.inherent = result.inherent ∧ result'.residual = result.residual ∧
      result'.confidence = result.confidence ∧ result'.auditPriority = result.auditPriority ∧
      result'.uncovered = result.uncovered

/-! ### What the future does to each term -/

def laterGap (asAt : Date) (controls : List ControlEvidence) : ℚ :=
  (controls.map fun control =>
    if control.testedEffective ∧ control.TestedAfter asAt then
      1 - control.maturity * control.coverage
    else 1).prod

/-- Records after the date are relied on for no more than other records that count. -/
def Matched (policy : ScoringPolicy) (asAt : Date) (coverage coverage' : List CoverageRecord) :
    Prop :=
  ∀ record ∈ coverage, asAt < record.obtainedOn → 0 < policy.relianceOn record.source →
    ∃ record' ∈ coverage', daysBetween asAt record'.obtainedOn ≤ policy.coverageStalenessDays ∧
      policy.relianceOn record.source ≤ policy.relianceOn record'.source

def Covered (policy : ScoringPolicy) (asAt : Date) (coverage : List CoverageRecord) : Prop :=
  ∃ record ∈ coverage, daysBetween asAt record.obtainedOn ≤ policy.coverageStalenessDays ∧
    0 < policy.relianceOn record.source

def RiskFactors.softSignals (factors : RiskFactors) (asAt : Date) : ℕ :=
  (if factors.Cited then 1 else 0) + (if factors.Recent asAt then 1 else 0)

/-- What is after the date makes no difference: to the confidence, to the reduction and to the
reliance. -/
structure Unaffected (policy : ScoringPolicy) (asAt : Date) (factors factors' : RiskFactors) :
    Prop where
  tested : factors'.Tested ↔ factors.Tested
  signals : factors'.softSignals asAt = factors.softSignals asAt
  reduction : RiskFree factors policy ∨
    (∃ control ∈ factors.controls, control.IsCurrent policy asAt ∧ ¬ control.TestedAfter asAt ∧
      control.maturity * control.coverage = 1) ∨
    laterGap asAt factors'.controls = laterGap asAt factors.controls
  reliance : RiskFree factors policy ∨
    (Matched policy asAt factors.coverage factors'.coverage ∧
      Matched policy asAt factors'.coverage factors.coverage)
  covered : Covered policy asAt factors'.coverage ↔ Covered policy asAt factors.coverage

section

variable {policy : ScoringPolicy} {asAt : Date} {factors factors' : RiskFactors}

theorem RiskFactors.Tested.cited (h : factors.Tested) : factors.Cited := by
  obtain ⟨control, hcontrol, htested⟩ := h
  exact ⟨control, hcontrol, control.tested_evidenced htested⟩

theorem AgreeUntil.signals (h : AgreeUntil asAt factors factors') :
    confidenceIn factors' asAt = confidenceIn factors asAt ↔
      (factors'.Tested ↔ factors.Tested) ∧
        factors'.softSignals asAt = factors.softSignals asAt := by
  have hcount : confidenceIn factors' asAt = confidenceIn factors asAt ↔
      factors'.signals asAt = factors.signals asAt := by
    rw [confidenceIn_eq, confidenceIn_eq, div_left_inj' (by norm_num)]
    exact Nat.cast_inj
  rw [hcount]
  unfold RiskFactors.signals RiskFactors.softSignals
  rw [h.evidenceIds]
  by_cases ht : factors.Tested
  · by_cases ht' : factors'.Tested
    · rw [if_pos ht, if_pos ht']
      constructor
      · exact fun heq => ⟨iff_of_true ht' ht, by omega⟩
      · rintro ⟨-, heq⟩
        omega
    · -- a test and its evidence are worth more than all that the other record can have
      rw [if_pos ht, if_neg ht', if_pos ht.cited]
      refine iff_of_false ?_ fun hall => ht' (hall.1.mpr ht)
      split_ifs <;> omega
  · by_cases ht' : factors'.Tested
    · rw [if_neg ht, if_pos ht', if_pos ht'.cited]
      refine iff_of_false ?_ fun hall => ht (hall.1.mp ht')
      split_ifs <;> omega
    · rw [if_neg ht, if_neg ht']
      constructor
      · exact fun heq => ⟨iff_of_false ht' ht, by omega⟩
      · rintro ⟨-, heq⟩
        omega

def earlierGap (policy : ScoringPolicy) (asAt : Date) (controls : List ControlEvidence) : ℚ :=
  (controls.map fun control =>
    if control.IsCurrent policy asAt ∧ ¬ control.TestedAfter asAt then
      1 - control.maturity * control.coverage
    else 1).prod

theorem isCurrent_of_after {control : ControlEvidence} (htested : control.testedEffective)
    (hafter : control.TestedAfter asAt) : control.IsCurrent policy asAt := by
  refine ⟨htested, fun tested hdate => ?_⟩
  obtain ⟨tested', hdate', hlater⟩ := hafter
  obtain rfl : tested = tested' := Option.mem_unique hdate hdate'
  have hfuture : daysBetween asAt tested < 0 := sub_neg.mpr hlater
  exact hfuture.le.trans (Int.natCast_nonneg _)

theorem remaining_eq (controls : List ControlEvidence) :
    remaining policy asAt controls = earlierGap policy asAt controls * laterGap asAt controls := by
  unfold remaining earlierGap laterGap
  rw [← List.prod_map_mul]
  refine congrArg List.prod (List.map_congr_left fun control _ => ?_)
  unfold gapLeft
  by_cases hafter : control.TestedAfter asAt
  · by_cases htested : control.testedEffective
    · simp [hafter, htested, isCurrent_of_after htested hafter]
    · simp [hafter, htested, ControlEvidence.IsCurrent]
  · simp [hafter]

theorem AgreeUntil.earlierGap (h : AgreeUntil asAt factors factors') :
    earlierGap policy asAt factors'.controls = earlierGap policy asAt factors.controls := by
  unfold Portfolio.earlierGap
  refine congrArg List.prod ?_
  have hcontrols := h.controls
  generalize factors.controls = controls at hcontrols
  generalize factors'.controls = controls' at hcontrols
  induction hcontrols with
  | nil => rfl
  | @cons control control' rest rest' hone _ ih =>
    rw [List.map_cons, List.map_cons, ih]
    refine congrArg (· :: _) ?_
    rcases hone with rfl | hother
    · rfl
    · -- neither is tested by the date
      have hnot : ¬ (control.IsCurrent policy asAt ∧ ¬ control.TestedAfter asAt) :=
        fun hc => hc.2 (hother.before hc.1.1)
      have hnot' : ¬ (control'.IsCurrent policy asAt ∧ ¬ control'.TestedAfter asAt) :=
        fun hc => hc.2 (hother.before' hc.1.1)
      rw [if_neg hnot, if_neg hnot']

theorem earlierGap_eq_zero {controls : List ControlEvidence} :
    earlierGap policy asAt controls = 0 ↔ ∃ control ∈ controls, control.IsCurrent policy asAt ∧
      ¬ control.TestedAfter asAt ∧ control.maturity * control.coverage = 1 := by
  unfold earlierGap
  rw [List.prod_eq_zero_iff, List.mem_map]
  refine exists_congr fun control => and_congr_right fun _ => ?_
  by_cases hcurrent : control.IsCurrent policy asAt ∧ ¬ control.TestedAfter asAt
  · rw [if_pos hcurrent, sub_eq_zero]
    constructor
    · exact fun hall => ⟨hcurrent.1, hcurrent.2, hall.symm⟩
    · exact fun hall => hall.2.2.symm
  · rw [if_neg hcurrent]
    constructor
    · exact fun hone => absurd hone one_ne_zero
    · exact fun hall => absurd ⟨hall.1, hall.2.1⟩ hcurrent

theorem AgreeUntil.residual_iff (h : AgreeUntil asAt factors factors') :
    residual factors' policy asAt = residual factors policy asAt ↔
      RiskFree factors policy ∨
        (∃ control ∈ factors.controls, control.IsCurrent policy asAt ∧
          ¬ control.TestedAfter asAt ∧ control.maturity * control.coverage = 1) ∨
        laterGap asAt factors'.controls = laterGap asAt factors.controls := by
  rw [residual_eq, residual_eq, h.inherent, mul_eq_mul_left_iff, inherent_eq_zero,
    ← earlierGap_eq_zero, or_comm]
  refine or_congr_right ?_
  have hshare : share policy asAt factors'.controls = share policy asAt factors.controls ↔
      remaining policy asAt factors'.controls = remaining policy asAt factors.controls := by
    unfold share
    rw [sub_right_inj, mul_left_inj' policy.reduction_pos.ne', sub_right_inj]
  rw [hshare, remaining_eq, remaining_eq, h.earlierGap, mul_eq_mul_left_iff, or_comm]

theorem reliance_nonneg (factors : RiskFactors) (policy : ScoringPolicy) (asAt : Date) :
    0 ≤ (assuranceReliance factors policy asAt).1 := by
  rw [(assuranceReliance_eq factors policy asAt).1, le_foldl_max]
  exact Or.inl le_rfl

theorem covered_iff (factors : RiskFactors) (policy : ScoringPolicy) (asAt : Date) :
    (assuranceReliance factors policy asAt).2 = none ↔ ¬ Covered policy asAt factors.coverage := by
  have hnonneg := reliance_nonneg factors policy asAt
  rw [(assuranceReliance_eq factors policy asAt).2]
  constructor
  · rintro hzero ⟨record, hrecord, hcurrent, hpos⟩
    have hle : policy.relianceOn record.source ≤ (assuranceReliance factors policy asAt).1 :=
      (le_reliance hpos).mpr ⟨record, hrecord, hcurrent, le_rfl⟩
    rw [hzero] at hle
    exact absurd hpos (not_lt.mpr hle)
  · intro hnone
    by_contra hne
    have hpos : 0 < (assuranceReliance factors policy asAt).1 :=
      lt_of_le_of_ne hnonneg (Ne.symm hne)
    obtain ⟨record, hrecord, hcurrent, hle⟩ := (le_reliance hpos).mp le_rfl
    exact hnone ⟨record, hrecord, hcurrent, hpos.trans_le hle⟩

theorem reliance_le_iff (policy : ScoringPolicy) (hbefore : ∀ record ∈ factors.coverage,
      record.obtainedOn ≤ asAt → record ∈ factors'.coverage) :
    (assuranceReliance factors policy asAt).1 ≤ (assuranceReliance factors' policy asAt).1 ↔
      Matched policy asAt factors.coverage factors'.coverage := by
  constructor
  · intro hle record hrecord hlater hpos
    have hcurrent : daysBetween asAt record.obtainedOn ≤ policy.coverageStalenessDays :=
      (sub_neg.mpr hlater).le.trans (Int.natCast_nonneg _)
    exact (le_reliance hpos).mp
      (((le_reliance hpos).mpr ⟨record, hrecord, hcurrent, le_rfl⟩).trans hle)
  · intro hmatched
    by_cases hzero : (assuranceReliance factors policy asAt).1 ≤ 0
    · exact hzero.trans (reliance_nonneg factors' policy asAt)
    · obtain ⟨record, hrecord, hcurrent, hle⟩ := (le_reliance (not_le.mp hzero)).mp le_rfl
      refine hle.trans ((le_reliance ((not_le.mp hzero).trans_le hle)).mpr ?_)
      by_cases hlater : record.obtainedOn ≤ asAt
      · exact ⟨record, hbefore record hrecord hlater, hcurrent, le_rfl⟩
      · exact hmatched record hrecord (not_le.mp hlater) ((not_le.mp hzero).trans_le hle)

theorem AgreeUntil.mem_coverage (h : AgreeUntil asAt factors factors') (record : CoverageRecord)
    (hbefore : record.obtainedOn ≤ asAt) :
    record ∈ factors'.coverage ↔ record ∈ factors.coverage := by
  have hmem := h.coverage.mem_iff (a := record)
  simpa [hbefore] using hmem

theorem AgreeUntil.reliance_iff (h : AgreeUntil asAt factors factors') :
    (assuranceReliance factors' policy asAt).1 = (assuranceReliance factors policy asAt).1 ↔
      Matched policy asAt factors.coverage factors'.coverage ∧
        Matched policy asAt factors'.coverage factors.coverage := by
  have hle := reliance_le_iff policy
    fun record hrecord hbefore => (h.mem_coverage record hbefore).mpr hrecord
  have hge := reliance_le_iff policy
    fun record hrecord hbefore => (h.mem_coverage record hbefore).mp hrecord
  rw [← hle, ← hge, le_antisymm_iff, and_comm]

theorem AgreeUntil.auditPriority_iff (h : AgreeUntil asAt factors factors')
    (hresidual : residual factors' policy asAt = residual factors policy asAt)
    (hconfidence : confidenceIn factors' asAt = confidenceIn factors asAt) :
    auditPriority factors' policy asAt = auditPriority factors policy asAt ↔
      RiskFree factors policy ∨ (Matched policy asAt factors.coverage factors'.coverage ∧
        Matched policy asAt factors'.coverage factors.coverage) := by
  have hscale : 1 + policy.uncertaintyPremium * (1 - confidenceIn factors asAt) ≠ 0 := by
    have hnonneg := uncertainty_nonneg factors policy asAt
    unfold uncertainty at hnonneg
    positivity
  unfold auditPriority uncertainty
  rw [hresidual, hconfidence, mul_left_inj' hscale, mul_eq_mul_left_iff, sub_right_inj,
    h.reliance_iff, residual_eq_zero, inherent_eq_zero, or_comm]

/-- **As at a past date.**  Records that agree until the date have the same score if and only if
what comes later gives neither confidence nor reduction nor reliance of its own. -/
theorem sameScore_iff (h : AgreeUntil asAt factors factors') :
    SameScore policy asAt factors factors' ↔ Unaffected policy asAt factors factors' := by
  constructor
  · intro hsame
    obtain ⟨htested, hsignals⟩ := h.signals.mp hsame.confidence
    refine ⟨htested, hsignals, h.residual_iff.mp hsame.residual,
      (h.auditPriority_iff hsame.residual hsame.confidence).mp hsame.auditPriority, ?_⟩
    have huncovered := hsame.uncovered
    rw [covered_iff, covered_iff, not_iff_not] at huncovered
    exact huncovered
  · intro hall
    have hresidual := h.residual_iff.mpr hall.reduction
    have hconfidence := h.signals.mpr ⟨hall.tested, hall.signals⟩
    have hpriority := (h.auditPriority_iff hresidual hconfidence).mpr hall.reliance
    have huncovered : (assuranceReliance factors' policy asAt).2 = none ↔
        (assuranceReliance factors policy asAt).2 = none := by
      rw [covered_iff, covered_iff, not_iff_not]
      exact hall.covered
    refine ⟨h.inherent, hresidual, hconfidence, hpriority, huncovered, ?_⟩
    intro result result' hresult hresult'
    obtain ⟨hinh, hres, -, hconf, hpri, hcov⟩ := score_eq_ok hresult
    obtain ⟨hinh', hres', -, hconf', hpri', hcov'⟩ := score_eq_ok hresult'
    refine ⟨?_, ?_, ?_, ?_, ?_⟩
    · rw [hinh, hinh', h.inherent]
    · rw [hres, hres', hresidual]
    · rw [hconf, hconf', hconfidence]
    · rw [hpri, hpri', hpriority]
    · rw [hcov, hcov', Bool.eq_iff_iff, Option.isNone_iff_eq_none, Option.isNone_iff_eq_none]
      exact huncovered

end

def untestedControl : ControlEvidence :=
  { assertedControl with
    evidenceIds := []
    tested_evidenced := by decide }

def testedControl : ControlEvidence :=
  { untestedControl with
    testedEffective := true
    lastTestedOn := some 5
    evidenceIds := ["test-report"]
    tested_dated := by decide
    tested_evidenced := by decide }

def riskBefore : RiskFactors := { bareRisk with controls := [untestedControl] }

def riskAfter : RiskFactors := { bareRisk with controls := [testedControl] }

theorem riskAfter_agrees : AgreeUntil 0 riskBefore riskAfter := by
  refine ⟨⟨rfl, rfl, rfl, rfl, rfl, rfl, rfl⟩, .cons (Or.inr ?_) .nil, .refl _⟩
  exact ⟨rfl, rfl, rfl, Or.inr (by decide), by decide, by decide⟩

/-- As at an earlier day, the later test lowers the residual risk that is reported. -/
theorem future_test_counts : AgreeUntil 0 riskBefore riskAfter ∧
    ∃ result result', score riskBefore defaultPolicy 0 = .ok result ∧
      score riskAfter defaultPolicy 0 = .ok result' ∧
      result'.residual ≠ result.residual := by
  obtain ⟨result, hresult⟩ := exists_score (show Rating.ofName (ratingFor
    (residual riskBefore defaultPolicy 0) defaultPolicy) = some .medium by decide +kernel)
  obtain ⟨result', hresult'⟩ := exists_score (show Rating.ofName (ratingFor
    (residual riskAfter defaultPolicy 0) defaultPolicy) = some .low by decide +kernel)
  refine ⟨riskAfter_agrees, result, result', hresult, hresult', ?_⟩
  rw [(score_eq_ok hresult).2.1, (score_eq_ok hresult').2.1]
  decide +kernel

def auditedRisk : RiskFactors := { bareRisk with coverage := [⟨.internalAudit, 0⟩] }

def retestedRisk : RiskFactors :=
  { bareRisk with coverage := [⟨.internalAudit, 0⟩, ⟨.managementTesting, 5⟩] }

theorem retestedRisk_agrees : AgreeUntil 1 auditedRisk retestedRisk where
  toSameFactors := ⟨rfl, rfl, rfl, rfl, rfl, rfl, rfl⟩
  controls := .nil
  coverage := .refl _

/-- A weaker source that is added later makes no difference. -/
theorem sameScore_retested : SameScore defaultPolicy 1 auditedRisk retestedRisk := by
  refine (sameScore_iff retestedRisk_agrees).mpr ?_
  refine ⟨by decide, by decide, Or.inr (Or.inr rfl), Or.inr ⟨?_, ?_⟩, ?_⟩
  · intro record hrecord hlater
    rw [List.mem_singleton.mp hrecord] at hlater
    exact absurd hlater (by decide)
  · intro record hrecord _ _
    refine ⟨⟨.internalAudit, 0⟩, List.mem_singleton.mpr rfl, by decide, ?_⟩
    rcases List.mem_pair.mp hrecord with rfl | rfl
    · exact le_rfl
    · decide +kernel
  · refine iff_of_true ?_ ?_
    · exact ⟨⟨.internalAudit, 0⟩, List.mem_cons_self, by decide, by decide +kernel⟩
    · exact ⟨⟨.internalAudit, 0⟩, List.mem_cons_self, by decide, by decide +kernel⟩

end Portfolio
