/-
How a materiality score moves with its inputs.

The score is the greatest of three terms, and none of them is negative but the sum of the factor
weights.  `assess_mono_iff` says for which policies no raise of an input lowers the score or the
severity floor: those whose weights do not work against each other, and whose bands stand strongest
first wherever a raise leads.  The validator of a policy asks for neither.
-/
import AssuranceOS.Adjudication.Materiality
import Mathlib.Algebra.Order.Floor.Ring
import Mathlib.Algebra.BigOperators.Group.List.Basic

namespace Adjudication

open Orchestration (roundHalfEven)

theorem floor_le_roundHalfEven (q : ℚ) : ⌊q⌋ ≤ roundHalfEven q := by
  unfold roundHalfEven
  dsimp only
  split_ifs <;> omega

theorem roundHalfEven_le_floor (q : ℚ) : roundHalfEven q ≤ ⌊q⌋ + 1 := by
  unfold roundHalfEven
  dsimp only
  split_ifs <;> omega

variable {p q : ℚ}

theorem roundHalfEven_mono (h : p ≤ q) : roundHalfEven p ≤ roundHalfEven q := by
  rcases lt_or_eq_of_le (Int.floor_mono h) with hlt | heq
  · have hp := roundHalfEven_le_floor p
    have hq := floor_le_roundHalfEven q
    omega
  · -- between the same two integers the one that is further on is rounded up first
    unfold roundHalfEven
    dsimp only
    rw [heq]
    split_ifs <;> first | omega | (exfalso; linarith)

theorem round6_mono (h : p ≤ q) : round6 p ≤ round6 q := by
  have hrounded : roundHalfEven (p * 1000000) ≤ roundHalfEven (q * 1000000) :=
    roundHalfEven_mono (by linarith)
  have hcast : (roundHalfEven (p * 1000000) : ℚ) ≤ roundHalfEven (q * 1000000) := by
    exact_mod_cast hrounded
  unfold round6
  linarith

/-! ### The terms of a score -/

def quantitative (inputs : MaterialityInputs) (policy : MaterialityPolicy) : ℚ :=
  if policy.populationFloor ≤ inputs.populationSize ∧ 0 < inputs.populationSize then
    inputs.exceptionCount / inputs.populationSize / policy.exceptionRateThreshold
  else 0

def monetary (inputs : MaterialityInputs) (policy : MaterialityPolicy) : ℚ :=
  match policy.monetaryThreshold, inputs.monetaryExposure with
  | some threshold, some exposure => exposure / threshold
  | _, _ => 0

/-- `policy.factor_weights.get(factor, 0.0)`. -/
def MaterialityPolicy.weight (policy : MaterialityPolicy) (factor : QualitativeFactor) : ℚ :=
  (policy.factorWeights.lookup factor).getD 0

def MaterialityPolicy.weigh (policy : MaterialityPolicy) (factors : List QualitativeFactor) : ℚ :=
  (factors.map policy.weight).sum

def MaterialityInputs.factorNames (inputs : MaterialityInputs) : List QualitativeFactor :=
  inputs.factors.map (·.factor)

def exactScore (inputs : MaterialityInputs) (policy : MaterialityPolicy) : ℚ :=
  max (max (quantitative inputs policy) (monetary inputs policy)) (policy.weigh inputs.factorNames)

def bandOf (policy : MaterialityPolicy) (score : ℚ) : Option (ℚ × Severity) :=
  policy.severityBands.find? fun band => band.1 ≤ score

theorem assess_eq (inputs : MaterialityInputs) (policy : MaterialityPolicy) :
    assess inputs policy =
      { policyId := policy.policyId
        score := round6 (exactScore inputs policy)
        material := 1 ≤ exactScore inputs policy
        severityFloor := severityFloor policy.severityBands (exactScore inputs policy) } := by
  have hqualitative : (inputs.factors.map fun item =>
      (policy.factorWeights.lookup item.factor).getD 0) =
      inputs.factorNames.map policy.weight := by
    rw [MaterialityInputs.factorNames, List.map_map]
    rfl
  unfold assess
  rw [hqualitative]
  rfl

/-- One measured fact is raised, and the others stay. -/
inductive Raised : MaterialityInputs → MaterialityInputs → Prop
  | exceptionCount {before after : MaterialityInputs}
      (count : before.exceptionCount ≤ after.exceptionCount)
      (population : after.populationSize = before.populationSize)
      (exposure : after.monetaryExposure = before.monetaryExposure)
      (factors : after.factors = before.factors) : Raised before after
  | monetaryExposure {before after : MaterialityInputs}
      (exposure : ∀ x ∈ before.monetaryExposure, ∃ y ∈ after.monetaryExposure, x ≤ y)
      (population : after.populationSize = before.populationSize)
      (count : after.exceptionCount = before.exceptionCount)
      (factors : after.factors = before.factors) : Raised before after
  | factor {before after : MaterialityInputs} (added : FactorAssertion)
      (factors : after.factors.Perm (added :: before.factors))
      (population : after.populationSize = before.populationSize)
      (count : after.exceptionCount = before.exceptionCount)
      (exposure : after.monetaryExposure = before.monetaryExposure) : Raised before after

/-- Neither the score, exact or rounded, nor the severity floor is lowered. -/
structure NotLowered (policy : MaterialityPolicy) (before after : MaterialityInputs) : Prop where
  exact : exactScore before policy ≤ exactScore after policy
  score : (assess before policy).score ≤ (assess after policy).score
  severityFloor : severityRank (assess before policy).severityFloor ≤
    severityRank (assess after policy).severityFloor

/-- No weight of the policy is negative beside a positive one. -/
def OneSigned (policy : MaterialityPolicy) : Prop :=
  ∀ f g, policy.weight f < 0 → ¬ 0 < policy.weight g

/-- A raise can lead from the score `s` to the score `t`.  Exposures lead anywhere, exception
rates up to a rate of one, and a factor to the sum of the weights with it. -/
structure Leads (policy : MaterialityPolicy) (s t : ℚ) : Prop where
  nonneg : 0 ≤ s
  le : s ≤ t
  way : policy.monetaryThreshold.isSome = true ∨ t * policy.exceptionRateThreshold ≤ 1 ∨
    ∃ f factors, (f :: factors).Nodup ∧ t = policy.weigh (f :: factors) ∧
      policy.weigh factors ≤ s ∧
      (s * policy.exceptionRateThreshold ≤ 1 ∨ s = policy.weigh factors)

/-- A band is not weaker than those after it, unless no raise leads from the later band to it. -/
def StrongestFirst (policy : MaterialityPolicy) : Prop :=
  policy.severityBands.Pairwise fun band later =>
    severityRank later.2 ≤ severityRank band.2 ∨
      ∀ s t, Leads policy s t → bandOf policy s = some later → bandOf policy t ≠ some band

section Terms

variable {policy : MaterialityPolicy} {before after inputs : MaterialityInputs}

theorem quantitative_nonneg (inputs : MaterialityInputs) (policy : MaterialityPolicy) :
    0 ≤ quantitative inputs policy := by
  have hpos := policy.threshold_pos
  unfold quantitative
  split_ifs
  · positivity
  · exact le_rfl

theorem quantitative_mul_le (inputs : MaterialityInputs) (policy : MaterialityPolicy) :
    quantitative inputs policy * policy.exceptionRateThreshold ≤ 1 := by
  have hpos := policy.threshold_pos
  unfold quantitative
  split_ifs with hfloor
  · rw [div_mul_cancel₀ _ hpos.ne']
    have hsize : (0 : ℚ) < inputs.populationSize := by exact_mod_cast hfloor.2
    rw [div_le_one hsize]
    exact_mod_cast inputs.population_must_reconcile
  · rw [zero_mul]
    exact zero_le_one

theorem monetary_nonneg (inputs : MaterialityInputs) (policy : MaterialityPolicy) :
    0 ≤ monetary inputs policy := by
  unfold monetary
  split
  · rename_i threshold exposure hthreshold hexposure
    have hpos := policy.monetary_pos threshold hthreshold
    have hnonneg := inputs.monetary_nonneg exposure hexposure
    positivity
  · exact le_rfl

theorem monetary_of_none (h : policy.monetaryThreshold = none) : monetary inputs policy = 0 := by
  unfold monetary
  rw [h]

theorem exactScore_nonneg (inputs : MaterialityInputs) (policy : MaterialityPolicy) :
    0 ≤ exactScore inputs policy :=
  (quantitative_nonneg inputs policy).trans ((le_max_left _ _).trans (le_max_left _ _))

theorem weigh_cons (policy : MaterialityPolicy) (f : QualitativeFactor)
    (factors : List QualitativeFactor) :
    policy.weigh (f :: factors) = policy.weight f + policy.weigh factors := by
  simp [MaterialityPolicy.weigh]

theorem weigh_perm {fs gs : List QualitativeFactor} (h : fs.Perm gs) :
    policy.weigh fs = policy.weigh gs :=
  (h.map policy.weight).sum_eq

theorem weigh_nonpos (h : ∀ f, policy.weight f ≤ 0) (factors : List QualitativeFactor) :
    policy.weigh factors ≤ 0 := by
  induction factors with
  | nil => exact le_rfl
  | cons f factors ih =>
    rw [weigh_cons]
    linarith [h f]

/-! ### Raised scores -/

theorem quantitative_mono (count : before.exceptionCount ≤ after.exceptionCount)
    (population : after.populationSize = before.populationSize) :
    quantitative before policy ≤ quantitative after policy := by
  have hpos := policy.threshold_pos
  have hcount : (before.exceptionCount : ℚ) ≤ after.exceptionCount := by exact_mod_cast count
  unfold quantitative
  rw [population]
  split_ifs
  · gcongr
  · exact le_rfl

theorem quantitative_congr (count : after.exceptionCount = before.exceptionCount)
    (population : after.populationSize = before.populationSize) :
    quantitative after policy = quantitative before policy := by
  unfold quantitative
  rw [count, population]

theorem monetary_congr (exposure : after.monetaryExposure = before.monetaryExposure) :
    monetary after policy = monetary before policy := by
  unfold monetary
  rw [exposure]

theorem monetary_mono
    (exposure : ∀ x ∈ before.monetaryExposure, ∃ y ∈ after.monetaryExposure, x ≤ y) :
    monetary before policy ≤ monetary after policy := by
  cases hbefore : before.monetaryExposure with
  | none =>
    have hzero : monetary before policy = 0 := by
      unfold monetary
      rw [hbefore]
      split <;> simp_all
    rw [hzero]
    exact monetary_nonneg after policy
  | some x =>
    obtain ⟨y, hy, hle⟩ := exposure x hbefore
    unfold monetary
    rw [hbefore, show after.monetaryExposure = some y from hy]
    cases hthreshold : policy.monetaryThreshold with
    | none => exact le_rfl
    | some threshold =>
      have hpos := policy.monetary_pos threshold hthreshold
      show x / threshold ≤ y / threshold
      gcongr

theorem factorNames_congr (factors : after.factors = before.factors) :
    after.factorNames = before.factorNames :=
  congrArg (List.map FactorAssertion.factor) factors

theorem factorNames_perm {added : FactorAssertion}
    (factors : after.factors.Perm (added :: before.factors)) :
    after.factorNames.Perm (added.factor :: before.factorNames) :=
  factors.map FactorAssertion.factor

theorem Raised.exact_le (h : Raised before after) (hsigned : OneSigned policy) :
    exactScore before policy ≤ exactScore after policy := by
  unfold exactScore
  cases h with
  | exceptionCount count population exposure factors =>
    rw [monetary_congr exposure, factorNames_congr factors]
    exact max_le_max_right _ (max_le_max_right _ (quantitative_mono count population))
  | monetaryExposure exposure population count factors =>
    rw [quantitative_congr count population, factorNames_congr factors]
    exact max_le_max_right _ (max_le_max_left _ (monetary_mono exposure))
  | factor added factors population count exposure =>
    rw [quantitative_congr count population, monetary_congr exposure,
      weigh_perm (factorNames_perm factors), weigh_cons]
    rcases le_or_gt 0 (policy.weight added.factor) with hnonneg | hneg
    · exact max_le_max_left _ (by linarith)
    · -- the weights are all against the finding, so their sum has not been the greatest term
      have hsum := weigh_nonpos (fun f => not_lt.mp (hsigned added.factor f hneg))
        before.factorNames
      have hterm := quantitative_nonneg before policy
      refine max_le (le_max_left _ _) (le_max_of_le_left (le_max_of_le_left ?_))
      linarith

theorem Raised.leads (h : Raised before after)
    (hle : exactScore before policy ≤ exactScore after policy) :
    exactScore after policy = exactScore before policy ∨
      Leads policy (exactScore before policy) (exactScore after policy) := by
  have hnonneg := exactScore_nonneg before policy
  cases hthreshold : policy.monetaryThreshold with
  | some threshold => exact Or.inr ⟨hnonneg, hle, Or.inl (by rw [hthreshold]; rfl)⟩
  | none =>
    have hscore : ∀ inputs, exactScore inputs policy =
        max (quantitative inputs policy) (policy.weigh inputs.factorNames) := fun inputs => by
      rw [exactScore, monetary_of_none hthreshold, max_eq_left (quantitative_nonneg _ _)]
    by_cases hrate : exactScore after policy * policy.exceptionRateThreshold ≤ 1
    · exact Or.inr ⟨hnonneg, hle, Or.inr (Or.inl hrate)⟩
    · -- no exception rate leads so far, so the factors alone are scored
      have hfactors : exactScore after policy = policy.weigh after.factorNames := by
        rw [hscore after]
        rcases max_choice (quantitative after policy) (policy.weigh after.factorNames) with hq | hf
        · rw [hscore after, hq] at hrate
          exact absurd (quantitative_mul_le after policy) hrate
        · exact hf
      cases h with
      | exceptionCount count population exposure factors =>
        refine Or.inl (le_antisymm ?_ hle)
        rw [hfactors, factorNames_congr factors, hscore before]
        exact le_max_right _ _
      | monetaryExposure exposure population count factors =>
        refine Or.inl (le_antisymm ?_ hle)
        rw [hfactors, factorNames_congr factors, hscore before]
        exact le_max_right _ _
      | factor added factors population count exposure =>
        have hperm := factorNames_perm factors
        refine Or.inr ⟨hnonneg, hle, Or.inr (Or.inr ⟨added.factor, before.factorNames, ?_, ?_, ?_, ?_⟩)⟩
        · exact hperm.nodup_iff.mp after.factors_nodup
        · rw [hfactors, weigh_perm hperm]
        · rw [hscore before]
          exact le_max_right _ _
        · rw [hscore before]
          rcases max_choice (quantitative before policy) (policy.weigh before.factorNames) with
            hq | hf
          · rw [hq]
            exact Or.inl (quantitative_mul_le before policy)
          · exact Or.inr hf

theorem sublist_of_find? {α : Type} {p q : α → Bool} (h : ∀ x, q x = true → p x = true) {a b : α} :
    ∀ {l : List α}, l.find? p = some a → l.find? q = some b → a ≠ b → [a, b].Sublist l := by
  intro l
  induction l with
  | nil =>
    intro ha
    cases ha
  | cons x l ih =>
    intro ha hb hne
    by_cases hp : p x = true
    · rw [List.find?_cons_of_pos hp] at ha
      cases ha
      by_cases hq : q a = true
      · rw [List.find?_cons_of_pos hq] at hb
        cases hb
        exact absurd rfl hne
      · rw [List.find?_cons_of_neg hq] at hb
        exact (List.singleton_sublist.mpr (List.mem_of_find?_eq_some hb)).cons_cons _
    · have hq : ¬ q x = true := fun hx => hp (h x hx)
      rw [List.find?_cons_of_neg hp] at ha
      rw [List.find?_cons_of_neg hq] at hb
      exact (ih ha hb hne).cons x

theorem severityFloor_eq (policy : MaterialityPolicy) (score : ℚ) :
    severityFloor policy.severityBands score =
      ((bandOf policy score).map Prod.snd).getD .low := rfl

theorem Leads.floor_le {s t : ℚ} (h : Leads policy s t) (hstrong : StrongestFirst policy) :
    severityRank (severityFloor policy.severityBands s) ≤
      severityRank (severityFloor policy.severityBands t) := by
  have hreaches : ∀ band : ℚ × Severity, decide (band.1 ≤ s) = true →
      decide (band.1 ≤ t) = true := fun band hs =>
    decide_eq_true ((of_decide_eq_true hs).trans h.le)
  rw [severityFloor_eq, severityFloor_eq]
  cases hs : bandOf policy s with
  | none => exact Nat.zero_le _
  | some later =>
    obtain ⟨band, ht⟩ : ∃ band, bandOf policy t = some band := by
      rw [← Option.isSome_iff_exists, bandOf, List.find?_isSome]
      have hreached := List.find?_some (p := fun band : ℚ × Severity => band.1 ≤ s) hs
      exact ⟨later, List.mem_of_find?_eq_some hs, hreaches later hreached⟩
    rw [ht]
    by_cases heq : band = later
    · rw [heq]
    · have hsub := sublist_of_find? hreaches ht hs heq
      rcases List.pairwise_iff_forall_sublist.mp hstrong hsub with hle | hnever
      · exact hle
      · exact absurd ht (hnever s t h hs)

theorem Raised.notLowered (h : Raised before after) (hsigned : OneSigned policy)
    (hstrong : StrongestFirst policy) : NotLowered policy before after where
  exact := h.exact_le hsigned
  score := by
    rw [assess_eq, assess_eq]
    exact round6_mono (h.exact_le hsigned)
  severityFloor := by
    rw [assess_eq, assess_eq]
    rcases h.leads (h.exact_le hsigned) with heq | hleads
    · show severityRank (severityFloor _ _) ≤ severityRank (severityFloor _ _)
      rw [heq]
    · exact hleads.floor_le hstrong

end Terms

/-! ### Inputs with a given score -/

section Realised

variable {policy : MaterialityPolicy}

theorem asserted_length : LengthIn 3 2000 "asserted" := by decide

theorem asserted_evidence : ["evidence"] ≠ [] := List.cons_ne_nil _ _

def assertionOf (factor : QualitativeFactor) : FactorAssertion where
  factor := factor
  rationale := "asserted"
  evidenceIds := ["evidence"]
  rationale_length := asserted_length
  evidence_ne_nil := asserted_evidence

theorem assertions_nodup {factors : List QualitativeFactor} (h : factors.Nodup) :
    ((factors.map assertionOf).map (·.factor)).Nodup := by
  rw [List.map_map]
  simpa [Function.comp_def, assertionOf] using h

/-- Inputs with a count of a population, an exposure, and factors. -/
def inputsOf (size count : ℕ) (hcount : count ≤ size) (exposure : Option ℚ)
    (hexposure : ∀ x ∈ exposure, 0 ≤ x) (factors : List QualitativeFactor)
    (hfactors : factors.Nodup) : MaterialityInputs where
  populationSize := size
  exceptionCount := count
  monetaryExposure := exposure
  factors := factors.map assertionOf
  monetary_nonneg := hexposure
  population_must_reconcile := hcount
  factors_nodup := assertions_nodup hfactors

section Scored

variable {size count : ℕ} {hcount : count ≤ size} {exposure : Option ℚ}
  {hexposure : ∀ x ∈ exposure, 0 ≤ x} {factors : List QualitativeFactor}
  {hfactors : factors.Nodup}

@[simp] theorem inputsOf_factorNames :
    (inputsOf size count hcount exposure hexposure factors hfactors).factorNames = factors := by
  show (factors.map assertionOf).map (·.factor) = factors
  simp [Function.comp_def, assertionOf]

theorem quantitative_empty {hcount : count ≤ 0} :
    quantitative (inputsOf 0 count hcount exposure hexposure factors hfactors) policy = 0 :=
  if_neg fun h => absurd h.2 (lt_irrefl 0)

variable {x : ℚ}

theorem quantitative_scored (hfloor : policy.populationFloor ≤ size) (hsize : 0 < size)
    (hrate : (count : ℚ) / size = x * policy.exceptionRateThreshold) :
    quantitative (inputsOf size count hcount exposure hexposure factors hfactors) policy = x := by
  have hpos := policy.threshold_pos
  have hscored : quantitative (inputsOf size count hcount exposure hexposure factors hfactors)
      policy = (count : ℚ) / size / policy.exceptionRateThreshold := if_pos ⟨hfloor, hsize⟩
  rw [hscored, hrate, mul_div_cancel_right₀ _ hpos.ne']

theorem monetary_unmeasured {hexposure : ∀ x ∈ (none : Option ℚ), 0 ≤ x} :
    monetary (inputsOf size count hcount none hexposure factors hfactors) policy = 0 := by
  show (match policy.monetaryThreshold, (none : Option ℚ) with
    | some threshold, some exposure => exposure / threshold
    | _, _ => (0 : ℚ)) = 0
  split <;> simp_all

variable {threshold : ℚ}

theorem monetary_measured (h : policy.monetaryThreshold = some threshold)
    {hexposure : ∀ y ∈ some (x * threshold), 0 ≤ y} :
    monetary (inputsOf size count hcount (some (x * threshold)) hexposure factors hfactors) policy =
      x := by
  have hpos := policy.monetary_pos threshold h
  unfold monetary
  rw [h]
  show x * threshold / threshold = x
  exact mul_div_cancel_right₀ x hpos.ne'

theorem no_factors : ([] : List QualitativeFactor).Nodup := List.nodup_nil

theorem no_exceptions : 0 ≤ 0 := le_rfl

theorem unmeasured : ∀ x ∈ (none : Option ℚ), 0 ≤ x := fun _ h => by cases h

theorem exactScore_unmeasured
    (h : quantitative (inputsOf size count hcount none unmeasured factors hfactors) policy = x) :
    exactScore (inputsOf size count hcount none unmeasured factors hfactors) policy =
      max x (policy.weigh factors) := by
  have hnonneg : 0 ≤ x := h ▸ quantitative_nonneg _ policy
  rw [exactScore, h, monetary_unmeasured, inputsOf_factorNames, max_eq_left hnonneg]

theorem exactScore_measured (h : policy.monetaryThreshold = some threshold) {hcount : 0 ≤ 0}
    {hexposure : ∀ y ∈ some (x * threshold), 0 ≤ y} (hnonneg : 0 ≤ x) :
    exactScore (inputsOf 0 0 hcount (some (x * threshold)) hexposure [] no_factors) policy = x := by
  rw [exactScore, quantitative_empty, monetary_measured h, inputsOf_factorNames,
    max_eq_right hnonneg]
  exact max_eq_left hnonneg

end Scored

theorem exists_counts {x y : ℚ} (hx : 0 ≤ x) (hxy : x ≤ y) (hy : y ≤ 1) (floor : ℕ) :
    ∃ size k l : ℕ, floor ≤ size ∧ 0 < size ∧ k ≤ l ∧ l ≤ size ∧
      (k : ℚ) / size = x ∧ (l : ℚ) / size = y := by
  set size := (floor + 1) * (x.den * y.den) with hsize
  have hden : 0 < x.den * y.den := Nat.mul_pos x.den_pos y.den_pos
  have hpos : 0 < size := Nat.mul_pos (Nat.succ_pos floor) hden
  have hrat : (0 : ℚ) < size := by exact_mod_cast hpos
  have hlarge : floor ≤ size := (Nat.le_succ floor).trans (Nat.le_mul_of_pos_right _ hden)
  have hwhole : ∀ {q : ℚ} (m : ℕ), 0 ≤ q → size = m * q.den →
      ((m * q.num.toNat : ℕ) : ℚ) / size = q := by
    intro q m hq hm
    have hnum : ((q.num.toNat : ℕ) : ℚ) = q.num := by
      exact_mod_cast Int.toNat_of_nonneg (Rat.num_nonneg.mpr hq)
    rw [div_eq_iff hrat.ne', hm]
    push_cast
    rw [hnum]
    have hqd : (q.num : ℚ) = q * q.den := by
      rw [mul_comm, Rat.den_mul_eq_num]
    rw [hqd]
    ring
  have hk := hwhole ((floor + 1) * y.den) hx (by rw [hsize]; ring)
  have hl := hwhole ((floor + 1) * x.den) (hx.trans hxy) (by rw [hsize]; ring)
  refine ⟨size, _, _, hlarge, hpos, ?_, ?_, hk, hl⟩
  · have hle : _ ≤ _ := hk.le.trans (hxy.trans hl.ge)
    exact_mod_cast (div_le_div_iff_of_pos_right hrat).mp hle
  · have hle : _ ≤ _ := hl.le.trans hy
    exact_mod_cast (div_le_one hrat).mp hle

theorem Leads.realised {s t : ℚ} (h : Leads policy s t) : ∃ before after,
    Raised before after ∧ exactScore before policy = s ∧ exactScore after policy = t := by
  have hthreshold := policy.threshold_pos
  rcases h.way with hmonetary | hrate | ⟨f, factors, hnodup, rfl, hbelow, hway⟩
  · obtain ⟨threshold, hthreshold⟩ := Option.isSome_iff_exists.mp hmonetary
    have hpos := policy.monetary_pos threshold hthreshold
    have hs : ∀ x ∈ some (s * threshold), 0 ≤ x := by
      rintro x ⟨⟩
      exact mul_nonneg h.nonneg hpos.le
    have ht : ∀ x ∈ some (t * threshold), 0 ≤ x := by
      rintro x ⟨⟩
      exact mul_nonneg (h.nonneg.trans h.le) hpos.le
    refine ⟨inputsOf 0 0 no_exceptions _ hs [] no_factors, inputsOf 0 0 no_exceptions _ ht [] no_factors,
      .monetaryExposure ?_ rfl rfl rfl, exactScore_measured hthreshold h.nonneg,
      exactScore_measured hthreshold (h.nonneg.trans h.le)⟩
    rintro x ⟨⟩
    exact ⟨_, rfl, mul_le_mul_of_nonneg_right h.le hpos.le⟩
  · obtain ⟨size, k, l, hfloor, hsize, hkl, hl, hks, hlt⟩ := exists_counts
      (mul_nonneg h.nonneg hthreshold.le) (mul_le_mul_of_nonneg_right h.le hthreshold.le) hrate
      policy.populationFloor
    refine ⟨inputsOf size k (hkl.trans hl) none unmeasured [] no_factors,
      inputsOf size l hl none unmeasured [] no_factors,
      .exceptionCount hkl rfl rfl rfl, ?_, ?_⟩
    · rw [exactScore_unmeasured (quantitative_scored hfloor hsize hks)]
      exact max_eq_left h.nonneg
    · rw [exactScore_unmeasured (quantitative_scored hfloor hsize hlt)]
      exact max_eq_left (h.nonneg.trans h.le)
  · have hfactors : factors.Nodup := (List.nodup_cons.mp hnodup).2
    -- the factor is added at the same count of the same population
    have hadded : ∀ (size k : ℕ) (hk : k ≤ size),
        Raised (inputsOf size k hk none unmeasured factors hfactors)
          (inputsOf size k hk none unmeasured (f :: factors) hnodup) := fun size k hk =>
      .factor (assertionOf f) (List.Perm.refl _) rfl rfl rfl
    rcases hway with hrate | hsum
    · obtain ⟨size, k, l, hfloor, hsize, hkl, hl, hks, -⟩ := exists_counts
        (mul_nonneg h.nonneg hthreshold.le) le_rfl hrate policy.populationFloor
      refine ⟨_, _, hadded size k (hkl.trans hl), ?_, ?_⟩
      · rw [exactScore_unmeasured (quantitative_scored hfloor hsize hks)]
        exact max_eq_left hbelow
      · rw [exactScore_unmeasured (quantitative_scored hfloor hsize hks)]
        exact max_eq_right h.le
    · refine ⟨_, _, hadded 0 0 no_exceptions, ?_, ?_⟩
      · rw [exactScore_unmeasured quantitative_empty, ← hsum]
        exact max_eq_right h.nonneg
      · rw [exactScore_unmeasured quantitative_empty]
        exact max_eq_right (h.nonneg.trans h.le)

theorem exists_lowered {f g : QualitativeFactor} (hf : policy.weight f < 0)
    (hg : 0 < policy.weight g) : ∃ before after,
      Raised before after ∧ exactScore after policy < exactScore before policy := by
  have hne : f ≠ g := by
    rintro rfl
    exact lt_asymm hf hg
  have hnodup : [f, g].Nodup := List.nodup_cons.mpr ⟨by simpa using hne, List.nodup_singleton g⟩
  refine ⟨inputsOf 0 0 no_exceptions none unmeasured [g] (List.nodup_singleton g),
    inputsOf 0 0 no_exceptions none unmeasured [f, g] hnodup,
    .factor (assertionOf f) (List.Perm.refl _) rfl rfl rfl, ?_⟩
  have hnone : policy.weigh [] = 0 := rfl
  rw [exactScore_unmeasured quantitative_empty, exactScore_unmeasured quantitative_empty,
    weigh_cons, weigh_cons, hnone, add_zero, max_eq_right hg.le]
  exact max_lt hg (by linarith)

/-- **Monotone scores.**  Raising the exception count or the monetary exposure, or adding a factor,
lowers neither the score nor the rank of the severity floor, for any inputs, if and only if no
factor of the policy works against another and its bands stand strongest first wherever a raise
leads. -/
theorem assess_mono_iff (policy : MaterialityPolicy) :
    (∀ before after, Raised before after → NotLowered policy before after) ↔
      OneSigned policy ∧ StrongestFirst policy := by
  constructor
  · intro h
    refine ⟨fun f g hf hg => ?_, List.pairwise_iff_forall_sublist.mpr fun {band later} _ => ?_⟩
    · obtain ⟨before, after, hraised, hlt⟩ := exists_lowered hf hg
      exact absurd (h before after hraised).exact (not_le.mpr hlt)
    · by_cases hrank : severityRank later.2 ≤ severityRank band.2
      · exact Or.inl hrank
      · refine Or.inr fun s t hleads hs ht => hrank ?_
        obtain ⟨before, after, hraised, hbefore, hafter⟩ := hleads.realised
        have hfloor := (h before after hraised).severityFloor
        rw [assess_eq, assess_eq, hbefore, hafter] at hfloor
        rw [severityFloor_eq, severityFloor_eq, hs, ht] at hfloor
        exact hfloor
  · rintro ⟨hsigned, hstrong⟩ before after hraised
    exact hraised.notLowered hsigned hstrong

/-! #### Bands out of order -/

theorem crossed_descend :
    ([((3 : ℚ), Severity.high), (2, Severity.critical)].map Prod.fst).Pairwise (· ≥ ·) := by
  decide +kernel

theorem crossed_monetary : ∀ t ∈ some (1 : ℚ), 0 < t := by
  rintro t ⟨⟩
  exact zero_lt_one

def crossedBands : MaterialityPolicy where
  monetaryThreshold := some 1
  severityBands := [(3, .high), (2, .critical)]
  policyId_length := defaultPolicy.policyId_length
  threshold_pos := defaultPolicy.threshold_pos
  threshold_le := defaultPolicy.threshold_le
  monetary_pos := crossed_monetary
  bands_must_descend := crossed_descend

theorem two_exposed : ∀ x ∈ some (2 : ℚ), 0 ≤ x := by
  rintro x ⟨⟩
  exact zero_le_two

theorem three_exposed : ∀ x ∈ some (3 : ℚ), 0 ≤ x := by
  rintro x ⟨⟩
  exact zero_le_three

def exposedTwice : MaterialityInputs :=
  inputsOf 0 0 no_exceptions (some 2) two_exposed [] no_factors

def exposedThreeTimes : MaterialityInputs :=
  inputsOf 0 0 no_exceptions (some 3) three_exposed [] no_factors

/-- A greater exposure leads from the critical band to the high one. -/
theorem floor_lowered : ¬ ∀ (policy : MaterialityPolicy) (before after : MaterialityInputs),
    Raised before after → NotLowered policy before after := by
  intro h
  have hraised : Raised exposedTwice exposedThreeTimes := by
    refine .monetaryExposure ?_ rfl rfl rfl
    rintro x ⟨⟩
    exact ⟨3, rfl, by norm_num⟩
  have hfloor := (h crossedBands exposedTwice exposedThreeTimes hraised).severityFloor
  have hlowered : ¬ severityRank (assess exposedTwice crossedBands).severityFloor ≤
      severityRank (assess exposedThreeTimes crossedBands).severityFloor := by
    decide +kernel
  exact hlowered hfloor

end Realised

end Adjudication
