/-
What a recommended plan is.

Both loops of `recommend` are greedy passes over a budget of days and of disruptive audits
(`forcedPass`, `optionalPass`), so that the rules of `Greedy` apply to them.  `recommend_iff`: for
candidates with keys of their own there is a plan, and it has all the laws of `PlanLaws`, if and
only if the date at which an audit falls due again is a date for every candidate whose criticality
asks for it.
-/
import AssuranceOS.Lib.Checked
import AssuranceOS.Lib.Greedy
import AssuranceOS.Lib.Table
import AssuranceOS.Portfolio.Planning
import Mathlib.Data.List.Dedup

namespace Portfolio

open Checked

/-- Minimum coverage applies, and the date at which it is due lies after the year 9999. -/
def Overflows (policy : CapacityPolicy) (candidate : Candidate) : Prop :=
  policy.minimumCoverageCriticality ≤ candidate.criticality ∧
    ∃ day ∈ candidate.lastAuditedOn, dateMax < day + policy.intervalDays

def isForced (policy : CapacityPolicy) (candidate : Candidate) : Bool :=
  match needsCoverage candidate policy with
  | .ok needed => needed
  | .error _ => false

def isHigh (candidate : Candidate) : Bool := candidate.disruption = .high

def effort (candidates : List Candidate) : ℚ := (candidates.map (·.effortDays)).sum

def Plans (candidate : Candidate) (item : PlannedItem) : Prop :=
  ∃ reason forced, item = plannedItem candidate reason forced

def Excludes (candidate : Candidate) (item : ExcludedItem) : Prop :=
  ∃ reason, item = excludedItem candidate reason

/-- What a plan owes its candidates, of which those in `taken` are planned and those in `refused`
are not. -/
structure PlanLaws (candidates : List Candidate) (policy : CapacityPolicy)
    (plan : PlanRecommendation) (taken refused : List Candidate) : Prop where
  partition : (taken ++ refused).Perm candidates
  planned : List.Forall₂ Plans taken plan.planned
  excluded : List.Forall₂ Excludes refused plan.excluded
  effort : effort taken ≤ max policy.plannableDays (effort (taken.filter (isForced policy)))
  disruption : taken.countP isHigh ≤
    max policy.maxHighDisruption ((taken.filter (isForced policy)).countP isHigh)
  maximal : ∀ candidate ∈ refused, isForced policy candidate = false →
    candidate.expertiseAvailable →
    policy.plannableDays < Portfolio.effort taken + candidate.effortDays ∨
      (candidate.disruption = .high ∧ policy.maxHighDisruption ≤ taken.countP isHigh)
  anyOrder : ∀ candidates', candidates'.Perm candidates →
    ∃ plan', recommend candidates' policy = .ok plan' ∧ plan'.planned = plan.planned ∧
      plan'.excluded = plan.excluded
  uncovered : (candidates.map (·.score.auditPriority)).sum -
      (plan.planned.map (·.auditPriority)).sum = (plan.excluded.map (·.auditPriority)).sum ∧
    plan.uncoveredPriority = round6 (plan.excluded.map (·.auditPriority)).sum
  blindSpots : plan.blindSpots = (candidates.filter fun candidate =>
    candidate.score.uncovered ∧ candidate ∉ taken).map blindSpot

section Coverage

variable {policy : CapacityPolicy} {candidate : Candidate} {candidates : List Candidate}

theorem needsCoverage_eq_ok {needed : Bool} : needsCoverage candidate policy = .ok needed ↔
    ¬ Overflows policy candidate ∧ isForced policy candidate = needed := by
  unfold isForced Overflows needsCoverage
  by_cases hlow : candidate.criticality < policy.minimumCoverageCriticality
  · simp [hlow]
  · have hcritical := not_lt.mp hlow
    rcases hday : candidate.lastAuditedOn with _ | day
    · simp [hlow]
    · by_cases hdue : dateMax < day + policy.intervalDays
      · simp [hlow, hcritical, hdue]
      · simp [hlow, hdue]

theorem forcedCandidates_eq_ok {forced : List Candidate} :
    forcedCandidates policy candidates = .ok forced ↔
      (∀ candidate ∈ candidates, ¬ Overflows policy candidate) ∧
        forced = candidates.filter (isForced policy) := by
  induction candidates generalizing forced with
  | nil =>
    unfold forcedCandidates
    simp [eq_comm]
  | cons first candidates ih =>
    unfold forcedCandidates
    simp only [bind_eq_ok, needsCoverage_eq_ok, ih]
    constructor
    · rintro ⟨needed, ⟨hfirst, hneeded⟩, rest, ⟨hrest, rfl⟩, h⟩
      cases h
      refine ⟨List.forall_mem_cons.mpr ⟨hfirst, hrest⟩, ?_⟩
      rw [List.filter_cons, hneeded]
    · rintro ⟨hall, rfl⟩
      obtain ⟨hfirst, hrest⟩ := List.forall_mem_cons.mp hall
      refine ⟨_, ⟨hfirst, rfl⟩, _, ⟨hrest, rfl⟩, ?_⟩
      rw [List.filter_cons]
      rfl

theorem filter_not_mem_forced :
    (candidates.filter fun candidate => candidate ∉ candidates.filter (isForced policy)) =
      candidates.filter fun candidate => !isForced policy candidate := by
  refine List.filter_congr fun candidate hcandidate => ?_
  simp [List.mem_filter, hcandidate]

end Coverage

/-- What the two loops spend. -/
structure Budget where
  spent : ℚ
  high : ℕ

def admitForced (budget : Budget) (candidate : Candidate) : Option Budget :=
  if candidate.expertiseAvailable then
    some { budget with spent := budget.spent + candidate.effortDays }
  else none

/-- Neither the limit on disruptive audits nor the days keep the candidate out. -/
def HasRoom (policy : CapacityPolicy) (budget : Budget) (candidate : Candidate) : Prop :=
  ¬ (candidate.disruption = .high ∧ policy.maxHighDisruption ≤ budget.high) ∧
    budget.spent + candidate.effortDays ≤ policy.plannableDays

instance (policy : CapacityPolicy) (budget : Budget) (candidate : Candidate) :
    Decidable (HasRoom policy budget candidate) :=
  inferInstanceAs (Decidable (_ ∧ _))

def highCost (candidate : Candidate) : ℕ :=
  if candidate.disruption = .high then 1 else 0

def admitOptional (policy : CapacityPolicy) (budget : Budget) (candidate : Candidate) :
    Option Budget :=
  if candidate.expertiseAvailable ∧ HasRoom policy budget candidate then
    some ⟨budget.spent + candidate.effortDays, budget.high + highCost candidate⟩
  else none

def PlanState.view (state : PlanState) : Budget × List PlannedItem × List ExcludedItem :=
  (⟨state.spent, state.highDisruption⟩, state.planned, state.excluded)

section Passes

variable {policy : CapacityPolicy} {budget budget' : Budget} {candidate : Candidate}

theorem admitOptional_eq_some : admitOptional policy budget candidate = some budget' ↔
    (candidate.expertiseAvailable ∧ HasRoom policy budget candidate) ∧
      budget' = ⟨budget.spent + candidate.effortDays, budget.high + highCost candidate⟩ := by
  unfold admitOptional
  by_cases hroom : candidate.expertiseAvailable ∧ HasRoom policy budget candidate
  · rw [if_pos hroom, Option.some_inj]
    exact ⟨fun h => ⟨hroom, h.symm⟩, fun h => h.2.symm⟩
  · rw [if_neg hroom]
    exact iff_of_false (by simp) fun h => hroom h.1

theorem admitOptional_eq_none : admitOptional policy budget candidate = none ↔
    (candidate.expertiseAvailable →
      (candidate.disruption = .high ∧ policy.maxHighDisruption ≤ budget.high) ∨
        policy.plannableDays < budget.spent + candidate.effortDays) := by
  unfold admitOptional
  by_cases hroom : candidate.expertiseAvailable ∧ HasRoom policy budget candidate
  · rw [if_pos hroom]
    refine iff_of_false (by simp) fun h => ?_
    rcases h hroom.1 with hdisruption | hfull
    · exact hroom.2.1 hdisruption
    · exact absurd hfull (not_lt.mpr hroom.2.2)
  · rw [if_neg hroom]
    refine iff_of_true rfl fun hexpertise => ?_
    by_contra hnone
    rw [not_or, not_lt] at hnone
    exact hroom ⟨hexpertise, hnone⟩

theorem considerForced_some (state : PlanState)
    (h : admitForced state.view.1 candidate = some budget') :
    ∃ item, Plans candidate item ∧ (considerForced state candidate).view =
      (budget', state.view.2.1 ++ [item], state.view.2.2) := by
  unfold admitForced at h
  split_ifs at h with hexpertise
  cases h
  unfold considerForced
  rw [if_neg (not_not.mpr hexpertise)]
  exact ⟨_, ⟨_, _, rfl⟩, rfl⟩

theorem considerForced_none (state : PlanState) (h : admitForced state.view.1 candidate = none) :
    ∃ item, Excludes candidate item ∧ (considerForced state candidate).view =
      (state.view.1, state.view.2.1, state.view.2.2 ++ [item]) := by
  unfold admitForced at h
  split_ifs at h with hexpertise
  unfold considerForced
  rw [if_pos hexpertise]
  exact ⟨_, ⟨_, rfl⟩, rfl⟩

theorem considerOptional_some (state : PlanState)
    (h : admitOptional policy state.view.1 candidate = some budget') :
    ∃ item, Plans candidate item ∧ (considerOptional policy state candidate).view =
      (budget', state.view.2.1 ++ [item], state.view.2.2) := by
  obtain ⟨⟨hexpertise, hdisruption, hfits⟩, rfl⟩ := admitOptional_eq_some.mp h
  have hallowed : ¬ (candidate.disruption = .high ∧
      policy.maxHighDisruption ≤ state.highDisruption) := hdisruption
  have henough : ¬ policy.plannableDays < state.spent + candidate.effortDays := not_lt.mpr hfits
  unfold considerOptional highCost
  rw [if_neg (not_not.mpr hexpertise), if_neg hallowed, if_neg henough]
  by_cases hhigh : candidate.disruption = .high
  · rw [if_pos hhigh, if_pos hhigh]
    exact ⟨_, ⟨_, _, rfl⟩, rfl⟩
  · rw [if_neg hhigh, if_neg hhigh]
    exact ⟨_, ⟨_, _, rfl⟩, rfl⟩

theorem considerOptional_none (state : PlanState)
    (h : admitOptional policy state.view.1 candidate = none) :
    ∃ item, Excludes candidate item ∧ (considerOptional policy state candidate).view =
      (state.view.1, state.view.2.1, state.view.2.2 ++ [item]) := by
  have hnone := admitOptional_eq_none.mp h
  unfold considerOptional
  by_cases hexpertise : candidate.expertiseAvailable
  · rw [if_neg (not_not.mpr hexpertise)]
    by_cases hdisruption : candidate.disruption = .high ∧
        policy.maxHighDisruption ≤ state.highDisruption
    · rw [if_pos hdisruption]
      exact ⟨_, ⟨_, rfl⟩, rfl⟩
    · have hfull : policy.plannableDays < state.spent + candidate.effortDays :=
        (hnone hexpertise).resolve_left hdisruption
      rw [if_neg hdisruption, if_pos hfull]
      exact ⟨_, ⟨_, rfl⟩, rfl⟩
  · rw [if_pos hexpertise]
    exact ⟨_, ⟨_, rfl⟩, rfl⟩

theorem admitOptional_none_of_some {other : Candidate}
    (h : admitOptional policy budget candidate = none)
    (hother : admitOptional policy budget other = some budget') :
    admitOptional policy budget' candidate = none := by
  rw [admitOptional_eq_none] at h ⊢
  obtain ⟨-, rfl⟩ := admitOptional_eq_some.mp hother
  intro hexpertise
  rcases h hexpertise with ⟨hhigh, hmax⟩ | hfull
  · exact Or.inl ⟨hhigh, hmax.trans (Nat.le_add_right _ _)⟩
  · have hpos := other.effort_pos
    refine Or.inr (hfull.trans ?_)
    show budget.spent + candidate.effortDays <
      budget.spent + other.effortDays + candidate.effortDays
    linarith

theorem forcedPass (candidates : List Candidate) :
    (Greedy.final admitForced ⟨0, 0⟩ candidates).spent =
      effort (Greedy.taken admitForced ⟨0, 0⟩ candidates) := by
  have hcost : ∀ budget candidate budget', admitForced budget candidate = some budget' →
      budget'.spent = budget.spent + candidate.effortDays := by
    intro budget candidate budget' h
    unfold admitForced at h
    split_ifs at h
    cases h
    rfl
  rw [Greedy.run_sum hcost, zero_add]
  rfl

theorem optionalPass (policy : CapacityPolicy) (budget : Budget) (candidates : List Candidate) :
    let final := Greedy.final (admitOptional policy) budget candidates
    let taken := Greedy.taken (admitOptional policy) budget candidates
    (final.spent = budget.spent + effort taken ∧
        final.spent ≤ max policy.plannableDays budget.spent) ∧
      final.high = budget.high + taken.countP isHigh ∧
        final.high ≤ max policy.maxHighDisruption budget.high := by
  have hspent : ∀ b candidate b', admitOptional policy b candidate = some b' →
      b'.spent = b.spent + candidate.effortDays := fun b candidate b' h => by
    rw [(admitOptional_eq_some.mp h).2]
  have hhigh : ∀ b candidate b', admitOptional policy b candidate = some b' →
      b'.high = b.high + highCost candidate := fun b candidate b' h => by
    rw [(admitOptional_eq_some.mp h).2]
  have hcount : ∀ l : List Candidate, (l.map highCost).sum = l.countP isHigh := by
    intro l
    induction l with
    | nil => rfl
    | cons c l ih =>
      rw [List.map_cons, List.sum_cons, ih, List.countP_cons, add_comm]
      simp [highCost, isHigh]
  have hkept : ∀ b candidate b', (b.spent ≤ max policy.plannableDays budget.spent ∧
      b.high ≤ max policy.maxHighDisruption budget.high) →
      admitOptional policy b candidate = some b' →
      b'.spent ≤ max policy.plannableDays budget.spent ∧
        b'.high ≤ max policy.maxHighDisruption budget.high := by
    intro b candidate b' hI h
    obtain ⟨⟨-, hdisruption, hfits⟩, rfl⟩ := admitOptional_eq_some.mp h
    refine ⟨hfits.trans (le_max_left _ _), ?_⟩
    show b.high + highCost candidate ≤ _
    unfold highCost
    by_cases hc : candidate.disruption = .high
    · have hbelow : b.high < policy.maxHighDisruption := by
        by_contra hmax
        exact hdisruption ⟨hc, not_lt.mp hmax⟩
      rw [if_pos hc]
      exact (Nat.succ_le_of_lt hbelow).trans (le_max_left _ _)
    · rw [if_neg hc]
      exact hI.2
  have hend := Greedy.run_invariant hkept ⟨le_max_right _ _, le_max_right _ _⟩ candidates
  refine ⟨⟨Greedy.run_sum hspent budget candidates, hend.1⟩, ?_, hend.2⟩
  rw [← hcount]
  exact Greedy.run_sum hhigh budget candidates

end Passes

section Plan

variable {policy : CapacityPolicy} {candidates : List Candidate}
variable {taken candidates' : List Candidate}

theorem countHigh_eq (hkeys : (candidates.map (·.candidateKey)).Nodup) {items : List PlannedItem}
    (hsub : ∀ candidate ∈ taken, candidate ∈ candidates) (hplans : List.Forall₂ Plans taken items) :
    countHigh candidates items = taken.countP isHigh := by
  have hone : ∀ candidate ∈ candidates, (candidates.filter fun other =>
      other.candidateKey = candidate.candidateKey ∧ other.disruption = .high).length =
        if isHigh candidate then 1 else 0 := by
    intro candidate hcandidate
    have hfilter : (candidates.filter fun other =>
        other.candidateKey = candidate.candidateKey ∧ other.disruption = .high) =
          candidates.filter fun other => decide (other = candidate) && isHigh candidate := by
      refine List.filter_congr fun other hother => ?_
      by_cases hkey : other.candidateKey = candidate.candidateKey
      · obtain rfl := Table.eq_of_key_eq hkeys hother hcandidate hkey
        simp [isHigh]
      · have hne : other ≠ candidate := fun heq => hkey (by rw [heq])
        simp [hkey, hne]
    rw [hfilter]
    by_cases hhigh : isHigh candidate
    · have hcount := List.count_eq_one_of_mem hkeys.of_map hcandidate
      rw [List.count_eq_length_filter] at hcount
      simpa [hhigh, beq_eq_decide] using hcount
    · simp [hhigh]
  unfold countHigh
  induction hplans with
  | nil => rfl
  | @cons candidate item taken items hplan _ ih =>
    obtain ⟨reason, forced, rfl⟩ := hplan
    have hrest := ih fun c hc => hsub c (List.mem_cons_of_mem _ hc)
    have hfirst := hone candidate (hsub candidate List.mem_cons_self)
    rw [List.flatMap_cons, List.length_append, hrest, List.countP_cons, add_comm]
    exact congrArg _ hfirst

theorem map_of_forall₂ {β γ : Type*} {R : Candidate → β → Prop} {f : Candidate → γ} {g : β → γ}
    (hR : ∀ candidate item, R candidate item → g item = f candidate) {items : List β}
    (h : List.Forall₂ R taken items) : items.map g = taken.map f := by
  induction h with
  | nil => rfl
  | cons hrow _ ih => rw [List.map_cons, List.map_cons, hR _ _ hrow, ih]

variable {candidate : Candidate}

theorem Plans.fields {item : PlannedItem} (h : Plans candidate item) :
    item.candidateKey = candidate.candidateKey ∧
      item.auditPriority = candidate.score.auditPriority := by
  obtain ⟨reason, forced, rfl⟩ := h
  exact ⟨rfl, rfl⟩

theorem Excludes.auditPriority {item : ExcludedItem} (h : Excludes candidate item) :
    item.auditPriority = candidate.score.auditPriority := by
  obtain ⟨reason, rfl⟩ := h
  rfl

/-! ### The order of the candidates -/

instance : Std.Total forcedOrder := ⟨fun _ _ => le_total _ _⟩

instance : IsTrans Candidate forcedOrder := ⟨fun _ _ _ => le_trans⟩

instance : Std.Total optionalOrder := ⟨fun _ _ => le_total _ _⟩

instance : IsTrans Candidate optionalOrder := ⟨fun _ _ _ => le_trans⟩

theorem insertionSort_perm {r : Candidate → Candidate → Prop} [DecidableRel r] [Std.Total r]
    [IsTrans Candidate r] (hkey : ∀ a b, r a b → r b a → a.candidateKey = b.candidateKey)
    {l l' : List Candidate} (hkeys : (l.map (·.candidateKey)).Nodup) (h : l'.Perm l) :
    l'.insertionSort r = l.insertionSort r := by
  have hsort := (List.perm_insertionSort r l').trans (h.trans (List.perm_insertionSort r l).symm)
  refine List.Perm.eq_of_pairwise (fun a b ha hb hab hba => ?_) (List.pairwise_insertionSort r l')
    (List.pairwise_insertionSort r l) hsort
  have ha' := (List.perm_insertionSort r l).mem_iff.mp (hsort.mem_iff.mp ha)
  have hb' := (List.perm_insertionSort r l).mem_iff.mp hb
  exact Table.eq_of_key_eq hkeys ha' hb' (hkey a b hab hba)

theorem forcedOrder_key (a b : Candidate) (hab : forcedOrder a b) (hba : forcedOrder b a) :
    a.candidateKey = b.candidateKey :=
  (Prod.ext_iff.mp (toLex.injective (le_antisymm hab hba))).2

theorem optionalOrder_key (a b : Candidate) (hab : optionalOrder a b) (hba : optionalOrder b a) :
    a.candidateKey = b.candidateKey :=
  (Prod.ext_iff.mp (toLex.injective (le_antisymm hab hba))).2

theorem countHigh_perm (h : candidates'.Perm candidates) (items : List PlannedItem) :
    countHigh candidates' items = countHigh candidates items := by
  unfold countHigh
  rw [List.length_flatMap, List.length_flatMap]
  exact congrArg List.sum (List.map_congr_left fun item _ => (h.filter _).length_eq)

def forcedOf (policy : CapacityPolicy) (candidates : List Candidate) : List Candidate :=
  (candidates.filter (isForced policy)).insertionSort forcedOrder

def optionalOf (policy : CapacityPolicy) (candidates : List Candidate) : List Candidate :=
  (candidates.filter fun candidate => !isForced policy candidate).insertionSort optionalOrder

theorem selectPlan_eq (candidates : List Candidate) (policy : CapacityPolicy) :
    selectPlan candidates (candidates.filter (isForced policy)) policy =
      (optionalOf policy candidates).foldl (considerOptional policy)
        { (forcedOf policy candidates).foldl considerForced {} with
          highDisruption := countHigh candidates
            ((forcedOf policy candidates).foldl considerForced {}).planned } := by
  unfold selectPlan
  rw [filter_not_mem_forced]
  rfl

theorem selectPlan_perm (hkeys : (candidates.map (·.candidateKey)).Nodup)
    (h : candidates'.Perm candidates) :
    selectPlan candidates' (candidates'.filter (isForced policy)) policy =
      selectPlan candidates (candidates.filter (isForced policy)) policy := by
  have hsublist : ∀ p : Candidate → Bool, ((candidates.filter p).map (·.candidateKey)).Nodup :=
    fun p => hkeys.sublist (List.filter_sublist.map _)
  have hforced : forcedOf policy candidates' = forcedOf policy candidates :=
    insertionSort_perm forcedOrder_key (hsublist _) (h.filter _)
  have hoptional : optionalOf policy candidates' = optionalOf policy candidates :=
    insertionSort_perm optionalOrder_key (hsublist _) (h.filter _)
  rw [selectPlan_eq, selectPlan_eq, hforced, hoptional, countHigh_perm h]

/-- The forced candidates that are taken, and the budget after them. -/
def takenForced (policy : CapacityPolicy) (candidates : List Candidate) : List Candidate :=
  Greedy.taken admitForced ⟨0, 0⟩ (forcedOf policy candidates)

def refusedForced (policy : CapacityPolicy) (candidates : List Candidate) : List Candidate :=
  Greedy.refused admitForced ⟨0, 0⟩ (forcedOf policy candidates)

def budgetAfterForced (policy : CapacityPolicy) (candidates : List Candidate) : Budget :=
  ⟨effort (takenForced policy candidates), (takenForced policy candidates).countP isHigh⟩

def takenOptional (policy : CapacityPolicy) (candidates : List Candidate) : List Candidate :=
  Greedy.taken (admitOptional policy) (budgetAfterForced policy candidates)
    (optionalOf policy candidates)

def refusedOptional (policy : CapacityPolicy) (candidates : List Candidate) : List Candidate :=
  Greedy.refused (admitOptional policy) (budgetAfterForced policy candidates)
    (optionalOf policy candidates)

theorem passes_perm (policy : CapacityPolicy) (candidates : List Candidate) :
    (takenForced policy candidates ++ refusedForced policy candidates).Perm
        (candidates.filter (isForced policy)) ∧
      (takenOptional policy candidates ++ refusedOptional policy candidates).Perm
        (candidates.filter fun candidate => !isForced policy candidate) :=
  ⟨(Greedy.run_perm _ _ _).trans (List.perm_insertionSort _ _),
    (Greedy.run_perm _ _ _).trans (List.perm_insertionSort _ _)⟩

theorem forced_of_mem (h : candidate ∈ takenForced policy candidates ∨
    candidate ∈ refusedForced policy candidates) :
    candidate ∈ candidates ∧ isForced policy candidate = true :=
  List.mem_filter.mp ((passes_perm policy candidates).1.mem_iff.mp (List.mem_append.mpr h))

theorem optional_of_mem (h : candidate ∈ takenOptional policy candidates ∨
    candidate ∈ refusedOptional policy candidates) :
    candidate ∈ candidates ∧ isForced policy candidate = false := by
  have hmem := List.mem_filter.mp
    ((passes_perm policy candidates).2.mem_iff.mp (List.mem_append.mpr h))
  simpa using hmem

theorem selectPlan_rows (policy : CapacityPolicy)
    (hkeys : (candidates.map (·.candidateKey)).Nodup) :
    List.Forall₂ Plans (takenForced policy candidates ++ takenOptional policy candidates)
        (selectPlan candidates (candidates.filter (isForced policy)) policy).planned ∧
      List.Forall₂ Excludes (refusedForced policy candidates ++ refusedOptional policy candidates)
        (selectPlan candidates (candidates.filter (isForced policy)) policy).excluded := by
  obtain ⟨rows, others, hrows, hothers, hview⟩ := Greedy.pass_run
    (fun state _ _ => considerForced_some state) (fun state _ => considerForced_none state) {}
    (forcedOf policy candidates)
  obtain ⟨hbudget, hlists⟩ := Prod.mk.inj hview
  obtain ⟨hplanned, hexcluded⟩ := Prod.mk.inj hlists
  rw [selectPlan_eq]
  generalize hafter : (forcedOf policy candidates).foldl considerForced {} = after at *
  have hspent : after.spent = effort (takenForced policy candidates) :=
    (congrArg Budget.spent hbudget).trans (forcedPass _)
  have hplanned' : after.planned = rows := hplanned
  have hexcluded' : after.excluded = others := hexcluded
  have hhigh : countHigh candidates after.planned =
      (takenForced policy candidates).countP isHigh := by
    rw [hplanned']
    exact countHigh_eq hkeys (fun c hc => (forced_of_mem (Or.inl hc)).1) hrows
  have hadmitted : ∀ (state : PlanState) candidate budget',
      admitOptional policy state.view.1 candidate = some budget' → ∃ item, Plans candidate item ∧
        (considerOptional policy state candidate).view =
          (budget', state.view.2.1 ++ [item], state.view.2.2) :=
    fun state _ _ => considerOptional_some state
  obtain ⟨rows', others', hrows', hothers', hview'⟩ := Greedy.pass_run hadmitted
    (fun state _ => considerOptional_none state)
    { after with highDisruption := countHigh candidates after.planned }
    (optionalOf policy candidates)
  have hstart : ({ after with highDisruption := countHigh candidates after.planned } :
      PlanState).view.1 = budgetAfterForced policy candidates := by
    unfold PlanState.view budgetAfterForced
    rw [hspent, hhigh]
  rw [hstart] at hrows' hothers'
  obtain ⟨-, hlists'⟩ := Prod.mk.inj hview'
  obtain ⟨hfinal, hrest⟩ := Prod.mk.inj hlists'
  have hfinal' : ((optionalOf policy candidates).foldl (considerOptional policy)
      { after with highDisruption := countHigh candidates after.planned }).planned =
        after.planned ++ rows' := hfinal
  have hrest' : ((optionalOf policy candidates).foldl (considerOptional policy)
      { after with highDisruption := countHigh candidates after.planned }).excluded =
        after.excluded ++ others' := hrest
  rw [hfinal', hrest', hplanned', hexcluded']
  exact ⟨List.rel_append hrows hrows', List.rel_append hothers hothers'⟩

theorem recommend_ok (hdates : ∀ candidate ∈ candidates, ¬ Overflows policy candidate) :
    ∃ plan, recommend candidates policy = .ok plan ∧
      plan.planned =
        (selectPlan candidates (candidates.filter (isForced policy)) policy).planned ∧
      plan.excluded =
        (selectPlan candidates (candidates.filter (isForced policy)) policy).excluded ∧
      plan.blindSpots = (candidates.filter fun candidate => candidate.score.uncovered ∧
        candidate.candidateKey ∉ plan.planned.map (·.candidateKey)).map blindSpot ∧
      plan.uncoveredPriority = round6 ((candidates.map (·.score.auditPriority)).sum -
        (plan.planned.map (·.auditPriority)).sum) := by
  unfold recommend
  rw [forcedCandidates_eq_ok.mpr ⟨hdates, rfl⟩]
  exact ⟨_, rfl, rfl, rfl, rfl, rfl⟩

theorem not_overflows_of_recommend {plan : PlanRecommendation}
    (h : recommend candidates policy = .ok plan) :
    ∀ candidate ∈ candidates, ¬ Overflows policy candidate := by
  unfold recommend at h
  obtain ⟨forced, hforced, -⟩ := bind_eq_ok.mp h
  exact (forcedCandidates_eq_ok.mp hforced).1

theorem filter_taken (policy : CapacityPolicy) (candidates : List Candidate) :
    (takenForced policy candidates ++ takenOptional policy candidates).filter (isForced policy) =
      takenForced policy candidates := by
  have hforced : ∀ c ∈ takenForced policy candidates, isForced policy c = true :=
    fun c hc => (forced_of_mem (Or.inl hc)).2
  have hoptional : ∀ c ∈ takenOptional policy candidates, ¬ isForced policy c = true :=
    fun c hc => by simp [(optional_of_mem (Or.inl hc)).2]
  rw [List.filter_append, List.filter_eq_self.mpr hforced, List.filter_eq_nil_iff.mpr hoptional,
    List.append_nil]

theorem effort_append (l l' : List Candidate) : effort (l ++ l') = effort l + effort l' := by
  unfold effort
  rw [List.map_append, List.sum_append]

theorem refusedOptional_full (h : candidate ∈ refusedOptional policy candidates)
    (hexpertise : candidate.expertiseAvailable) :
    policy.plannableDays < effort (takenForced policy candidates ++
        takenOptional policy candidates) + candidate.effortDays ∨
      (candidate.disruption = .high ∧ policy.maxHighDisruption ≤
        (takenForced policy candidates ++ takenOptional policy candidates).countP isHigh) := by
  have hmono : ∀ b c other b', admitOptional policy b c = none →
      admitOptional policy b other = some b' → admitOptional policy b' c = none :=
    fun b c other b' => admitOptional_none_of_some
  have hnone := Greedy.run_maximal hmono _ _ candidate h
  obtain ⟨⟨hspent, -⟩, hhigh, -⟩ := optionalPass policy (budgetAfterForced policy candidates)
    (optionalOf policy candidates)
  have hfull := admitOptional_eq_none.mp hnone hexpertise
  rw [hspent, hhigh] at hfull
  rw [effort_append, List.countP_append]
  exact hfull.symm

theorem exists_plan (hkeys : (candidates.map (·.candidateKey)).Nodup)
    (hdates : ∀ candidate ∈ candidates, ¬ Overflows policy candidate) :
    ∃ plan taken refused, recommend candidates policy = .ok plan ∧
      PlanLaws candidates policy plan taken refused := by
  obtain ⟨plan, hplan, hplanned, hexcluded, hblind, huncovered⟩ := recommend_ok hdates
  obtain ⟨hrows, hothers⟩ := selectPlan_rows policy hkeys
  rw [← hplanned] at hrows
  rw [← hexcluded] at hothers
  obtain ⟨hforced, hoptional⟩ := passes_perm policy candidates
  obtain ⟨⟨hspent, hspent_le⟩, hhigh, hhigh_le⟩ :=
    optionalPass policy (budgetAfterForced policy candidates) (optionalOf policy candidates)
  have hpartition : ((takenForced policy candidates ++ takenOptional policy candidates) ++
      (refusedForced policy candidates ++ refusedOptional policy candidates)).Perm candidates := by
    have hswap := List.perm_append_comm_assoc (takenOptional policy candidates)
      (refusedForced policy candidates) (refusedOptional policy candidates)
    rw [List.append_assoc]
    refine (hswap.append_left _).trans ?_
    rw [← List.append_assoc]
    exact (hforced.append hoptional).trans (List.filter_append_perm _ candidates)
  have hpriorities := map_of_forall₂ (fun c i (h : Plans c i) => h.fields.2) hrows
  have hexclusions := map_of_forall₂ (fun c i (h : Excludes c i) => h.auditPriority) hothers
  have hsum : (candidates.map (·.score.auditPriority)).sum - (plan.planned.map
      (·.auditPriority)).sum = (plan.excluded.map (·.auditPriority)).sum := by
    rw [hpriorities, hexclusions, ← (hpartition.map _).sum_eq, List.map_append, List.sum_append,
      add_sub_cancel_left]
  refine ⟨plan, _, _, hplan, hpartition, hrows, hothers, ?_, ?_, ?_, ?_, ⟨hsum, ?_⟩, ?_⟩
  · rw [filter_taken, effort_append]
    exact hspent.symm.le.trans hspent_le
  · rw [filter_taken, List.countP_append]
    exact hhigh.symm.le.trans hhigh_le
  · intro candidate hcandidate hfree hexpertise
    rcases List.mem_append.mp hcandidate with hmem | hmem
    · rw [(forced_of_mem (Or.inr hmem)).2] at hfree
      exact absurd hfree (by simp)
    · exact refusedOptional_full hmem hexpertise
  · intro candidates' hperm
    obtain ⟨plan', hplan', hplanned', hexcluded', -⟩ :=
      recommend_ok fun c hc => hdates c (hperm.mem_iff.mp hc)
    rw [selectPlan_perm hkeys hperm] at hplanned' hexcluded'
    exact ⟨plan', hplan', hplanned'.trans hplanned.symm, hexcluded'.trans hexcluded.symm⟩
  · rw [huncovered, hsum]
  · rw [hblind, map_of_forall₂ (fun c i (h : Plans c i) => h.fields.1) hrows]
    refine congrArg _ (List.filter_congr fun candidate hcandidate => ?_)
    -- with keys of their own, a key is planned if and only if its candidate is
    have hkey : candidate.candidateKey ∈ (takenForced policy candidates ++
        takenOptional policy candidates).map (·.candidateKey) ↔
        candidate ∈ takenForced policy candidates ++ takenOptional policy candidates := by
      constructor
      · intro hmem
        obtain ⟨other, hother, heq⟩ := List.mem_map.mp hmem
        have hin := hpartition.mem_iff.mp (List.mem_append_left _ hother)
        rwa [Table.eq_of_key_eq hkeys hcandidate hin heq.symm]
      · exact fun hmem => List.mem_map.mpr ⟨candidate, hmem, rfl⟩
    simp only [hkey]

/-- **Plans.**  Candidates with keys of their own have a plan with all its laws if and only if no
date overflows. -/
theorem recommend_iff (hkeys : (candidates.map (·.candidateKey)).Nodup) (policy : CapacityPolicy) :
    (∃ plan taken refused, recommend candidates policy = .ok plan ∧
      PlanLaws candidates policy plan taken refused) ↔
      ∀ candidate ∈ candidates, ¬ Overflows policy candidate := by
  constructor
  · rintro ⟨plan, -, -, hplan, -⟩
    exact not_overflows_of_recommend hplan
  · exact exists_plan hkeys

end Plan

def sampleFactors : RiskFactors where
  impact := 1 / 2
  likelihood := 1

def sampleScore : RiskScore where
  policyId := "default-v1"
  inherent := 1 / 2
  residual := 1 / 2
  rating := .high
  confidence := 0
  auditPriority := 3 / 4
  uncovered := true
  components := components sampleFactors defaultPolicy 0
  rationale := rationale sampleFactors defaultPolicy 0

def sampleCandidate : Candidate where
  candidateKey := "payments"
  entityRef := "payments-platform"
  riskRef := "R-1"
  title := "Payments"
  objective := "Test the controls over payments"
  score := sampleScore
  effortDays := 10
  criticality := 5

def sampleCapacity : CapacityPolicy where
  horizonStart := 739000
  horizonEnd := 739365
  availableDays := 100

def lateCandidate : Candidate := { sampleCandidate with lastAuditedOn := some dateMax }

/-- The candidate has no plan: adding the interval to its date raises. -/
theorem late_audit_raises : recommend [lateCandidate] sampleCapacity = .error .overflow ∧
    ¬ ∃ plan taken refused, recommend [lateCandidate] sampleCapacity = .ok plan ∧
      PlanLaws [lateCandidate] sampleCapacity plan taken refused := by
  have hraises : forcedCandidates sampleCapacity [lateCandidate] = .error .overflow := by
    decide +kernel
  have herror : recommend [lateCandidate] sampleCapacity = .error .overflow := by
    unfold recommend
    rw [hraises]
    rfl
  refine ⟨herror, ?_⟩
  rintro ⟨plan, -, -, hplan, -⟩
  rw [herror] at hplan
  exact absurd hplan (by simp)

/-- One that has to be covered, one that fits beside it, and one that does not. -/
def mixedCandidates : List Candidate :=
  [{ sampleCandidate with
      candidateKey := "archive", candidateKey_length := by decide
      criticality := 1, criticality_range := by decide +kernel
      effortDays := 500, effort_pos := by decide +kernel },
    { sampleCandidate with
      candidateKey := "ledger", candidateKey_length := by decide
      criticality := 1, criticality_range := by decide +kernel
      effortDays := 20, effort_pos := by decide +kernel },
    sampleCandidate]

theorem mixedCandidates_planned : (recommend mixedCandidates sampleCapacity).toOption.map
    (fun plan => (plan.planned.map (·.candidateKey), plan.excluded.map (·.candidateKey))) =
      some (["payments", "ledger"], ["archive"]) := by
  decide +kernel

/-- The first one is forced, the second is planned and the third is refused. -/
theorem recommend_sample : ∃ plan taken refused,
    recommend mixedCandidates sampleCapacity = .ok plan ∧
      plan.planned.map (·.candidateKey) = ["payments", "ledger"] ∧
      plan.excluded.map (·.candidateKey) = ["archive"] ∧
      PlanLaws mixedCandidates sampleCapacity plan taken refused := by
  have hkeys : (mixedCandidates.map (·.candidateKey)).Nodup := by decide
  obtain ⟨plan, taken, refused, hplan, hlaws⟩ :=
    (recommend_iff hkeys sampleCapacity).mpr fun candidate hmem h => by
      obtain ⟨-, day, hday, -⟩ := h
      have hnever : ∀ candidate ∈ mixedCandidates, candidate.lastAuditedOn = none := by
        simp [mixedCandidates, sampleCandidate]
      rw [hnever candidate hmem] at hday
      cases hday
  have hkeys := mixedCandidates_planned
  rw [hplan] at hkeys
  obtain ⟨hplanned, hexcluded⟩ := Prod.mk.inj (Option.some.inj hkeys)
  exact ⟨plan, taken, refused, hplan, hplanned, hexcluded, hlaws⟩

end Portfolio
