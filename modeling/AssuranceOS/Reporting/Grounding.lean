/-
What a rendered report rests on (`check_claim`, `render`).

A report renders when its claims have no issues.  A list of limitations counts as stated when it
has an entry, whatever the entry says, and evidence that was collected for no engagement is not
held to be that of another one.

* `inScope_of_objection` — a record without objection is admissible and in scope;
* `Passed` — what a material claim without issues has passed;
* `grounded_iff` — the claims of a rendered report are grounded exactly when no material claim
  leans on blank limitations alone.
-/
import AssuranceOS.Reporting.Terms

namespace Reporting

def ClaimInput.Discloses (claim : ClaimInput) : Prop :=
  ∃ limitation ∈ claim.limitations, PyString.strip limitation ≠ ""

section Grounded

/- Whether evidence that was collected for no engagement counts as collected for this one. -/
variable (unassigned : Bool) (index : List (String × EvidenceView)) (terms : Terms)
  (claim : ClaimInput)

/-- Collected for this engagement and dated in the period, or justified, or allowed. -/
structure InScope (evidenceId : String) (record : EvidenceView) : Prop where
  engagement : record.engagementId = some terms.engagementId ∨
    (unassigned = true ∧ record.engagementId = none) ∨ terms.justified evidenceId = true ∨
    terms.policy.allowCrossEngagement = true
  dated : (terms.periodStart ≤ dateOf (record.sourceTime.getD record.collectedAt) ∧
      dateOf (record.sourceTime.getD record.collectedAt) ≤ terms.periodEnd) ∨
    terms.justified evidenceId = true ∨ terms.policy.allowOutOfPeriod = true

/-- A cited record that can carry the claim. -/
structure Supports (e : String × EvidenceView) : Prop where
  cited : e ∈ supporting index claim
  admissible : e.2.isAdmissible = true
  scope : InScope unassigned terms e.1 e.2

/-- Support, or a stated limitation; and no contradiction that is not disclosed. -/
structure Grounded : Prop where
  resolved : ∀ evidenceId ∈ claim.cited, ∃ record, index.lookup evidenceId = some record
  supported : claim.material = true → claim.Discloses ∨
    (∃ e, Supports unassigned index terms claim e) ∧
      ((∀ e, Supports unassigned index terms claim e → e.2.tainted = true) →
        terms.policy.allowTaintedSoleSupport = true)
  disclosed : claim.material = true → claim.contradictingEvidenceIds ≠ [] → claim.Discloses

/-- Blank limitations stand for nothing: beside them the claim cites support and no contradiction.
When evidence of no engagement does not count, some support is of an engagement or let in. -/
def LeansOnSupport : Prop :=
  (∀ limitation ∈ claim.limitations, PyString.strip limitation = "") →
    (claim.limitations ≠ [] →
      claim.contradictingEvidenceIds = [] ∧ claim.supportingEvidenceIds ≠ []) ∧
    (unassigned = false → ∃ e ∈ supporting index claim,
      (e.2.engagementId ≠ none ∨ terms.justified e.1 = true ∨
        terms.policy.allowCrossEngagement = true) ∧
      (e.2.tainted = false ∨ terms.policy.allowTaintedSoleSupport = true))

end Grounded

variable {sha256 : Vault.Bytes → String} {call : RenderCall} {document : JsonText.Object}
  {unassigned : Bool} {index : List (String × EvidenceView)} {terms : Terms} {claim : ClaimInput}

theorem not_discloses :
    ¬ claim.Discloses ↔ ∀ limitation ∈ claim.limitations, PyString.strip limitation = "" := by
  unfold ClaimInput.Discloses
  simp

/-! ### What the checks leave -/

theorem inScope_of_objection {evidenceId : String} {record : EvidenceView}
    (h : objection terms claim evidenceId record = none)
    (hassigned : unassigned = true ∨ record.engagementId ≠ none ∨
      terms.justified evidenceId = true ∨ terms.policy.allowCrossEngagement = true) :
    record.isAdmissible = true ∧ InScope unassigned terms evidenceId record := by
  unfold objection at h
  dsimp only at h
  split at h
  · cases h
  · rename_i hadmissible
    split at h
    · cases h
    · rename_i hcross
      split at h
      · cases h
      · rename_i hperiod
        refine ⟨by simpa using hadmissible, ?_, ?_⟩
        · by_cases hnone : record.engagementId = none
          · rcases hassigned with hun | hne | hlet
            · exact Or.inr (Or.inl ⟨hun, hnone⟩)
            · exact absurd hnone hne
            · exact Or.inr (Or.inr hlet)
          · by_cases hthis : record.engagementId = some terms.engagementId
            · exact Or.inl hthis
            · refine Or.inr (Or.inr ?_)
              by_contra hlet
              rw [not_or] at hlet
              exact hcross ⟨hnone, hthis, hlet.2, hlet.1⟩
        · by_cases hin : terms.periodStart ≤ dateOf (record.sourceTime.getD record.collectedAt) ∧
              dateOf (record.sourceTime.getD record.collectedAt) ≤ terms.periodEnd
          · exact Or.inl hin
          · refine Or.inr ?_
            by_contra hlet
            rw [not_or] at hlet
            exact hperiod ⟨hin, hlet.2, hlet.1⟩

/-- What a material claim without issues has passed. -/
structure Passed (index : List (String × EvidenceView)) (terms : Terms) (claim : ClaimInput) :
    Prop where
  resolved : ∀ evidenceId ∈ claim.cited, ∃ record, index.lookup evidenceId = some record
  objections : ∀ e ∈ supporting index claim, objection terms claim e.1 e.2 = none
  supported : supporting index claim ≠ [] ∨ claim.limitations ≠ []
  untainted : supporting index claim = [] ∨ (∃ e ∈ supporting index claim, e.2.tainted = false) ∨
    terms.policy.allowTaintedSoleSupport = true
  contradictions : claim.contradictingEvidenceIds = [] ∨ claim.limitations ≠ []

theorem passed_of_checkClaim (h : checkClaim index terms claim = [])
    (hmaterial : claim.material = true) : Passed index terms claim := by
  have hresolved := lookup_of_checkClaim h
  unfold checkClaim at h
  obtain ⟨-, h⟩ := List.append_eq_nil_iff.mp h
  rw [if_pos hmaterial] at h
  obtain ⟨h, hcontradiction⟩ := List.append_eq_nil_iff.mp h
  obtain ⟨h, htainted⟩ := List.append_eq_nil_iff.mp h
  obtain ⟨hobjections, hunsupported⟩ := List.append_eq_nil_iff.mp h
  have hadmissible := admissible_eq hobjections
  refine ⟨hresolved, supportIssues_eq_nil.mp hobjections, ?_, ?_, ?_⟩
  · unfold unsupportedIssue at hunsupported
    split at hunsupported
    · cases hunsupported
    · rename_i hnot
      rw [hadmissible, List.map_eq_nil_iff, not_and_or] at hnot
      exact hnot
  · unfold taintedIssue at htainted
    split at htainted
    · cases htainted
    · rename_i hnot
      rw [hadmissible] at hnot
      by_contra hall
      simp only [not_or, not_exists, not_and, Bool.not_eq_false] at hall
      refine hnot ⟨by simpa using hall.1, ?_, by simpa using hall.2.2⟩
      simpa using fun id record => hall.2.1 (id, record)
  · unfold contradictionIssue at hcontradiction
    split at hcontradiction
    · cases hcontradiction
    · rename_i hnot
      rw [not_and_or, not_not] at hnot
      exact hnot

theorem supporting_ne_nil (h : Passed index terms claim) :
    supporting index claim ≠ [] ↔ claim.supportingEvidenceIds ≠ [] := by
  unfold supporting
  rw [ne_eq, List.filterMap_eq_nil_iff, ne_eq, List.eq_nil_iff_forall_not_mem]
  refine not_congr ⟨fun hnone id hid => ?_, fun hnone id hid => absurd hid (hnone id)⟩
  obtain ⟨record, hrecord⟩ := h.resolved id
    (List.mem_append_left _ (List.mem_append_left _ hid))
  have hmissing := hnone id hid
  simp [hrecord] at hmissing

theorem supported_iff :
    ((∃ e, Supports unassigned index terms claim e) ∧
      ((∀ e, Supports unassigned index terms claim e → e.2.tainted = true) →
        terms.policy.allowTaintedSoleSupport = true)) ↔
    ∃ e, Supports unassigned index terms claim e ∧
      (e.2.tainted = false ∨ terms.policy.allowTaintedSoleSupport = true) := by
  constructor
  · rintro ⟨⟨e, he⟩, hallowed⟩
    by_cases hall : ∀ e, Supports unassigned index terms claim e → e.2.tainted = true
    · exact ⟨e, he, Or.inr (hallowed hall)⟩
    · simp only [not_forall, Bool.not_eq_true] at hall
      obtain ⟨e', he', huntainted⟩ := hall
      exact ⟨e', he', Or.inl huntainted⟩
  · rintro ⟨e, he, hclean⟩
    refine ⟨⟨e, he⟩, fun hall => ?_⟩
    rcases hclean with huntainted | hallowed
    · exact absurd (hall e he) (by simp [huntainted])
    · exact hallowed

/-- A material claim without issues is grounded when its blank limitations stand for nothing. -/
theorem grounded_of_leans (h : Passed index terms claim)
    (hleans : LeansOnSupport unassigned index terms claim) :
    Grounded unassigned index terms claim := by
  refine ⟨h.resolved, fun _ => ?_, fun _ hcontradicted => ?_⟩
  · by_cases hstates : claim.Discloses
    · exact Or.inl hstates
    · refine Or.inr (supported_iff.mpr ?_)
      obtain ⟨hblank, hassigned⟩ := hleans (not_discloses.mp hstates)
      have hsupported : supporting index claim ≠ [] := by
        by_cases hlimitations : claim.limitations = []
        · exact h.supported.resolve_right (not_not.mpr hlimitations)
        · exact (supporting_ne_nil h).mpr (hblank hlimitations).2
      cases unassigned with
      | false =>
        obtain ⟨e, he, hlet, hclean⟩ := hassigned rfl
        obtain ⟨hadmissible, hscope⟩ := inScope_of_objection (h.objections e he) (Or.inr hlet)
        exact ⟨e, ⟨he, hadmissible, hscope⟩, hclean⟩
      | true =>
        have hsupports : ∀ e ∈ supporting index claim, Supports true index terms claim e := by
          intro e he
          obtain ⟨hadmissible, hscope⟩ := inScope_of_objection (h.objections e he) (Or.inl rfl)
          exact ⟨he, hadmissible, hscope⟩
        rcases h.untainted with hnil | ⟨e, he, huntainted⟩ | hallowed
        · exact absurd hnil hsupported
        · exact ⟨e, hsupports e he, Or.inl huntainted⟩
        · obtain ⟨e, he⟩ := List.exists_mem_of_ne_nil _ hsupported
          exact ⟨e, hsupports e he, Or.inr hallowed⟩
  · by_contra hstates
    obtain ⟨hblank, -⟩ := hleans (not_discloses.mp hstates)
    have hlimitations := h.contradictions.resolve_left hcontradicted
    exact hcontradicted (hblank hlimitations).1

theorem leans_of_grounded (hmaterial : claim.material = true)
    (h : Grounded unassigned index terms claim) : LeansOnSupport unassigned index terms claim := by
  intro hblank
  have hstates := not_discloses.mpr hblank
  obtain ⟨e, he, hclean⟩ := supported_iff.mp ((h.supported hmaterial).resolve_left hstates)
  refine ⟨fun _ => ⟨?_, ?_⟩, fun hassigned => ⟨e, he.cited, ?_, hclean⟩⟩
  · by_contra hcontradicted
    exact hstates (h.disclosed hmaterial hcontradicted)
  · intro hnil
    have hcited := he.cited
    unfold supporting at hcited
    simp [hnil] at hcited
  · rcases he.scope.engagement with hthis | ⟨hun, -⟩ | hlet
    · exact Or.inl (by simp [hthis])
    · exact absurd hun (by simp [hassigned])
    · exact Or.inr hlet

/-- **What a rendered report rests on.**  All its claims are grounded exactly when no material claim
leans on blank limitations, or on evidence of no engagement where that does not count. -/
theorem grounded_iff (h : render sha256 call = .ok document) :
    (∀ claim ∈ call.request.claims, Grounded unassigned call.index call.terms claim) ↔
      ∀ claim ∈ call.request.claims, claim.material = true →
        LeansOnSupport unassigned call.index call.terms claim := by
  have hissues := (List.append_eq_nil_iff.mp (render_eq_ok h).1).1
  have hchecked : ∀ claim ∈ call.request.claims, checkClaim call.index call.terms claim = [] :=
    List.flatMap_eq_nil_iff.mp hissues
  constructor
  · intro hall claim hclaim hmaterial
    exact leans_of_grounded hmaterial (hall claim hclaim)
  · intro hall claim hclaim
    by_cases hmaterial : claim.material = true
    · exact grounded_of_leans (passed_of_checkClaim (hchecked claim hclaim) hmaterial)
        (hall claim hclaim hmaterial)
    · exact ⟨lookup_of_checkClaim (hchecked claim hclaim), fun hm => absurd hm hmaterial,
        fun hm => absurd hm hmaterial⟩

/-- The report of a justified reuse is grounded, also where evidence of no engagement does not
count. -/
theorem justified_report_grounded : ∃ document,
    render Vault.spelled (sampleCall false [sampleJustification]) = .ok document ∧
    ∀ claim ∈ (sampleCall false [sampleJustification]).request.claims,
      Grounded false (sampleCall false [sampleJustification]).index
        (sampleCall false [sampleJustification]).terms claim := by
  obtain ⟨document, h⟩ := sampleCall_renders Vault.spelled
  refine ⟨document, h, (grounded_iff h).mpr fun claim hclaim _ => ?_⟩
  obtain rfl : claim = sampleClaim := List.mem_singleton.mp hclaim
  refine fun _ => ⟨fun hne => absurd rfl hne, fun _ => ⟨("evidence", sampleEvidence), ?_, ?_⟩⟩
  · exact List.mem_singleton_self _
  · exact ⟨Or.inl nofun, Or.inl rfl⟩

/-- A claim without support, with a contradicting record and a blank limitation. -/
def blankClaim : ClaimInput :=
  { sampleClaim with
    supportingEvidenceIds := []
    contradictingEvidenceIds := ["evidence"]
    limitations := [" "] }

def blankCall : RenderCall :=
  { sampleCall false [] with
    request :=
      { sampleRequest false [] with
        claims := [blankClaim]
        claims_ne_nil := List.cons_ne_nil _ _
        keys_nodup := List.nodup_singleton _
        referenced_supplied := sampleReferenced } }

/-- The blank limitation lets the claim through. -/
theorem blank_limitation_renders : ∃ document, render Vault.spelled blankCall = .ok document ∧
    ∀ unassigned, ¬ ∀ claim ∈ blankCall.request.claims,
      Grounded unassigned blankCall.index blankCall.terms claim := by
  obtain ⟨document, h⟩ : ∃ document, render Vault.spelled blankCall = .ok document :=
    render_of_issues (by decide +kernel)
  refine ⟨document, h, fun unassigned hall => ?_⟩
  have hdisclosed := (hall blankClaim (List.mem_singleton_self _)).disclosed rfl nofun
  exact absurd hdisclosed (not_discloses.mpr (by decide))

end Reporting
