/-
The queries and row insertions of `adjudication/repository.py`, with
`AuditEventRepository.append` and `OutboxRepository.add` of
`db/repositories.py`.

Every query is a selection from a table followed by an `ORDER BY`, which is a
stable sort by the key the source lists; a scalar query takes the first row.
An insertion that violates a primary key, a unique constraint or a foreign key
raises.
-/
import Mathlib.Data.Prod.Lex
import Mathlib.Data.String.Basic
import AssuranceOS.Lib.Checked
import AssuranceOS.Adjudication.Store

namespace Adjudication

open Checked

/-- `ORDER BY column`. -/
def orderBy {α : Type} {κ : Type} [LinearOrder κ] (column : α → κ) (rows : List α) : List α :=
  rows.insertionSort fun a b => column a ≤ column b

/-- `ORDER BY column DESC`. -/
def orderByDesc {α : Type} {κ : Type} [LinearOrder κ] (column : α → κ) (rows : List α) : List α :=
  rows.insertionSort fun a b => column b ≤ column a

section Orders

variable {α κ : Type} [LinearOrder κ] {column : α → κ} {rows : List α}

theorem perm_orderBy : (orderBy column rows).Perm rows :=
  List.perm_insertionSort _ _

theorem pairwise_orderBy : (orderBy column rows).Pairwise fun a b => column a ≤ column b := by
  have : Std.Total fun a b => column a ≤ column b := ⟨fun a b => le_total _ _⟩
  have : IsTrans α fun a b => column a ≤ column b := ⟨fun _ _ _ => le_trans⟩
  exact List.pairwise_insertionSort _ _

theorem pairwise_orderByDesc :
    (orderByDesc column rows).Pairwise fun a b => column b ≤ column a := by
  have : Std.Total fun a b => column b ≤ column a := ⟨fun a b => le_total _ _⟩
  have : IsTrans α fun a b => column b ≤ column a := ⟨fun _ _ _ hab hbc => hbc.trans hab⟩
  exact List.pairwise_insertionSort _ _

variable {x : α}

@[simp] theorem mem_orderBy : x ∈ orderBy column rows ↔ x ∈ rows :=
  List.mem_insertionSort _

@[simp] theorem mem_orderByDesc : x ∈ orderByDesc column rows ↔ x ∈ rows :=
  List.mem_insertionSort _

/-- The first row in descending order has the greatest column, and is the one that has it where the
column is unique. -/
theorem head?_orderByDesc_iff (hunique : ∀ x ∈ rows, ∀ y ∈ rows, column x = column y → x = y) :
    (orderByDesc column rows).head? = some x ↔
      x ∈ rows ∧ ∀ y ∈ rows, column y ≤ column x := by
  have hfirst : ∀ z, (orderByDesc column rows).head? = some z →
      z ∈ rows ∧ ∀ y ∈ rows, column y ≤ column z := by
    intro z hz
    obtain ⟨rest, hsorted⟩ := List.head?_eq_some_iff.mp hz
    have hpairwise : (orderByDesc column rows).Pairwise fun a b => column b ≤ column a :=
      pairwise_orderByDesc
    rw [hsorted, List.pairwise_cons] at hpairwise
    refine ⟨mem_orderByDesc.mp (List.mem_of_mem_head? hz), fun y hy => ?_⟩
    have hmem : y ∈ orderByDesc column rows := mem_orderByDesc.mpr hy
    rw [hsorted, List.mem_cons] at hmem
    rcases hmem with rfl | hrest
    · exact le_rfl
    · exact hpairwise.1 y hrest
  constructor
  · exact hfirst x
  · rintro ⟨hx, hmax⟩
    rcases hhead : (orderByDesc column rows).head? with _ | z
    · rw [List.head?_eq_none_iff] at hhead
      exact absurd (mem_orderByDesc.mpr hx) (by rw [hhead]; exact List.not_mem_nil)
    · obtain ⟨hz, hzmax⟩ := hfirst z hhead
      rw [hunique z hz x hx (le_antisymm (hmax z hz) (hzmax x hx))]

variable {P : α → Prop} [DecidablePred P]

theorem of_head?_orderBy (h : (orderBy column (rows.filter fun r => P r)).head? = some x) :
    x ∈ rows ∧ P x := by
  have hmem := mem_orderBy.mp (List.mem_of_mem_head? h)
  simpa using hmem

theorem of_head?_orderByDesc (h : (orderByDesc column (rows.filter fun r => P r)).head? = some x) :
    x ∈ rows ∧ P x := by
  have hmem := mem_orderByDesc.mp (List.mem_of_mem_head? h)
  simpa using hmem

theorem not_of_head?_orderBy (h : (orderBy column (rows.filter fun r => P r)).head? = none)
    (hx : x ∈ rows) : ¬ P x := by
  intro hP
  rw [List.head?_eq_none_iff] at h
  have hmem : x ∈ orderBy column (rows.filter fun r => P r) := by simpa using ⟨hx, hP⟩
  exact List.not_mem_nil (h ▸ hmem)

theorem not_of_head?_orderByDesc (h : (orderByDesc column (rows.filter fun r => P r)).head? = none)
    (hx : x ∈ rows) :
    ¬ P x := by
  intro hP
  rw [List.head?_eq_none_iff] at h
  have hmem : x ∈ orderByDesc column (rows.filter fun r => P r) := by simpa using ⟨hx, hP⟩
  exact List.not_mem_nil (h ▸ hmem)

end Orders

namespace Database

variable (db : Database)

def getFinding (tenantId findingId : String) : Option Finding :=
  db.findings.find? fun f => f.tenantId = tenantId ∧ f.findingId = findingId

def findByCode (tenantId engagementId code : String) : Option Finding :=
  (orderByDesc (·.version) (db.findings.filter fun f =>
    f.tenantId = tenantId ∧ f.engagementId = engagementId ∧ f.code = code)).head?

def putFinding (f : Finding) : Database :=
  { db with findings := Table.put Finding.findingId f db.findings }

def addFinding (f : Finding) : Except AdjudicationError Database := do
  require (f.tenantId ∈ db.tenants ∧ f.engagementId ∈ db.engagements) .integrityError
  require (∀ g ∈ db.findings,
    (g.engagementId, g.code, g.version) ≠ (f.engagementId, f.code, f.version)) .integrityError
  let rows ← ofOption .integrityError (Table.insert? Finding.findingId f db.findings)
  return { db with findings := rows }

def decisionsOf (tenantId findingId : String) : List ApprovalDecision :=
  orderBy (fun d => toLex (d.decidedAt, d.decisionId)) (db.decisions.filter fun d =>
    d.tenantId = tenantId ∧ d.findingId = findingId)

def addDecision (d : ApprovalDecision) : Except AdjudicationError Database := do
  let rows ← ofOption .integrityError (Table.insert? ApprovalDecision.decisionId d db.decisions)
  return { db with decisions := rows }

def getAction (tenantId actionId : String) : Option RemediationAction :=
  db.actions.find? fun a => a.tenantId = tenantId ∧ a.actionId = actionId

def openActionFor (tenantId findingId : String) : Option RemediationAction :=
  (orderBy (·.createdAt) (db.actions.filter fun a =>
    a.tenantId = tenantId ∧ a.findingId = findingId)).head?

def putAction (a : RemediationAction) : Database :=
  { db with actions := Table.put RemediationAction.actionId a db.actions }

def addAction (a : RemediationAction) : Except AdjudicationError Database := do
  let rows ← ofOption .integrityError (Table.insert? RemediationAction.actionId a db.actions)
  return { db with actions := rows }

def responsesOf (tenantId findingId : String) : List ManagementResponse :=
  orderBy (·.version) (db.responses.filter fun r =>
    r.tenantId = tenantId ∧ r.findingId = findingId)

def addResponse (r : ManagementResponse) : Except AdjudicationError Database := do
  require (∀ s ∈ db.responses, (s.findingId, s.version) ≠ (r.findingId, r.version)) .integrityError
  let rows ← ofOption .integrityError (Table.insert? ManagementResponse.responseId r db.responses)
  return { db with responses := rows }

def retestsOf (tenantId actionId : String) : List Retest :=
  orderBy (·.createdAt) (db.retests.filter fun r =>
    r.tenantId = tenantId ∧ r.actionId = actionId)

def addRetest (r : Retest) : Except AdjudicationError Database := do
  let rows ← ofOption .integrityError (Table.insert? Retest.retestId r db.retests)
  return { db with retests := rows }

def latestAssessment (tenantId findingId contentHash : String) : Option MaterialityAssessment :=
  (orderByDesc (·.assessedAt) (db.assessments.filter fun a =>
    a.tenantId = tenantId ∧ a.findingId = findingId ∧ a.contentHash = contentHash)).head?

def putAssessment (a : MaterialityAssessment) : Database :=
  { db with assessments := Table.put MaterialityAssessment.assessmentId a db.assessments }

def addAssessment (a : MaterialityAssessment) : Except AdjudicationError Database := do
  let rows ← ofOption .integrityError
    (Table.insert? MaterialityAssessment.assessmentId a db.assessments)
  return { db with assessments := rows }

def passingReview (tenantId findingId contentHash : String) : Option QualityReview :=
  (orderByDesc (·.reviewedAt) (db.qualityReviews.filter fun r =>
    r.tenantId = tenantId ∧ r.findingId = findingId ∧ r.contentHash = contentHash ∧ r.passed)).head?

def qualityReviewsOf (tenantId findingId : String) : List QualityReview :=
  orderBy (·.reviewedAt) (db.qualityReviews.filter fun r =>
    r.tenantId = tenantId ∧ r.findingId = findingId)

def addQualityReview (r : QualityReview) : Except AdjudicationError Database := do
  let rows ← ofOption .integrityError (Table.insert? QualityReview.reviewId r db.qualityReviews)
  return { db with qualityReviews := rows }

def getDispute (tenantId disputeId : String) : Option FindingDispute :=
  db.disputes.find? fun d => d.tenantId = tenantId ∧ d.disputeId = disputeId

def disputesOf (tenantId findingId : String) : List FindingDispute :=
  orderBy (·.roundNo) (db.disputes.filter fun d =>
    d.tenantId = tenantId ∧ d.findingId = findingId)

/-- The open dispute of the latest round. -/
def openDispute (tenantId findingId : String) : Option FindingDispute :=
  (orderByDesc (·.roundNo) (db.disputes.filter fun d =>
    d.tenantId = tenantId ∧ d.findingId = findingId ∧ d.status = .open)).head?

def putDispute (d : FindingDispute) : Database :=
  { db with disputes := Table.put FindingDispute.disputeId d db.disputes }

def addDispute (d : FindingDispute) : Except AdjudicationError Database := do
  require (∀ e ∈ db.disputes, (e.findingId, e.roundNo) ≠ (d.findingId, d.roundNo)) .integrityError
  let rows ← ofOption .integrityError (Table.insert? FindingDispute.disputeId d db.disputes)
  return { db with disputes := rows }

/-- Events of the service carry no task, so the stream is the engagement's, or
the tenant's when the engagement id is empty. -/
def streamId (tenantId engagementId : String) : String :=
  if engagementId ≠ "" then engagementId else "tenant:" ++ tenantId

def nextSequence (tenantId stream : String) : Nat :=
  ((db.auditEvents.filter fun e => e.tenantId = tenantId ∧ e.streamId = stream).map
    (·.sequenceNo)).foldr max 0 + 1

def appendEvent (e : AuditEvent) : Except AdjudicationError Database := do
  let rows ← ofOption .integrityError (Table.insert? AuditEvent.eventId e db.auditEvents)
  return { db with auditEvents := rows }

def addOutbox (e : OutboxEvent) : Except AdjudicationError Database := do
  require (∀ o ∈ db.outbox, (o.tenantId, o.idempotencyKey) ≠ (e.tenantId, e.idempotencyKey))
    .integrityError
  let rows ← ofOption .integrityError (Table.insert? OutboxEvent.outboxId e db.outbox)
  return { db with outbox := rows }

end Database

end Adjudication
