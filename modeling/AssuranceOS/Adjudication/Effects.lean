/-
What a call of the adjudication service does.

`Effect S db call db'` lists the ways in which a call changes the database:
not at all, by a new finding, or by a `Move` of one finding, which comes with
the guards under which the source makes the change.  `step_effect` is the
inversion lemma.  Only the contents of the audit ledger and of the outbox are
left open.
-/
import AssuranceOS.Adjudication.Service

namespace Adjudication

open Checked AdjudicationService Table

/-! ### Reading queries and insertions -/

section Queries

variable {db db' : Database}
variable {α : Type} {tenantId engagementId : String} {now : Timestamp} {hex : String → String}
  {payload : Payload}
variable {rows : List α} {aggregateType : AggregateType} {aggregateId idempotencyKey : String}

theorem of_find? {P : α → Prop} [DecidablePred P] {x : α} (h : rows.find? (fun r => P r) = some x) :
    x ∈ rows ∧ P x := by
  have hP := List.find?_some h
  exact ⟨List.mem_of_find?_eq_some h, of_decide_eq_true hP⟩

theorem requireFinding_eq_ok {findingId : String} {f : Finding}
    (h : requireFinding db tenantId findingId = .ok f) :
    f ∈ db.findings ∧ f.tenantId = tenantId ∧ f.findingId = findingId :=
  of_find? (ofOption_eq_ok.mp h)

theorem requireAction_eq_ok {actionId : String} {a : RemediationAction}
    (h : requireAction db tenantId actionId = .ok a) :
    a ∈ db.actions ∧ a.tenantId = tenantId ∧ a.actionId = actionId :=
  of_find? (ofOption_eq_ok.mp h)

theorem getDispute_eq_some {disputeId : String} {d : FindingDispute}
    (h : db.getDispute tenantId disputeId = some d) :
    d ∈ db.disputes ∧ d.tenantId = tenantId ∧ d.disputeId = disputeId :=
  of_find? h

theorem insert_bind_eq_ok {β ε κ : Type} [DecidableEq κ] {err : ε} {key : α → κ} {row : α}
    {k : List α → Except ε β} {r : β} :
    (ofOption err (Table.insert? key row rows) >>= k) = .ok r ↔
      key row ∉ rows.map key ∧ k (rows ++ [row]) = .ok r := by
  simp only [ofOption_bind_eq_ok, Table.insert?_eq_some, and_assoc, exists_and_left,
    exists_eq_left]

theorem addDecision_eq_ok {d : ApprovalDecision} (h : db.addDecision d = .ok db') :
    d.decisionId ∉ db.decisions.map (·.decisionId) ∧
      db' = { db with decisions := db.decisions ++ [d] } := by
  obtain ⟨hfresh, h⟩ := insert_bind_eq_ok.mp h
  exact ⟨hfresh, (Except.ok.inj h).symm⟩

theorem emitAudit_eq_ok (h : emitAudit db now hex tenantId engagementId payload = .ok db') :
    ∃ events, db' = { db with auditEvents := events } := by
  obtain ⟨-, h⟩ := insert_bind_eq_ok.mp h
  exact ⟨_, (Except.ok.inj h).symm⟩

theorem emit_eq_ok
    (h : emit db now hex tenantId engagementId aggregateType aggregateId payload idempotencyKey
      = .ok db') :
    ∃ events outbox, db' = { db with auditEvents := events, outbox := outbox } := by
  obtain ⟨db₁, h₁, h⟩ := bind_eq_ok.mp h
  obtain ⟨events, rfl⟩ := emitAudit_eq_ok h₁
  obtain ⟨-, h⟩ := require_bind_eq_ok.mp h
  obtain ⟨-, h⟩ := insert_bind_eq_ok.mp h
  exact ⟨events, _, (Except.ok.inj h).symm⟩

theorem emit_return_eq_ok {a r : α}
    (h : (emit db now hex tenantId engagementId aggregateType aggregateId payload idempotencyKey
      >>= fun db => .ok (db, a)) = .ok (db', r)) :
    ∃ events outbox, db' = { db with auditEvents := events, outbox := outbox } := by
  obtain ⟨db₁, h₁, h⟩ := bind_eq_ok.mp h
  obtain ⟨rfl, -⟩ := Prod.mk.inj (Except.ok.inj h)
  exact emit_eq_ok h₁

end Queries

/-- What a call writes about one finding: at most one row of each table. -/
structure Change where
  finding : Option Finding := none
  decisions : Write ApprovalDecision := .none
  assessments : Write MaterialityAssessment := .none
  qualityReviews : Write QualityReview := .none
  disputes : Write FindingDispute := .none
  actions : Write RemediationAction := .none
  responses : Write ManagementResponse := .none
  retests : Write Retest := .none

def Change.apply (c : Change) (db : Database) : Database :=
  { db with
    findings := c.finding.elim db.findings fun f => Table.put Finding.findingId f db.findings
    decisions := c.decisions.apply ApprovalDecision.decisionId db.decisions
    assessments := c.assessments.apply MaterialityAssessment.assessmentId db.assessments
    qualityReviews := c.qualityReviews.apply QualityReview.reviewId db.qualityReviews
    disputes := c.disputes.apply FindingDispute.disputeId db.disputes
    actions := c.actions.apply RemediationAction.actionId db.actions
    responses := c.responses.apply ManagementResponse.responseId db.responses
    retests := c.retests.apply Retest.retestId db.retests }

/-- The checks of `resolve_dispute` before the transition. -/
def MayResolve (S : AdjudicationService) (request : DisputeResolutionRequest)
    (dispute : FindingDispute) (f : Finding) : Prop :=
  S.isAutomated request.resolvedBy = false ∧ dispute.status = .open ∧
    S.identity request.resolvedBy ≠ S.identity dispute.raisedBy ∧
    ¬ (PyString.truthy f.authoredBy ∧
      S.identity request.resolvedBy = S.identity (f.authoredBy.getD ""))

instance {S : AdjudicationService} {request : DisputeResolutionRequest}
    {dispute : FindingDispute} {f : Finding} : Decidable (MayResolve S request dispute f) :=
  inferInstanceAs (Decidable (_ ∧ _ ∧ _ ∧ _))

/-- The changes that the operations make to the finding `f`, with the guards
under which they make them. -/
inductive Move (S : AdjudicationService) (db : Database) (call : Call) (f : Finding) :
    Change → Prop
  | decided (request : AdjudicationRequest) (op : call.op = .adjudicate f.tenantId request)
      (target : f.findingId = request.findingId)
      (human : S.isAutomated request.actorId = false)
      (first : isReplay db f.tenantId f request = false)
      (accepted : S.requireDecision db f.tenantId f request = .ok ())
      (unique : newId call.hex "apd" ∉ db.decisions.map (·.decisionId)) :
      Move S db call f
        { finding := some { f with status := decisionTarget request.decision }
          decisions := .insert (decisionRow call.now call.hex f.tenantId f
            (.human request.decision) request.actorId request.reason) }
  | assessed (request : MaterialityRequest) (op : call.op = .assessMateriality f.tenantId request)
      (target : f.findingId = request.findingId) (raised : Finding)
      (raise : raised = escalated
        (assess request.inputs (request.policy.getD defaultPolicy)).severityFloor f)
      (unique : newId call.hex "mat" ∉ db.assessments.map (·.assessmentId)) :
      Move S db call f
        { finding := some raised
          assessments := .insert (S.assessmentRow call.now call.hex f.tenantId raised request) }
  | overridden (request : SeverityOverrideRequest)
      (op : call.op = .overrideSeverity f.tenantId request)
      (target : f.findingId = request.findingId)
      (human : S.isAutomated request.actorId = false) (assessment : MaterialityAssessment)
      (current : db.latestAssessment f.tenantId f.findingId (S.hashOf f) = some assessment)
      (below : severityRank request.severity < severityRank assessment.severityFloor)
      (unique : newId call.hex "apd" ∉ db.decisions.map (·.decisionId)) :
      Move S db call f
        { finding := some { f with severity := request.severity }
          assessments := .put
            (S.overriddenRow { f with severity := request.severity } request assessment)
          decisions := .insert (decisionRow call.now call.hex f.tenantId f .severityOverride
            request.actorId request.reason) }
  | reviewed (request : QualityReviewRequest) (op : call.op = .reviewQuality f.tenantId request)
      (target : f.findingId = request.findingId)
      (unique : newId call.hex "qrv" ∉ db.qualityReviews.map (·.reviewId)) :
      Move S db call f
        { qualityReviews := .insert (S.reviewRow db call.now call.hex f.tenantId f request) }
  | disputed (request : DisputeRequest) (op : call.op = .raiseDispute f.tenantId request)
      (target : f.findingId = request.findingId)
      (closed : db.openDispute f.tenantId f.findingId = none)
      (allowed : FindingStatus.disputed ∈ allowedTransitions f.status)
      (unique : newId call.hex "dsp" ∉ db.disputes.map (·.disputeId)) :
      Move S db call f
        { finding := some { f with status := .disputed }
          disputes := .insert (S.disputeRow db call.now call.hex f.tenantId f request) }
  | resolved (request : DisputeResolutionRequest)
      (op : call.op = .resolveDispute f.tenantId request) (dispute : FindingDispute)
      (mem : dispute ∈ db.disputes) (dispute_id : dispute.disputeId = request.disputeId)
      (owner : dispute.owner = f.owner) (may : MayResolve S request dispute f)
      (allowed : resolutionTarget dispute request.resolution ∈ allowedTransitions .disputed)
      (unique : newId call.hex "apd" ∉ db.decisions.map (·.decisionId)) :
      Move S db call f
        { finding := some { f with status := resolutionTarget dispute request.resolution }
          disputes := .put (resolvedRow call.now request dispute)
          decisions := .insert (decisionRow call.now call.hex f.tenantId f
            (.dispute request.resolution) request.resolvedBy request.reason) }
  | opened (request : RemediationRequest) (op : call.op = .openRemediation f.tenantId request)
      (target : f.findingId = request.findingId)
      (first : db.openActionFor f.tenantId f.findingId = none)
      (allowed : FindingStatus.remediationOpen ∈ allowedTransitions f.status)
      (unique : newId call.hex "rma" ∉ db.actions.map (·.actionId)) :
      Move S db call f
        { finding := some { f with status := .remediationOpen }
          actions := .insert (actionRow call.now call.hex f.tenantId f request) }
  | ticketRefused (actionId : String) (writer : Option TicketWriter)
      (op : call.op = .syncRemediationTicket f.tenantId actionId writer)
      (action : RemediationAction) (mem : action ∈ db.actions)
      (action_id : action.actionId = actionId) (owner : action.owner = f.owner)
      (unfiled : PyString.truthy action.externalRef = false) (error : String)
      (reply : (writer.getD nullTicketWriter).createOrGet (S.ticketRequest f action) =
        .error error) :
      Move S db call f { actions := .put (ticketFailedRow error action) }
  | ticketFiled (actionId : String) (writer : Option TicketWriter)
      (op : call.op = .syncRemediationTicket f.tenantId actionId writer)
      (action : RemediationAction) (mem : action ∈ db.actions)
      (action_id : action.actionId = actionId) (owner : action.owner = f.owner)
      (unfiled : PyString.truthy action.externalRef = false) (ticket : TicketRef)
      (reply : (writer.getD nullTicketWriter).createOrGet (S.ticketRequest f action) =
        .ok ticket) :
      Move S db call f { actions := .put (ticketFiledRow call.now ticket action) }
  | submitted (submission : ClosureSubmission)
      (op : call.op = .submitClosure f.tenantId submission) (action : RemediationAction)
      (mem : action ∈ db.actions) (action_id : action.actionId = submission.actionId)
      (owner : action.owner = f.owner)
      (evidence : ¬ (action.closureEvidenceRequired ∧ submission.closureEvidenceIds = []))
      (allowed : FindingStatus.remediationDeclaredComplete ∈ allowedTransitions f.status)
      (unique : newId call.hex "mgr" ∉ db.responses.map (·.responseId)) :
      Move S db call f
        { finding := some { f with status := .remediationDeclaredComplete }
          actions := .put (declaredRow call.now submission action)
          responses := .insert
            (responseRow db call.now call.hex f.tenantId f action submission) }
  | retested (request : RetestRequest) (op : call.op = .retest f.tenantId request)
      (action : RemediationAction) (mem : action ∈ db.actions)
      (action_id : action.actionId = request.actionId) (owner : action.owner = f.owner)
      (independent : S.requireIndependence f action request.performedBy = .ok ())
      (first : (db.retestsOf f.tenantId action.actionId).find? (fun prior =>
        prior.idempotencyKey = request.idempotencyKey) = none)
      (allowed : FindingStatus.retestInProgress ∈ allowedTransitions f.status)
      (evidence : ¬ (request.outcome.isClosing ∧ request.evidenceIds = []))
      (unique : newId call.hex "rts" ∉ db.retests.map (·.retestId)) :
      Move S db call f
        { finding := some { f with status := retestTarget request.outcome }
          actions := .put (retestedRow request.outcome action)
          retests := .insert (retestRow call.now call.hex f.tenantId f action request) }
  | reopened (request : RemediationRequest)
      (op : call.op = .reopenForRemediation f.tenantId f.findingId request)
      (action : RemediationAction)
      (found : db.openActionFor f.tenantId f.findingId = some action)
      (allowed : FindingStatus.remediationOpen ∈ allowedTransitions f.status) :
      Move S db call f
        { finding := some { f with status := .remediationOpen }
          actions := .put (reopenedRow request action) }

/-- What a call does to the database. -/
inductive Effect (S : AdjudicationService) (db : Database) (call : Call) : Database → Prop
  /-- A refused call, a replay, or a second request to open the same remediation. -/
  | nothing : Effect S db call db
  | proposed (f : Finding) (decisions : Write ApprovalDecision) (events : List AuditEvent)
      (outbox : List OutboxEvent) (unique : f.findingId ∉ db.findings.map (·.findingId))
      (status : f.status = .proposed ∨ f.status = .rejected)
      (verdict : decisions = .none ∨ ∃ d, d.decisionId ∉ db.decisions.map (·.decisionId) ∧
        d.decisionType = .skepticReject ∧ d.owner = f.owner ∧ decisions = .insert d) :
      Effect S db call
        { db with
          findings := db.findings ++ [f]
          decisions := decisions.apply ApprovalDecision.decisionId db.decisions
          auditEvents := events, outbox := outbox }
  | moved {f : Finding} {c : Change} (mem : f ∈ db.findings) (move : Move S db call f c)
      (events : List AuditEvent) (outbox : List OutboxEvent) :
      Effect S db call { c.apply db with auditEvents := events, outbox := outbox }

section Inversion

variable {S : AdjudicationService} {db db' : Database} {now : Timestamp} {hex : String → String}
  {tenantId : String}

theorem propose_effect {engagementId : String} {finding : ProposedFinding} {authoredBy : String}
    {skeptic : Option SkepticReviewer} {rows : List ExceptionRow} {r : String × SkepticVerdict}
    (h : propose db now hex tenantId engagementId finding authoredBy skeptic rows
      = .ok (db', r)) :
    Effect S db ⟨now, hex, .propose tenantId engagementId finding authoredBy skeptic rows⟩ db' := by
  obtain ⟨verdict, -, h⟩ := bind_eq_ok.mp h
  obtain ⟨db₁, h₁, h⟩ := bind_eq_ok.mp h
  obtain ⟨-, h₁⟩ := require_bind_eq_ok.mp h₁
  obtain ⟨-, h₁⟩ := require_bind_eq_ok.mp h₁
  obtain ⟨hfresh, h₁⟩ := insert_bind_eq_ok.mp h₁
  obtain rfl := Except.ok.inj h₁
  obtain ⟨db₂, h₂, h⟩ := bind_eq_ok.mp h
  obtain ⟨events, outbox, rfl⟩ := emit_return_eq_ok h
  unfold recordVerdict at h₂
  split at h₂
  · obtain rfl := Except.ok.inj h₂
    exact Effect.proposed _ .none events outbox hfresh
      (by simp [proposedRow, ‹verdict.supported = _›]) (Or.inl rfl)
  · obtain ⟨hunique, rfl⟩ := addDecision_eq_ok h₂
    exact Effect.proposed _ (.insert _) events outbox hfresh (by simp [proposedRow])
      (Or.inr ⟨_, hunique, rfl, rfl, rfl⟩)

theorem adjudicate_effect {request : AdjudicationRequest} {r : FindingStatus}
    (h : S.adjudicate db now hex tenantId request = .ok (db', r)) :
    Effect S db ⟨now, hex, .adjudicate tenantId request⟩ db' := by
  obtain ⟨hhuman, h⟩ := require_bind_eq_ok.mp h
  obtain ⟨f, hf, h⟩ := bind_eq_ok.mp h
  obtain ⟨hmem, rfl, hid⟩ := requireFinding_eq_ok hf
  split at h
  next =>
    obtain ⟨rfl, -⟩ := Prod.mk.inj (Except.ok.inj h)
    exact Effect.nothing
  next hfirst =>
    obtain ⟨⟨⟩, haccepted, h⟩ := bind_eq_ok.mp h
    obtain ⟨db₁, h₁, h⟩ := bind_eq_ok.mp h
    obtain ⟨hunique, rfl⟩ := addDecision_eq_ok h₁
    obtain ⟨events, outbox, rfl⟩ := emit_return_eq_ok h
    have move : Move S db ⟨now, hex, .adjudicate f.tenantId request⟩ f _ :=
      .decided request rfl hid (by simpa using hhuman) (by simpa using hfirst) haccepted hunique
    exact .moved hmem move events outbox

variable {r : MaterialityAssessment}

theorem assessMateriality_effect {request : MaterialityRequest}
    (h : S.assessMateriality db now hex tenantId request = .ok (db', r)) :
    Effect S db ⟨now, hex, .assessMateriality tenantId request⟩ db' := by
  obtain ⟨f, hf, h⟩ := bind_eq_ok.mp h
  obtain ⟨hmem, rfl, hid⟩ := requireFinding_eq_ok hf
  obtain ⟨db₁, h₁, h⟩ := bind_eq_ok.mp h
  obtain ⟨hunique, h₁⟩ := insert_bind_eq_ok.mp h₁
  obtain rfl := Except.ok.inj h₁
  obtain ⟨events, outbox, rfl⟩ := emit_return_eq_ok h
  have move : Move S db ⟨now, hex, .assessMateriality f.tenantId request⟩ f _ :=
    .assessed request rfl hid _ rfl hunique
  exact .moved hmem move events outbox

variable {request : SeverityOverrideRequest} {actionId : String} {writer : Option TicketWriter}

theorem overrideSeverity_eq_ok (h : S.overrideSeverity db now hex tenantId request = .ok (db', r)) :
    ∃ f ∈ db.findings, f.tenantId = tenantId ∧ f.findingId = request.findingId ∧
      ∃ assessment, db.latestAssessment f.tenantId f.findingId (S.hashOf f) = some assessment ∧
      ∃ c, Move S db ⟨now, hex, .overrideSeverity tenantId request⟩ f c ∧
        c.finding = some { f with severity := request.severity } ∧
        severityRank request.severity < severityRank assessment.severityFloor ∧
        ∃ events outbox, db' = { c.apply db with auditEvents := events, outbox := outbox } := by
  obtain ⟨hhuman, h⟩ := require_bind_eq_ok.mp h
  obtain ⟨f, hf, h⟩ := bind_eq_ok.mp h
  obtain ⟨hmem, rfl, hid⟩ := requireFinding_eq_ok hf
  obtain ⟨assessment, hcurrent, h⟩ := ofOption_bind_eq_ok.mp h
  obtain ⟨hbelow, h⟩ := require_bind_eq_ok.mp h
  obtain ⟨db₁, h₁, h⟩ := bind_eq_ok.mp h
  obtain ⟨hunique, rfl⟩ := addDecision_eq_ok h₁
  obtain ⟨events, outbox, rfl⟩ := emit_return_eq_ok h
  have move : Move S db ⟨now, hex, .overrideSeverity f.tenantId request⟩ f _ :=
    .overridden request rfl hid (by simpa using hhuman) assessment hcurrent hbelow hunique
  exact ⟨f, hmem, rfl, hid, assessment, hcurrent, _, move, rfl, hbelow, events, outbox, rfl⟩

theorem overrideSeverity_effect
    (h : S.overrideSeverity db now hex tenantId request = .ok (db', r)) :
    Effect S db ⟨now, hex, .overrideSeverity tenantId request⟩ db' := by
  obtain ⟨f, hmem, rfl, -, -, -, c, move, -, -, events, outbox, rfl⟩ := overrideSeverity_eq_ok h
  exact .moved hmem move events outbox

theorem reviewQuality_effect {request : QualityReviewRequest} {r : QualityReviewOutcome}
    (h : S.reviewQuality db now hex tenantId request = .ok (db', r)) :
    Effect S db ⟨now, hex, .reviewQuality tenantId request⟩ db' := by
  obtain ⟨f, hf, h⟩ := bind_eq_ok.mp h
  obtain ⟨hmem, rfl, hid⟩ := requireFinding_eq_ok hf
  obtain ⟨db₁, h₁, h⟩ := bind_eq_ok.mp h
  obtain ⟨hunique, h₁⟩ := insert_bind_eq_ok.mp h₁
  obtain rfl := Except.ok.inj h₁
  obtain ⟨events, outbox, rfl⟩ := emit_return_eq_ok h
  have move : Move S db ⟨now, hex, .reviewQuality f.tenantId request⟩ f _ :=
    .reviewed request rfl hid hunique
  exact .moved hmem move events outbox

theorem raiseDispute_effect {request : DisputeRequest} {r : String}
    (h : S.raiseDispute db now hex tenantId request = .ok (db', r)) :
    Effect S db ⟨now, hex, .raiseDispute tenantId request⟩ db' := by
  obtain ⟨f, hf, h⟩ := bind_eq_ok.mp h
  obtain ⟨hmem, rfl, hid⟩ := requireFinding_eq_ok hf
  obtain ⟨hclosed, h⟩ := require_bind_eq_ok.mp h
  obtain ⟨hallowed, h⟩ := require_bind_eq_ok.mp h
  obtain ⟨db₁, h₁, h⟩ := bind_eq_ok.mp h
  obtain ⟨-, h₁⟩ := require_bind_eq_ok.mp h₁
  obtain ⟨hunique, h₁⟩ := insert_bind_eq_ok.mp h₁
  obtain rfl := Except.ok.inj h₁
  obtain ⟨events, outbox, rfl⟩ := emit_return_eq_ok h
  have move : Move S db ⟨now, hex, .raiseDispute f.tenantId request⟩ f _ :=
    .disputed request rfl hid (by simpa using hclosed) hallowed hunique
  exact .moved hmem move events outbox

theorem resolveDispute_effect {request : DisputeResolutionRequest} {r : FindingStatus}
    (h : S.resolveDispute db now hex tenantId request = .ok (db', r)) :
    Effect S db ⟨now, hex, .resolveDispute tenantId request⟩ db' := by
  obtain ⟨hhuman, h⟩ := require_bind_eq_ok.mp h
  obtain ⟨dispute, hdispute, h⟩ := ofOption_bind_eq_ok.mp h
  obtain ⟨hdmem, hdtenant, hdid⟩ := getDispute_eq_some hdispute
  obtain ⟨hopen, h⟩ := require_bind_eq_ok.mp h
  obtain ⟨f, hf, h⟩ := bind_eq_ok.mp h
  obtain ⟨hmem, rfl, hid⟩ := requireFinding_eq_ok hf
  obtain ⟨hraised, h⟩ := require_bind_eq_ok.mp h
  obtain ⟨hauthor, h⟩ := require_bind_eq_ok.mp h
  obtain ⟨hallowed, h⟩ := require_bind_eq_ok.mp h
  obtain ⟨db₁, h₁, h⟩ := bind_eq_ok.mp h
  obtain ⟨hunique, rfl⟩ := addDecision_eq_ok h₁
  obtain ⟨events, outbox, rfl⟩ := emit_return_eq_ok h
  have move : Move S db ⟨now, hex, .resolveDispute f.tenantId request⟩ f _ :=
    .resolved request rfl dispute hdmem hdid (Prod.ext hdtenant hid.symm)
      ⟨by simpa using hhuman, hopen, hraised, hauthor⟩ hallowed hunique
  exact .moved hmem move events outbox

theorem openRemediation_effect {request : RemediationRequest} {r : String × Bool}
    (h : openRemediation db now hex tenantId request = .ok (db', r)) :
    Effect S db ⟨now, hex, .openRemediation tenantId request⟩ db' := by
  obtain ⟨f, hf, h⟩ := bind_eq_ok.mp h
  obtain ⟨hmem, rfl, hid⟩ := requireFinding_eq_ok hf
  split at h
  · obtain ⟨-, h⟩ := require_bind_eq_ok.mp h
    obtain ⟨rfl, -⟩ := Prod.mk.inj (Except.ok.inj h)
    exact Effect.nothing
  · obtain ⟨hallowed, h⟩ := require_bind_eq_ok.mp h
    obtain ⟨db₁, h₁, h⟩ := bind_eq_ok.mp h
    obtain ⟨hunique, h₁⟩ := insert_bind_eq_ok.mp h₁
    obtain rfl := Except.ok.inj h₁
    obtain ⟨events, outbox, rfl⟩ := emit_return_eq_ok h
    have move : Move S db ⟨now, hex, .openRemediation f.tenantId request⟩ f _ :=
      .opened request rfl hid ‹_› hallowed hunique
    exact .moved hmem move events outbox

/-- The read session finds the action and its finding; the action has no ticket yet
when the provider is asked. -/
theorem prepareTicket_eq_ok {r : TicketSync ⊕ TicketJob}
    (h : S.prepareTicket db tenantId actionId writer = .ok r) :
    ∃ action f, requireAction db tenantId actionId = .ok action ∧ f ∈ db.findings ∧
      action.owner = f.owner ∧ ∀ job, r = .inr job → PyString.truthy action.externalRef = false ∧
        job.writer = writer.getD nullTicketWriter ∧ job.request = S.ticketRequest f action := by
  obtain ⟨action, haction, h⟩ := bind_eq_ok.mp h
  obtain ⟨-, hatenant, -⟩ := requireAction_eq_ok haction
  obtain ⟨f, hf, h⟩ := bind_eq_ok.mp h
  obtain ⟨hmem, htenant, hid⟩ := requireFinding_eq_ok hf
  refine ⟨action, f, haction, hmem, Prod.ext (hatenant.trans htenant.symm) hid.symm, ?_⟩
  split at h
  next =>
    obtain rfl := Except.ok.inj h
    exact fun job hjob => absurd hjob nofun
  next hunfiled =>
    obtain ⟨-, h⟩ := require_bind_eq_ok.mp h
    obtain ⟨-, h⟩ := require_bind_eq_ok.mp h
    obtain rfl := Except.ok.inj h
    rintro job ⟨⟩
    exact ⟨by simpa using hunfiled, rfl, rfl⟩

theorem syncRemediationTicket_effect {r : Except AdjudicationError TicketSync}
    (h : S.syncRemediationTicket db now hex tenantId actionId writer = .ok (db', r)) :
    Effect S db ⟨now, hex, .syncRemediationTicket tenantId actionId writer⟩ db' := by
  obtain ⟨prepared, hprepared, h⟩ := bind_eq_ok.mp h
  obtain ⟨action, f, haction, hmem, howner, hjob⟩ := prepareTicket_eq_ok hprepared
  obtain ⟨hamem, hatenant, haid⟩ := requireAction_eq_ok haction
  obtain rfl : f.tenantId = tenantId := (Prod.ext_iff.mp howner).1.symm.trans hatenant
  rcases prepared with sync | job
  · obtain ⟨rfl, -⟩ := Prod.mk.inj (Except.ok.inj h)
    exact Effect.nothing
  · obtain ⟨hunfiled, hwriter, hrequest⟩ := hjob job rfl
    dsimp only at h
    split at h
    next error hreply =>
      obtain ⟨db₁, h₁, h⟩ := bind_eq_ok.mp h
      obtain ⟨rfl, -⟩ := Prod.mk.inj (Except.ok.inj h)
      rw [recordTicketFailure, ofOption_eq_ok.mp haction] at h₁
      obtain ⟨events, rfl⟩ := emitAudit_eq_ok h₁
      have move : Move S db ⟨now, hex, .syncRemediationTicket f.tenantId actionId writer⟩ f _ :=
        .ticketRefused actionId writer rfl action hamem haid howner hunfiled error
          (hwriter ▸ hrequest ▸ hreply)
      exact .moved hmem move events db.outbox
    next ticket hreply =>
      obtain ⟨⟨db₁, sync⟩, h₁, h⟩ := bind_eq_ok.mp h
      obtain ⟨rfl, -⟩ := Prod.mk.inj (Except.ok.inj h)
      obtain ⟨action₁, haction₁, h₁⟩ := bind_eq_ok.mp h₁
      obtain rfl := Except.ok.inj (haction₁.symm.trans haction)
      rw [if_neg (by simp [hunfiled])] at h₁
      obtain ⟨events, outbox, rfl⟩ := emit_return_eq_ok h₁
      have move : Move S db ⟨now, hex, .syncRemediationTicket f.tenantId actionId writer⟩ f _ :=
        .ticketFiled actionId writer rfl action₁ hamem haid howner hunfiled ticket
          (hwriter ▸ hrequest ▸ hreply)
      exact .moved hmem move events outbox

theorem submitClosure_effect {submission : ClosureSubmission} {r : String}
    (h : submitClosure db now hex tenantId submission = .ok (db', r)) :
    Effect S db ⟨now, hex, .submitClosure tenantId submission⟩ db' := by
  obtain ⟨action, haction, h⟩ := bind_eq_ok.mp h
  obtain ⟨hamem, hatenant, haid⟩ := requireAction_eq_ok haction
  obtain ⟨f, hf, h⟩ := bind_eq_ok.mp h
  obtain ⟨hmem, rfl, hid⟩ := requireFinding_eq_ok hf
  obtain ⟨hevidence, h⟩ := require_bind_eq_ok.mp h
  obtain ⟨hallowed, h⟩ := require_bind_eq_ok.mp h
  obtain ⟨db₁, h₁, h⟩ := bind_eq_ok.mp h
  obtain ⟨-, h₁⟩ := require_bind_eq_ok.mp h₁
  obtain ⟨hunique, h₁⟩ := insert_bind_eq_ok.mp h₁
  obtain rfl := Except.ok.inj h₁
  obtain ⟨events, outbox, rfl⟩ := emit_return_eq_ok h
  have move : Move S db ⟨now, hex, .submitClosure f.tenantId submission⟩ f _ :=
    .submitted submission rfl action hamem haid (Prod.ext hatenant hid.symm) hevidence hallowed
      hunique
  exact .moved hmem move events outbox

theorem retest_effect {request : RetestRequest} {r : String × FindingStatus}
    (h : S.retest db now hex tenantId request = .ok (db', r)) :
    Effect S db ⟨now, hex, .retest tenantId request⟩ db' := by
  obtain ⟨action, haction, h⟩ := bind_eq_ok.mp h
  obtain ⟨hamem, hatenant, haid⟩ := requireAction_eq_ok haction
  obtain ⟨f, hf, h⟩ := bind_eq_ok.mp h
  obtain ⟨hmem, rfl, hid⟩ := requireFinding_eq_ok hf
  obtain ⟨⟨⟩, hindependent, h⟩ := bind_eq_ok.mp h
  split at h
  next =>
    obtain ⟨rfl, -⟩ := Prod.mk.inj (Except.ok.inj h)
    exact Effect.nothing
  next hfirst =>
    obtain ⟨hallowed, h⟩ := require_bind_eq_ok.mp h
    obtain ⟨hevidence, h⟩ := require_bind_eq_ok.mp h
    obtain ⟨db₁, h₁, h⟩ := bind_eq_ok.mp h
    obtain ⟨hunique, h₁⟩ := insert_bind_eq_ok.mp h₁
    obtain rfl := Except.ok.inj h₁
    obtain ⟨events, outbox, rfl⟩ := emit_return_eq_ok h
    have move : Move S db ⟨now, hex, .retest f.tenantId request⟩ f _ :=
      .retested request rfl action hamem haid (Prod.ext hatenant hid.symm) hindependent hfirst
        hallowed hevidence hunique
    exact .moved hmem move events outbox

theorem reopenForRemediation_effect {findingId : String} {request : RemediationRequest}
    {r : String}
    (h : reopenForRemediation db now hex tenantId findingId request = .ok (db', r)) :
    Effect S db ⟨now, hex, .reopenForRemediation tenantId findingId request⟩ db' := by
  obtain ⟨f, hf, h⟩ := bind_eq_ok.mp h
  obtain ⟨hmem, rfl, rfl⟩ := requireFinding_eq_ok hf
  obtain ⟨hallowed, h⟩ := require_bind_eq_ok.mp h
  obtain ⟨action, hfound, h⟩ := ofOption_bind_eq_ok.mp h
  obtain ⟨events, outbox, rfl⟩ := emit_return_eq_ok h
  have move : Move S db ⟨now, hex, .reopenForRemediation f.tenantId f.findingId request⟩ f _ :=
    .reopened request rfl action hfound hallowed
  exact .moved hmem move events outbox

theorem exec_effect {call : Call} (h : call.exec S db = .ok db') : Effect S db call db' := by
  obtain ⟨now, hex, op⟩ := call
  cases op with
  | propose =>
    obtain ⟨⟨db₁, r⟩, hop, rfl⟩ := map_eq_ok.mp h
    exact propose_effect hop
  | adjudicate =>
    obtain ⟨⟨db₁, r⟩, hop, rfl⟩ := map_eq_ok.mp h
    exact adjudicate_effect hop
  | assessMateriality =>
    obtain ⟨⟨db₁, r⟩, hop, rfl⟩ := map_eq_ok.mp h
    exact assessMateriality_effect hop
  | overrideSeverity =>
    obtain ⟨⟨db₁, r⟩, hop, rfl⟩ := map_eq_ok.mp h
    exact overrideSeverity_effect hop
  | reviewQuality =>
    obtain ⟨⟨db₁, r⟩, hop, rfl⟩ := map_eq_ok.mp h
    exact reviewQuality_effect hop
  | raiseDispute =>
    obtain ⟨⟨db₁, r⟩, hop, rfl⟩ := map_eq_ok.mp h
    exact raiseDispute_effect hop
  | resolveDispute =>
    obtain ⟨⟨db₁, r⟩, hop, rfl⟩ := map_eq_ok.mp h
    exact resolveDispute_effect hop
  | openRemediation =>
    obtain ⟨⟨db₁, r⟩, hop, rfl⟩ := map_eq_ok.mp h
    exact openRemediation_effect hop
  | syncRemediationTicket =>
    obtain ⟨⟨db₁, r⟩, hop, rfl⟩ := map_eq_ok.mp h
    exact syncRemediationTicket_effect hop
  | submitClosure =>
    obtain ⟨⟨db₁, r⟩, hop, rfl⟩ := map_eq_ok.mp h
    exact submitClosure_effect hop
  | retest =>
    obtain ⟨⟨db₁, r⟩, hop, rfl⟩ := map_eq_ok.mp h
    exact retest_effect hop
  | reopenForRemediation =>
    obtain ⟨⟨db₁, r⟩, hop, rfl⟩ := map_eq_ok.mp h
    exact reopenForRemediation_effect hop

theorem step_effect (S : AdjudicationService) (db : Database) (call : Call) :
    Effect S db call (step S db call) := by
  unfold step
  split
  · exact exec_effect ‹_›
  · exact Effect.nothing

end Inversion

end Adjudication
