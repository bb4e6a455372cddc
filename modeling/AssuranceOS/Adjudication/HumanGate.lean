/-
The human gate, and author, reviewers and approver.

Approvals, severity overrides and resolutions are refused for an actor whose lower-cased id starts
with a configured prefix (`isAutomated`).  The independence checks compare trimmed and lower-cased ids
(`identity`), and the two readings of an id differ.

`lastApproval` is the approval that stands at the end of a run.  The approver is compared with the
latest passing reviewer when the approval is given, and with nobody else: not with the author, not
with the other reviewers, and not with those who review afterwards.
-/
import AssuranceOS.Adjudication.Approval

namespace Adjudication

open Table AdjudicationService

/-- Trimmed and lower-cased, the id starts with a lower-cased prefix. -/
def CarriesPrefix (S : AdjudicationService) (actorId : String) : Bool :=
  PyString.startswith (S.identity actorId) (S.agentRolePrefixes.map (PyString.lower S.unicode))

/-- An id that carries a prefix begins with it, and the prefix is configured in
lower case. -/
def Plain (S : AdjudicationService) (actorId : String) : Prop :=
  CarriesPrefix S actorId → actorId.toList.head?.any PyString.isSpace = false ∧
    PyString.startswith (S.identity actorId) S.agentRolePrefixes

/-- Who approves, overrides the severity or resolves a dispute. -/
def Op.gatedActor? : Op → Option String
  | .adjudicate _ request => if request.decision = .approve then some request.actorId else none
  | .overrideSeverity _ request => some request.actorId
  | .resolveDispute _ request => some request.resolvedBy
  | _ => none

def DecisionType.isGated : DecisionType → Bool
  | .human .approve | .severityOverride | .dispute _ => true
  | _ => false

/-- No decision behind the gate is on the record for an automated actor. -/
structure HumanMade (S : AdjudicationService) (decisions : List ApprovalDecision)
    (assessments : List MaterialityAssessment) (disputes : List FindingDispute) : Prop where
  decisions : ∀ d ∈ decisions, d.decisionType.isGated → ¬ CarriesPrefix S d.actorId
  overrides : ∀ a ∈ assessments, ∀ actor ∈ a.overrideBy, ¬ CarriesPrefix S actor
  resolutions : ∀ d ∈ disputes, ∀ actor ∈ d.resolvedBy, ¬ CarriesPrefix S actor

section HumanGate

variable {S : AdjudicationService} {db : Database} {call : Call} {f : Finding} {c : Change}
  {calls : List Call}

theorem not_carriesPrefix {actorId : String} (h : S.isAutomated actorId = false)
    (hplain : Plain S actorId) : ¬ CarriesPrefix S actorId := by
  intro hcarries
  obtain ⟨hblank, hstart⟩ := hplain hcarries
  have hhead : ∀ c, actorId.toList.head? = some c → ¬ PyString.isSpace c := by
    intro c hc hspace
    rw [hc, Option.any_some, hspace] at hblank
    exact Bool.false_ne_true hblank.symm
  have hgate : S.isAutomated actorId := PyString.startswith_lower_of_strip hhead hstart
  rw [h] at hgate
  exact Bool.false_ne_true hgate

theorem Move.humanMade (h : Move S db call f c)
    (hok : ∀ actor ∈ call.op.gatedActor?, Plain S actor)
    (hk : HumanMade S (db.caseFile f).decisions (db.caseFile f).assessments
      (db.caseFile f).disputes) :
    HumanMade S ((db.caseFile f).apply c).decisions ((db.caseFile f).apply c).assessments
      ((db.caseFile f).apply c).disputes := by
  cases h with
  | decided request op _ human _ _ _ =>
    refine ⟨List.forall_mem_append.mpr ⟨hk.decisions, List.forall_mem_singleton.mpr ?_⟩,
      hk.overrides, hk.resolutions⟩
    intro hgated
    refine not_carriesPrefix human (hok _ ?_)
    have happrove : request.decision = .approve := by
      cases hdecision : request.decision <;>
        simp_all [decisionRow, DecisionType.isGated]
    rw [op, Op.gatedActor?, if_pos happrove]
    rfl
  | assessed =>
    refine ⟨hk.decisions, List.forall_mem_append.mpr ⟨hk.overrides,
      List.forall_mem_singleton.mpr ?_⟩, hk.resolutions⟩
    intro actor hactor
    exact absurd hactor (Option.not_mem_none _)
  | overridden request op _ human assessment current _ _ =>
    have hactor : ¬ CarriesPrefix S request.actorId :=
      not_carriesPrefix human (hok _ (by rw [op]; rfl))
    refine ⟨List.forall_mem_append.mpr ⟨hk.decisions, List.forall_mem_singleton.mpr
      fun _ => hactor⟩, ?_, hk.resolutions⟩
    intro a ha actor hmem
    rcases eq_or_mem_of_mem_put ha with rfl | ⟨ha, -⟩
    · obtain rfl := Option.mem_some.mp hmem
      exact hactor
    · exact hk.overrides a ha actor hmem
  | disputed =>
    refine ⟨hk.decisions, hk.overrides, List.forall_mem_append.mpr ⟨hk.resolutions,
      List.forall_mem_singleton.mpr ?_⟩⟩
    intro actor hactor
    exact absurd hactor (Option.not_mem_none _)
  | resolved request op dispute _ _ _ may _ _ =>
    have hactor : ¬ CarriesPrefix S request.resolvedBy :=
      not_carriesPrefix may.1 (hok _ (by rw [op]; rfl))
    refine ⟨List.forall_mem_append.mpr ⟨hk.decisions, List.forall_mem_singleton.mpr
      fun _ => hactor⟩, hk.overrides, ?_⟩
    intro d hd actor hmem
    rcases eq_or_mem_of_mem_put hd with rfl | ⟨hd, -⟩
    · obtain rfl := Option.mem_some.mp hmem
      exact hactor
    · exact hk.resolutions d hd actor hmem
  | reviewed | opened | ticketRefused | ticketFiled | submitted | retested | reopened => exact hk

theorem HumanMade.of_cases (hw : WellFormed db)
    (h : ∀ f ∈ db.findings, HumanMade S (db.caseFile f).decisions (db.caseFile f).assessments
      (db.caseFile f).disputes) : HumanMade S db.decisions db.assessments db.disputes where
  decisions d hd := by
    obtain ⟨f, hf, howner⟩ := hw.decisions.held d hd
    exact (h f hf).decisions d (mem_ownedBy.mpr ⟨hd, howner.symm⟩)
  overrides a ha := by
    obtain ⟨f, hf, howner⟩ := hw.assessments.held a ha
    exact (h f hf).overrides a (mem_ownedBy.mpr ⟨ha, howner.symm⟩)
  resolutions d hd := by
    obtain ⟨f, hf, howner⟩ := hw.disputes.held d hd
    exact (h f hf).resolutions d (mem_ownedBy.mpr ⟨hd, howner.symm⟩)

/-- **Only humans** approve, override a severity or resolve a dispute, in every run in
which the actors of these calls have plain ids. -/
theorem run_humanMade (hdb : Fresh db)
    (hok : ∀ call ∈ calls, ∀ actor ∈ call.op.gatedActor?, Plain S actor) :
    HumanMade S (run S db calls).decisions (run S db calls).assessments
      (run S db calls).disputes := by
  refine HumanMade.of_cases (run_wellFormed hdb calls) fun f hf => ?_
  have hsplit : Runs.EachSplit (fun _ call => ∀ actor ∈ call.op.gatedActor?, Plain S actor)
      calls := by
    rintro before call after rfl
    exact hok call (List.mem_append_right _ List.mem_cons_self)
  refine run_caseFile (P := fun _ k => HumanMade S k.decisions k.assessments k.disputes) ?_
    (fun _ _ _ _ _ h => h) ?_ hdb hsplit hf
  · intro _ f decisions _ hverdict
    refine ⟨fun d hd hgated => ?_, by simp, by simp⟩
    rw [hverdict d hd] at hgated
    exact absurd hgated Bool.false_ne_true
  · intro _ _ _ _ hcall _ hmove _ hk
    exact hmove.humanMade hcall hk

def blankApproved : List Call :=
  sampleReviewed "author" "reviewer" reviewer_length ++
    [sampleDecision 4 .approve " agent:bot" "app" (by decide) app_length]

theorem blank_agent_approves :
    ¬ HumanMade sampleService (run sampleService sampleDatabase blankApproved).decisions
      (run sampleService sampleDatabase blankApproved).assessments
      (run sampleService sampleDatabase blankApproved).disputes := by
  intro h
  obtain ⟨d, hd, hgated, hcarries⟩ :
      ∃ d ∈ (run sampleService sampleDatabase blankApproved).decisions,
        d.decisionType.isGated ∧ CarriesPrefix sampleService d.actorId := by decide +kernel
  exact h.decisions d hd hgated hcarries

def agentRefused : List Call :=
  sampleReviewed "author" "reviewer" reviewer_length ++
    [sampleDecision 4 .approve "Agent:bot" "bot",
      sampleDecision 5 .approve "lead" "app" lead_length app_length]

theorem run_humanMade_refused :
    HumanMade sampleService (run sampleService sampleDatabase agentRefused).decisions
      (run sampleService sampleDatabase agentRefused).assessments
      (run sampleService sampleDatabase agentRefused).disputes := by
  refine run_humanMade sampleDatabase_fresh ?_
  simp only [Plain]
  decide +kernel

end HumanGate

/-- Who approved, and the digest of what. -/
structure Approval where
  actor : String
  digest : String
  deriving DecidableEq, Repr

/-- The approval of the finding `o` that the call records. -/
def approvalIn (S : AdjudicationService) (db : Database) (call : Call) (o : Owner) :
    Option Approval :=
  match call.op with
  | .adjudicate tenantId request =>
    if (tenantId, request.findingId) = o ∧ request.decision = .approve ∧
        (ownedBy ApprovalDecision.owner o db.decisions).length <
          (ownedBy ApprovalDecision.owner o (step S db call).decisions).length then
      (db.getFinding tenantId request.findingId).map fun f => ⟨request.actorId, S.hashOf f⟩
    else none
  | _ => none

/-- The last approval of the finding `o` in a run. -/
def lastApproval (S : AdjudicationService) (db : Database) (o : Owner) (calls : List Call) :
    Option Approval :=
  (calls.foldl (fun s call => (step S s.1 call, (approvalIn S s.1 call o).or s.2)) (db, none)).2

section Independence

variable {S : AdjudicationService} {db : Database} {call : Call} {f : Finding} {c : Change}
  {calls : List Call} {o : Owner}

theorem lastApproval_state (calls : List Call) (s : Database × Option Approval) :
    (calls.foldl (fun s call => (step S s.1 call, (approvalIn S s.1 call o).or s.2)) s).1 =
      run S s.1 calls := by
  induction calls generalizing s with
  | nil => rfl
  | cons call calls ih => exact ih _

theorem lastApproval_concat :
    lastApproval S db o (calls ++ [call]) =
      (approvalIn S (run S db calls) call o).or (lastApproval S db o calls) := by
  rw [lastApproval, List.foldl_append]
  show (approvalIn S _ call o).or _ = _
  rw [lastApproval_state]
  rfl

theorem approvalIn_of_kept (h : (step S db call).caseFile f = db.caseFile f) :
    approvalIn S db call f.owner = none := by
  have hdecisions := congrArg CaseFile.decisions h
  simp only [Database.caseFile] at hdecisions
  unfold approvalIn
  split
  · exact if_neg fun hcond => absurd hcond.2.2 (by rw [hdecisions]; exact lt_irrefl _)
  · rfl

theorem WellFormed.getFinding (hw : WellFormed db) (hf : f ∈ db.findings) :
    db.getFinding f.tenantId f.findingId = some f := by
  rcases hg : db.getFinding f.tenantId f.findingId with _ | g
  · have hnone := List.find?_eq_none.mp hg f hf
    simp at hnone
  · obtain ⟨hmem, -, hid⟩ := of_find? hg
    rw [hw.eq_of_findingId hmem hf hid]

theorem Move.approvalIn_cases (h : Move S db call f c) (hw : WellFormed db) (hf : f ∈ db.findings)
    (hcase : (step S db call).caseFile (c.finding.getD f) = (db.caseFile f).apply c) :
    (approvalIn S db call f.owner = none ∧
      ∀ d, c.decisions = .insert d → d.decisionType ≠ .human .approve) ∨
    ∃ request, call.op = .adjudicate f.tenantId request ∧ f.findingId = request.findingId ∧
      request.decision = .approve ∧ S.isAutomated request.actorId = false ∧
      isReplay db f.tenantId f request = false ∧
      S.requireDecision db f.tenantId f request = .ok () ∧
      approvalIn S db call f.owner = some ⟨request.actorId, S.hashOf f⟩ := by
  cases h with
  | decided request op target human first accepted _ =>
    by_cases happrove : request.decision = .approve
    · refine Or.inr ⟨request, op, target, happrove, human, first, accepted, ?_⟩
      have hdecisions : ownedBy ApprovalDecision.owner f.owner (step S db call).decisions =
          ownedBy ApprovalDecision.owner f.owner db.decisions ++ [_] :=
        congrArg CaseFile.decisions hcase
      have hgrows : (ownedBy ApprovalDecision.owner f.owner db.decisions).length <
          (ownedBy ApprovalDecision.owner f.owner (step S db call).decisions).length := by
        rw [hdecisions, List.length_append, List.length_singleton]
        omega
      have howner : (f.tenantId, request.findingId) = f.owner := Prod.ext rfl target.symm
      simp only [approvalIn, op]
      rw [if_pos ⟨howner, happrove, hgrows⟩, ← target, hw.getFinding hf]
      rfl
    · refine Or.inl ⟨?_, ?_⟩
      · simp only [approvalIn, op]
        exact if_neg fun hcond => happrove hcond.2.1
      · rintro d ⟨⟩ htype
        exact happrove (DecisionType.human.inj htype)
  | overridden _ op | resolved _ op =>
    refine Or.inl ⟨by simp only [approvalIn, op], ?_⟩
    rintro d ⟨⟩ htype
    exact DecisionType.noConfusion htype
  | assessed _ op | reviewed _ op | disputed _ op | opened _ op | ticketRefused _ _ op
  | ticketFiled _ _ op | submitted _ op | retested _ op | reopened _ op =>
    refine Or.inl ⟨by simp only [approvalIn, op], ?_⟩
    rintro d ⟨⟩

/-! ### The three roles -/

/-- The passing reviews of the text `digest` are not by the identity of `actor`. -/
def NotReviewer (S : AdjudicationService) (reviews : List QualityReview) (digest actor : String) :
    Prop :=
  ∀ r ∈ reviews, r.passed → r.contentHash = digest → S.identity r.reviewerId ≠ S.identity actor

/-- The author, the passing reviewers of the approved text and the approver are
pairwise distinct. -/
def RolesDistinct (S : AdjudicationService) (db : Database) (calls : List Call) (f : Finding) :
    Prop :=
  ∃ p, lastApproval S db f.owner calls = some p ∧ S.identity p.actor ≠ S.identity f.author ∧
    ∀ r ∈ (run S db calls).qualityReviews, r.owner = f.owner → r.passed →
      r.contentHash = p.digest → S.identity r.reviewerId ≠ S.identity p.actor ∧
        S.identity r.reviewerId ≠ S.identity f.author

/-- The comparisons that the service does not make, at the call after the calls
`before`: an approval is not by the author or by any passing reviewer of the
text; a passing review of an approved finding is not by its approver; and an
upheld dispute does not bring back an approval whose approver is a reviewer. -/
def SeparatesDuties (S : AdjudicationService) (db₀ : Database) (before : List Call)
    (call : Call) : Prop :=
  let db := run S db₀ before
  match call.op with
  | .adjudicate tenantId request =>
    request.decision = .approve → S.isAutomated request.actorId = false →
      ∀ f ∈ db.findings, f.tenantId = tenantId → f.findingId = request.findingId →
        isReplay db tenantId f request = false →
        S.requireDecision db tenantId f request = .ok () →
          S.identity request.actorId ≠ S.identity f.author ∧
          NotReviewer S (db.caseFile f).qualityReviews (S.hashOf f) request.actorId
  | .reviewQuality tenantId request =>
    ∀ f ∈ db.findings, f.tenantId = tenantId → f.findingId = request.findingId →
      f.status.isApproved → (S.reviewOutcome db tenantId f request.reviewerId).passed →
        ∀ p ∈ lastApproval S db₀ f.owner before, p.digest = S.hashOf f →
          S.identity request.reviewerId ≠ S.identity p.actor
  | .resolveDispute tenantId request =>
    request.resolution = .upheld →
      ∀ dispute ∈ db.disputes, dispute.tenantId = tenantId →
        dispute.disputeId = request.disputeId → dispute.priorStatus = .approved →
          ∀ f ∈ db.findings, f.owner = dispute.owner → MayResolve S request dispute f →
            ∀ p ∈ lastApproval S db₀ f.owner before,
              NotReviewer S (db.caseFile f).qualityReviews p.digest p.actor
  | _ => True

/-- The state of the three roles after the calls of a run. -/
structure Separated (S : AdjudicationService) (db : Database) (calls : List Call)
    (k : CaseFile) : Prop where
  reviewers : ∀ r ∈ k.qualityReviews, r.passed →
    S.identity r.reviewerId ≠ S.identity k.finding.author
  approver : EverApproved k → ∃ p, lastApproval S db k.finding.owner calls = some p ∧
    S.identity p.actor ≠ S.identity k.finding.author
  approved : k.finding.status.isApproved → ∀ p ∈ lastApproval S db k.finding.owner calls,
    NotReviewer S k.qualityReviews p.digest p.actor

theorem reviewRow_passed {request : QualityReviewRequest}
    (h : (S.reviewRow db call.now call.hex f.tenantId f request).passed) :
    S.identity request.reviewerId ≠ S.identity f.author := by
  have hchecks := List.all_eq_true.mp h ⟨.notSelfReviewed, _⟩
    (by simp only [List.mem_cons]; tauto)
  simp only [Quality.notSelfReviewed, Bool.and_eq_true, decide_eq_true_eq] at hchecks
  exact hchecks.2

theorem Move.qualityReviews_cases (h : Move S db call f c) {r : QualityReview}
    (hr : r ∈ ((db.caseFile f).apply c).qualityReviews) :
    r ∈ (db.caseFile f).qualityReviews ∨
      ∃ request, call.op = .reviewQuality f.tenantId request ∧ f.findingId = request.findingId ∧
        c.finding = none ∧ r = S.reviewRow db call.now call.hex f.tenantId f request := by
  cases h with
  | reviewed request op target _ =>
    rcases List.mem_append.mp hr with hr | hr
    · exact Or.inl hr
    · exact Or.inr ⟨request, op, target, rfl, List.mem_singleton.mp hr⟩
  | decided | assessed | overridden | disputed | resolved | opened | ticketRefused | ticketFiled
  | submitted | retested | reopened => exact Or.inl hr

section Step

variable {db₀ : Database} (hdb : Fresh db₀) (hf : f ∈ (run S db₀ calls).findings)
  (h : Move S (run S db₀ calls) call f c)
  (hcase : (run S db₀ (calls ++ [call])).caseFile (c.finding.getD f) =
    ((run S db₀ calls).caseFile f).apply c)
include hdb hf h hcase

theorem Move.lastApproval_cases :
    (lastApproval S db₀ f.owner (calls ++ [call]) = lastApproval S db₀ f.owner calls ∧
      ∀ d, c.decisions = .insert d → d.decisionType ≠ .human .approve) ∨
    ∃ request, call.op = .adjudicate f.tenantId request ∧
      lastApproval S db₀ f.owner (calls ++ [call]) = some ⟨request.actorId, S.hashOf f⟩ ∧
      (SeparatesDuties S db₀ calls call → S.identity request.actorId ≠ S.identity f.author ∧
        NotReviewer S ((run S db₀ calls).caseFile f).qualityReviews (S.hashOf f)
          request.actorId) := by
  rw [run_concat] at hcase
  rw [lastApproval_concat]
  rcases h.approvalIn_cases (run_wellFormed hdb calls) hf hcase with
    ⟨hnone, htype⟩ | ⟨request, op, target, happrove, hhuman, hfirst, haccepted, hsome⟩
  · rw [hnone]
    exact Or.inl ⟨rfl, htype⟩
  · rw [hsome]
    refine Or.inr ⟨request, op, rfl, fun hok => ?_⟩
    rw [SeparatesDuties, op] at hok
    exact hok happrove hhuman f hf rfl target hfirst haccepted

omit hdb hcase in
theorem Move.notReviewer (hdisputed : Disputed ((run S db₀ calls).caseFile f))
    (hok : SeparatesDuties S db₀ calls call)
    (htype : ∀ d, c.decisions = .insert d → d.decisionType ≠ .human .approve)
    (hk : Separated S db₀ calls ((run S db₀ calls).caseFile f))
    (happroved : (c.finding.getD f).status.isApproved) :
    ∀ p ∈ lastApproval S db₀ f.owner calls,
      NotReviewer S (((run S db₀ calls).caseFile f).apply c).qualityReviews p.digest p.actor := by
  intro p hp r hr hpassed hdigest
  rcases h.enters hdisputed happroved with hstatus | henters
  · rcases h.qualityReviews_cases hr with hr | ⟨request, op, target, -, rfl⟩
    · exact hk.approved hstatus p hp r hr hpassed hdigest
    · rw [SeparatesDuties, op] at hok
      exact hok f hf rfl target hstatus hpassed p hp hdigest.symm
  · cases henters with
    | decision => exact absurd rfl (htype _ rfl)
    | @upheld request op upheld dispute mem dispute_id owner may prior =>
      rcases h.qualityReviews_cases hr with hr | ⟨_, op', -⟩
      · rw [SeparatesDuties, op] at hok
        exact hok upheld dispute mem (Prod.ext_iff.mp owner).1 dispute_id prior f hf owner.symm may
          p hp r hr hpassed hdigest
      · exact absurd (op.symm.trans op') nofun

theorem Move.separated (hok : SeparatesDuties S db₀ calls call)
    (hk : Separated S db₀ calls ((run S db₀ calls).caseFile f)) :
    Separated S db₀ (calls ++ [call]) (((run S db₀ calls).caseFile f).apply c) := by
  have hdisputed := run_disputed hdb hf
  have howner : (((run S db₀ calls).caseFile f).apply c).finding.owner = f.owner :=
    h.legal.owner_getD
  have hauthor : (((run S db₀ calls).caseFile f).apply c).finding.author = f.author := h.author
  have hlast := h.lastApproval_cases hdb hf hcase
  constructor
  · rw [hauthor]
    intro r hr hpassed
    rcases h.qualityReviews_cases hr with hr | ⟨request, -, -, -, rfl⟩
    · exact hk.reviewers r hr hpassed
    · exact reviewRow_passed hpassed
  · rw [howner, hauthor]
    intro hever
    rcases hlast with ⟨hsame, htype⟩ | ⟨request, -, hnew, hduties⟩
    · rw [hsame]
      rcases h.everApproved hdisputed hever with hbefore | ⟨d, happroves, hrow⟩
      · exact hk.approver hbefore
      · exact absurd happroves.decisionType (htype d hrow)
    · exact ⟨_, hnew, (hduties hok).1⟩
  · rw [howner]
    intro happroved p hp r hr hpassed hdigest
    rcases hlast with ⟨hsame, htype⟩ | ⟨request, op, hnew, hduties⟩
    · rw [hsame] at hp
      exact h.notReviewer hf hdisputed hok htype hk happroved p hp r hr hpassed hdigest
    · rw [hnew] at hp
      obtain rfl := Option.mem_some.mp hp
      rcases h.qualityReviews_cases hr with hr | ⟨_, op', -⟩
      · exact (hduties hok).2 r hr hpassed hdigest
      · exact absurd (op.symm.trans op') nofun

end Step

/-- **Separation of duties** holds in every run that makes the comparisons of
`SeparatesDuties`. -/
theorem run_separated (hdb : Fresh db)
    (hok : Runs.EachSplit (SeparatesDuties S db) calls)
    (hf : f ∈ (run S db calls).findings) (happroved : f.status.isApproved) :
    RolesDistinct S db calls f := by
  have hsep : Separated S db calls ((run S db calls).caseFile f) := by
    refine run_caseFile ?_ ?_ ?_ hdb hok hf
    · intro calls f decisions hstatus _
      have hnew : ¬ EverApproved { finding := f, decisions := decisions } :=
        not_everApproved_new hstatus
      exact ⟨by simp, fun h => absurd h hnew, fun h => absurd (Or.inl h) hnew⟩
    · intro calls call f hf hcase hk
      have hsame :
          lastApproval S db f.owner (calls ++ [call]) = lastApproval S db f.owner calls := by
        rw [run_concat] at hcase
        rw [lastApproval_concat, approvalIn_of_kept hcase]
        rfl
      exact ⟨hk.reviewers, hsame.symm ▸ hk.approver, hsame.symm ▸ hk.approved⟩
    · intro calls call f c hcall hf hmove hcase hk
      exact hmove.separated hdb hf hcase hcall hk
  obtain ⟨p, hp, hactor⟩ := hsep.approver (Or.inl happroved)
  refine ⟨p, hp, hactor, fun r hr howner hpassed hdigest => ?_⟩
  have hmem : r ∈ ((run S db calls).caseFile f).qualityReviews := mem_ownedBy.mpr ⟨hr, howner⟩
  exact ⟨hsep.approved happroved p hp r hmem hpassed hdigest, hsep.reviewers r hmem hpassed⟩

def selfApproved : List Call :=
  sampleReviewed "author" "reviewer" reviewer_length ++
    [sampleDecision 4 .approve "author" "app" (by decide) app_length]

theorem author_approves :
    ¬ ∀ f ∈ (run sampleService sampleDatabase selfApproved).findings, f.status.isApproved →
      RolesDistinct sampleService sampleDatabase selfApproved f := by
  intro h
  obtain ⟨f, hf, hstatus, hactor⟩ :
      ∃ f ∈ (run sampleService sampleDatabase selfApproved).findings, f.status.isApproved ∧
        (lastApproval sampleService sampleDatabase f.owner selfApproved).map (·.actor) =
          some f.author := by decide +kernel
  obtain ⟨p, hp, hne, -⟩ := h f hf hstatus
  rw [hp] at hactor
  exact hne (congrArg sampleService.identity (Option.some.inj hactor))

theorem run_separated_sample :
    ∃ f ∈ (run sampleService sampleDatabase approvedSample).findings,
      RolesDistinct sampleService sampleDatabase approvedSample f := by
  obtain ⟨f, hf, hstatus⟩ := approvedSample_isApproved
  have hok : Runs.EachSplit (SeparatesDuties sampleService sampleDatabase) approvedSample := by
    refine Runs.eachSplit_cons.mpr ⟨trivial, Runs.eachSplit_cons.mpr ⟨trivial,
      Runs.eachSplit_cons.mpr ⟨?_, Runs.eachSplit_cons.mpr ⟨?_, Runs.eachSplit_nil⟩⟩⟩⟩
    · dsimp only [SeparatesDuties, sampleReviewed, sampleCall]
      decide +kernel
    · dsimp only [SeparatesDuties, NotReviewer, sampleDecision, sampleCall]
      decide +kernel
  exact ⟨f, hf, run_separated sampleDatabase_fresh hok hf hstatus⟩

end Independence

end Adjudication
