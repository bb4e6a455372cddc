/-
Filing a ticket.

`sync_remediation_ticket` reads the action, asks the provider without holding a
transaction, and writes the answer in another transaction.  `Filing` is the state of
any number of such calls with the database and the provider, and `Event` one step of
one of them; the provider makes a ticket on every create request that it serves.

`run_alone`: a call that nobody interleaves with is `syncRemediationTicket`.

`at_most_one_ticket_iff`: an action has at most one ticket exactly in the runs in
which no create request for it is served between the lookup of a call and a create
request of that call.
-/
import AssuranceOS.Adjudication.Approval

namespace Adjudication

open Checked Table AdjudicationService

/-- One call of `sync_remediation_ticket`. -/
structure SyncCall where
  id : Nat
  tenantId : String
  actionId : String
  deriving DecidableEq, Repr

/-- How far a call is. -/
inductive Phase where
  | idle
  | looking (job : TicketJob)
  | creating (job : TicketJob) (attempt : Nat)
  | replied (job : TicketJob) (reply : Except String TicketRef)

/-- A request that the provider has served. -/
inductive Served where
  | lookup (w : SyncCall)
  | created (w : SyncCall) (ticket : Ticket)
  deriving DecidableEq, Repr

/-- The database, the requests that the provider has served, the latest first, and the
calls. -/
structure Filing where
  db : Database
  served : List Served := []
  phase : SyncCall → Phase := fun _ => .idle

/-- How the provider answers a create request; on `unavailable` the transport asks
again. -/
inductive Answer where
  | accepted
  | unavailable (error : String)
  | refused (error : String)

/-- A step of a call, with what the ticket system answers, or a call of the service. -/
inductive Event where
  | read (w : SyncCall)
  | lookup (w : SyncCall)
  | lookupFails (w : SyncCall) (error : String)
  | create (w : SyncCall) (number sysId : String) (answer : Answer)
  | commit (w : SyncCall) (now : Timestamp) (hex : String → String)
  | crash (w : SyncCall)
  | service (call : Call)

def Served.ticket? : Served → Option Ticket
  | .lookup _ => none
  | .created _ ticket => some ticket

namespace Filing

variable (S : AdjudicationService) (writer : RestWriter) (s : Filing)

/-- The tickets that the system holds. -/
def tickets : List Ticket := s.served.filterMap Served.ticket?

/-- Those that carry the correlation key of the action. -/
def ticketsOf (actionId : String) : List Ticket :=
  s.tickets.filter fun t => t.fields.carries (correlationKey actionId)

def setPhase (w : SyncCall) (phase : Phase) : Filing :=
  { s with phase := Function.update s.phase w phase }

def serve (r : Served) : Filing :=
  { s with served := r :: s.served }

/-- The writer that the call is given; its answers come in steps of their own. -/
def ticketWriter (tickets : List Ticket) (number sysId : String) : TicketWriter where
  system := writer.system.external.value
  createOrGet := writer.createOrGet tickets number sysId

/-- The transaction after the provider has answered; one that raises rolls back. -/
def record (w : SyncCall) (now : Timestamp) (hex : String → String) (job : TicketJob)
    (reply : Except String TicketRef) : Database :=
  match reply with
  | .ok ticket =>
    match recordTicket s.db now hex w.tenantId w.actionId job ticket with
    | .ok (db, _) => db
    | .error _ => s.db
  | .error error =>
    match recordTicketFailure s.db now hex w.tenantId w.actionId job error with
    | .ok db => db
    | .error _ => s.db

/-- A step that cannot be taken now changes nothing. -/
def step (e : Event) : Filing :=
  match e with
  | .read w =>
    match s.phase w with
    | .idle =>
      match S.prepareTicket s.db w.tenantId w.actionId
          (some (ticketWriter writer s.tickets "" "")) with
      | .ok (.inr job) => s.setPhase w (.looking job)
      | _ => s
    | _ => s
  | .lookup w =>
    match s.phase w with
    | .looking job =>
      match writer.find s.tickets job.request with
      | .ok none => (s.serve (.lookup w)).setPhase w (.creating job 1)
      | .ok (some ticket) => (s.serve (.lookup w)).setPhase w (.replied job (.ok ticket))
      | .error error => (s.serve (.lookup w)).setPhase w (.replied job (.error error))
    | _ => s
  | .lookupFails w error =>
    match s.phase w with
    | .looking job => s.setPhase w (.replied job (.error error))
    | _ => s
  | .create w number sysId answer =>
    match s.phase w with
    | .creating job attempt =>
      let ticket : Ticket := ⟨number, sysId, writer.fields job.request⟩
      match answer with
      | .accepted =>
        (s.serve (.created w ticket)).setPhase w
          (.replied job (writer.readCreated job.request ticket))
      | .unavailable error =>
        (s.serve (.created w ticket)).setPhase w
          (if attempt < writer.maxAttempts then .creating job (attempt + 1)
            else .replied job (.error error))
      | .refused error =>
        (s.serve (.created w ticket)).setPhase w (.replied job (.error error))
    | _ => s
  | .commit w now hex =>
    match s.phase w with
    | .replied job reply => { s with db := s.record w now hex job reply }.setPhase w .idle
    | _ => s
  | .crash w => s.setPhase w .idle
  | .service call => { s with db := Adjudication.step S s.db call }

/-- The steps in the order in which they come. -/
def run (events : List Event) : Filing :=
  events.foldl (step S writer) s

end Filing

section Alone

variable {S : AdjudicationService} {writer : RestWriter} {s : Filing} {w : SyncCall}

@[simp] theorem Filing.setPhase_phase_self (phase : Phase) :
    (s.setPhase w phase).phase w = phase := by
  simp [Filing.setPhase]

@[simp] theorem Filing.serve_phase (r : Served) : (s.serve r).phase = s.phase := rfl

theorem prepareTicket_writer {db : Database} {tenantId actionId : String} {a b : TicketWriter}
    (h : a.system = b.system) :
    S.prepareTicket db tenantId actionId (some b) =
      (S.prepareTicket db tenantId actionId (some a)).map
        (Sum.map id fun job => { job with writer := b }) := by
  unfold prepareTicket
  cases requireAction db tenantId actionId with
  | error e => rfl
  | ok action =>
    show (requireFinding db tenantId action.findingId >>= _) =
      (requireFinding db tenantId action.findingId >>= _).map _
    cases requireFinding db tenantId action.findingId with
    | error e => rfl
    | ok f =>
      simp only [Option.getD_some, ← h, bind, Except.bind]
      split
      · rfl
      · cases require (a.system = action.externalSystem.value)
          (AdjudicationError.ticketWriterMismatch action.actionId action.externalSystem.value
            a.system) with
        | error e => rfl
        | ok u =>
          cases require (¬ (action.externalSystem ≠ ExternalSystem.none ∧
              ¬ PyString.truthy action.externalTarget))
            (AdjudicationError.ticketTargetMissing action.actionId
              action.externalSystem.value) with
          | error e => rfl
          | ok u => rfl

variable {job : TicketJob}

/-- A call whose provider answers `reply` ends as its last transaction does. -/
theorem step_sync {now : Timestamp} {hex : String → String} {issued : TicketWriter}
    {reply : Except String TicketRef}
    (hjob : S.prepareTicket s.db w.tenantId w.actionId (some issued) = .ok (.inr job))
    (hreply : job.writer.createOrGet job.request = reply) :
    step S s.db ⟨now, hex, .syncRemediationTicket w.tenantId w.actionId (some issued)⟩ =
      s.record w now hex job reply := by
  unfold step Filing.record
  simp only [Call.exec, syncRemediationTicket, hjob, bind, Except.bind, hreply]
  cases reply with
  | error e =>
    dsimp only
    cases recordTicketFailure s.db now hex w.tenantId w.actionId job e with
    | error e => rfl
    | ok db => rfl
  | ok ticket =>
    dsimp only
    cases recordTicket s.db now hex w.tenantId w.actionId job ticket with
    | error e => rfl
    | ok r => rfl

/-- A call that has been read goes on to what `create_or_get` answers. -/
theorem run_looking (hphase : s.phase w = .looking job) (number sysId : String) (now : Timestamp)
    (hex : String → String) :
    (Filing.run S writer s [.lookup w, .create w number sysId .accepted, .commit w now hex]).db =
      s.record w now hex job (writer.createOrGet s.tickets number sysId job.request) := by
  show (Filing.step S writer (Filing.step S writer (Filing.step S writer s (.lookup w))
    (.create w number sysId .accepted)) (.commit w now hex)).db = _
  unfold RestWriter.createOrGet
  cases hf : writer.find s.tickets job.request with
  | error e =>
    simp [Filing.step, hphase, hf]
    rfl
  | ok found =>
    cases found with
    | some existing =>
      simp [Filing.step, hphase, hf]
      rfl
    | none =>
      simp [Filing.step, hphase, hf]
      rfl

/-- **A call alone.**  The steps of a call that nobody interleaves with make up
`sync_remediation_ticket`, when the provider accepts the create request. -/
theorem run_alone (hidle : s.phase w = .idle) (number sysId : String) (now : Timestamp)
    (hex : String → String) :
    (Filing.run S writer s [.read w, .lookup w, .create w number sysId .accepted,
        .commit w now hex]).db =
      step S s.db ⟨now, hex, .syncRemediationTicket w.tenantId w.actionId
        (some (Filing.ticketWriter writer s.tickets number sysId))⟩ := by
  have hprepare : S.prepareTicket s.db w.tenantId w.actionId
      (some (Filing.ticketWriter writer s.tickets number sysId)) =
        (S.prepareTicket s.db w.tenantId w.actionId
          (some (Filing.ticketWriter writer s.tickets "" ""))).map (Sum.map id fun job =>
            { job with writer := Filing.ticketWriter writer s.tickets number sysId }) :=
    prepareTicket_writer rfl
  cases hp : S.prepareTicket s.db w.tenantId w.actionId
      (some (Filing.ticketWriter writer s.tickets "" "")) with
  | error e =>
    rw [hp] at hprepare
    simp [Filing.run, Filing.step, hidle, hp, step, Call.exec, syncRemediationTicket, hprepare,
      Except.map, bind, Except.bind]
  | ok prepared =>
    rw [hp] at hprepare
    cases prepared with
    | inl sync =>
      simp [Filing.run, Filing.step, hidle, hp, step, Call.exec, syncRemediationTicket, hprepare,
        Except.map, bind, Except.bind, pure, Except.pure]
    | inr job =>
      have hread : Filing.step S writer s (.read w) = s.setPhase w (.looking job) := by
        simp [Filing.step, hidle, hp]
      show (Filing.run S writer (Filing.step S writer s (.read w))
        [.lookup w, .create w number sysId .accepted, .commit w now hex]).db = _
      rw [hread, run_looking (Filing.setPhase_phase_self _), step_sync hprepare rfl]
      rfl

end Alone

/-! ### What a step can do -/

section Steps

variable {S : AdjudicationService} {writer : RestWriter} {s : Filing} {db : Database}

def RemediationAction.target (action : RemediationAction) : String :=
  if PyString.truthy action.externalTarget then action.externalTarget.getD "" else "none"

/-- The action with this id is registered for `target`. -/
def Registered (db : Database) (actionId target : String) : Prop :=
  ∃ action ∈ db.actions, action.actionId = actionId ∧ action.target = target

/-- The request is about the action of the call. -/
structure Requests (db : Database) (w : SyncCall) (request : TicketRequest) : Prop where
  action : request.actionId = w.actionId
  registered : Registered db w.actionId request.projectOrTable
  labels : ∀ actionId, correlationKey actionId ∉ request.labels

theorem prepareTicket_requests {w : SyncCall} {given : Option TicketWriter} {job : TicketJob}
    (h : S.prepareTicket db w.tenantId w.actionId given = .ok (.inr job)) :
    Requests db w job.request := by
  obtain ⟨action, f, haction, -, -, hjob⟩ := prepareTicket_eq_ok h
  obtain ⟨hmem, -, hid⟩ := requireAction_eq_ok haction
  obtain ⟨-, -, hrequest⟩ := hjob job rfl
  rw [hrequest]
  refine ⟨hid, ⟨action, hmem, hid, rfl⟩, ?_⟩
  intro actionId hlabel
  simp only [ticketRequest, List.mem_cons, List.not_mem_nil, or_false] at hlabel
  rcases hlabel with hlabel | hlabel
  · have hlist := congrArg String.toList hlabel
    simp [correlationKey, String.toList_append] at hlist
  · have hlist := congrArg String.toList hlabel
    simp [correlationKey, String.toList_append] at hlist

/-- A row of an action is rewritten, or none is. -/
inductive Rewritten (db : Database) : Database → Prop
  | events (events : List AuditEvent) (outbox : List OutboxEvent) :
      Rewritten db { db with auditEvents := events, outbox := outbox }
  | row {action : RemediationAction} (row : RemediationAction) (mem : action ∈ db.actions)
      (id : action.actionId = row.actionId) (owner : row.owner = action.owner)
      (target : row.target = action.target) (events : List AuditEvent)
      (outbox : List OutboxEvent) :
      Rewritten db
        { db with
          actions := put RemediationAction.actionId row db.actions
          auditEvents := events, outbox := outbox }

theorem record_rewritten (w : SyncCall) (now : Timestamp) (hex : String → String)
    (job : TicketJob) (reply : Except String TicketRef) :
    Rewritten s.db (s.record w now hex job reply) := by
  have hkept : Rewritten s.db s.db := .events s.db.auditEvents s.db.outbox
  cases reply with
  | error error =>
    unfold Filing.record
    dsimp only
    split
    next db' h =>
      unfold recordTicketFailure at h
      obtain ⟨events, rfl⟩ := emitAudit_eq_ok h
      cases hget : s.db.getAction w.tenantId w.actionId with
      | none => exact .events events s.db.outbox
      | some action =>
        exact .row (ticketFailedRow error action) (of_find? hget).1 rfl rfl rfl events s.db.outbox
    next => exact hkept
  | ok ticket =>
    unfold Filing.record
    dsimp only
    split
    next db' sync h =>
      obtain ⟨action, haction, h⟩ := bind_eq_ok.mp h
      obtain ⟨hmem, -, -⟩ := requireAction_eq_ok haction
      split at h
      next =>
        obtain ⟨rfl, -⟩ := Prod.mk.inj (Except.ok.inj h)
        exact hkept
      next =>
        obtain ⟨events, outbox, rfl⟩ := emit_return_eq_ok h
        exact .row (ticketFiledRow now ticket action) hmem rfl rfl rfl events outbox
    next => exact hkept

def KeepsTargets (db db' : Database) : Prop :=
  ∀ actionId target, Registered db actionId target → Registered db' actionId target

variable {db' : Database}

theorem keepsTargets_put {actions : List RemediationAction}
    (hn : (db.actions.map RemediationAction.actionId).Nodup) {action : RemediationAction}
    (row : RemediationAction) (mem : action ∈ db.actions) (id : action.actionId = row.actionId)
    (target : row.target = action.target)
    (hactions : actions = put RemediationAction.actionId row db.actions)
    (hdb : db'.actions = actions) : KeepsTargets db db' := by
  rintro actionId t ⟨a, ha, hid, ht⟩
  rw [Registered, hdb, hactions]
  by_cases hkey : a.actionId = row.actionId
  · obtain rfl := eq_of_key_eq hn ha mem (hkey.trans id.symm)
    exact ⟨row, mem_put_self ha hkey.symm, id.symm.trans hid, target.trans ht⟩
  · exact ⟨a, mem_put_of_ne ha hkey, hid, ht⟩

theorem Rewritten.keepsTargets (h : Rewritten db db') (hw : WellFormed db) :
    KeepsTargets db db' := by
  cases h with
  | events => exact fun _ _ h => h
  | row row mem id owner target =>
    exact keepsTargets_put hw.actions.nodup row mem id target rfl rfl

theorem Rewritten.wellFormed (h : Rewritten db db') (hw : WellFormed db) :
    WellFormed db' := by
  cases h with
  | events =>
    exact ⟨hw.findings, hw.decisions, hw.assessments, hw.qualityReviews, hw.disputes, hw.actions,
      hw.responses, hw.retests⟩
  | @row action row mem id owner =>
    obtain ⟨f, hf, hfowner⟩ := hw.actions.held action mem
    have hlegal : Change.Legal { actions := .put row } db f.owner :=
      { actions := ⟨owner.trans hfowner.symm, action, mem, id, hfowner.symm⟩ }
    have hwell := hlegal.wellFormed hw hf
    exact ⟨hwell.findings, hwell.decisions, hwell.assessments, hwell.qualityReviews,
      hwell.disputes, hwell.actions, hwell.responses, hwell.retests⟩

theorem step_keepsTargets (hw : WellFormed db) (call : Call) :
    KeepsTargets db (Adjudication.step S db call) := by
  have heffect := step_effect S db call
  generalize Adjudication.step S db call = db' at heffect ⊢
  cases heffect with
  | nothing => exact fun _ _ h => h
  | proposed => exact fun _ _ h => h
  | moved mem move events outbox =>
    have hn := hw.actions.nodup
    cases move with
    | decided | assessed | overridden | reviewed | disputed | resolved =>
      exact fun _ _ h => h
    | opened =>
      rintro actionId target ⟨a, ha, hrow⟩
      exact ⟨a, List.mem_append_left _ ha, hrow⟩
    | ticketRefused _ _ _ action hmem _ _ _ error =>
      exact keepsTargets_put hn (ticketFailedRow error action) hmem rfl rfl rfl rfl
    | ticketFiled _ _ _ action hmem _ _ _ ticket =>
      exact keepsTargets_put hn (ticketFiledRow call.now ticket action) hmem rfl rfl rfl rfl
    | submitted submission _ action hmem =>
      exact keepsTargets_put hn (declaredRow call.now submission action) hmem rfl rfl rfl rfl
    | retested request _ action hmem =>
      exact keepsTargets_put hn (retestedRow request.outcome action) hmem rfl rfl rfl rfl
    | reopened request _ action found =>
      exact keepsTargets_put hn (reopenedRow request action) (of_head?_orderBy found).1 rfl
        rfl rfl rfl

theorem Registered.unique (hw : WellFormed db) {actionId t t' : String}
    (h : Registered db actionId t) (h' : Registered db actionId t') : t = t' := by
  obtain ⟨a, ha, hid, rfl⟩ := h
  obtain ⟨b, hb, hbid, rfl⟩ := h'
  rw [eq_of_key_eq hw.actions.nodup ha hb (hid.trans hbid.symm)]

def Phase.job? : Phase → Option TicketJob
  | .idle => none
  | .looking job => some job
  | .creating job _ => some job
  | .replied job _ => some job

/-- What an event does. -/
inductive Moves (S : AdjudicationService) (writer : RestWriter) (s : Filing) :
    Event → Filing → Prop
  | stays (e : Event)
      (idle : ∀ w number sysId answer, e = .create w number sysId answer →
        ∀ job n, s.phase w ≠ .creating job n) : Moves S writer s e s
  | reads (w : SyncCall) (job : TicketJob) (requests : Requests s.db w job.request) :
      Moves S writer s (.read w) (s.setPhase w (.looking job))
  | drops (e : Event) (w : SyncCall) (phase : Phase)
      (job : phase = .idle ∨
        ∃ job reply, s.phase w = .looking job ∧ phase = .replied job reply)
      (create : ∀ w number sysId answer, e ≠ .create w number sysId answer) :
      Moves S writer s e (s.setPhase w phase)
  | looks (w : SyncCall) (job : TicketJob) (phase : Phase) (looking : s.phase w = .looking job)
      (found : (phase = .creating job 1 ∧ RestWriter.search s.tickets job.request = []) ∨
        ∃ reply, phase = .replied job reply) :
      Moves S writer s (.lookup w) ((s.serve (.lookup w)).setPhase w phase)
  | creates (w : SyncCall) (number sysId : String) (answer : Answer) (job : TicketJob)
      (attempt : Nat) (phase : Phase) (creating : s.phase w = .creating job attempt)
      (next : phase = .creating job (attempt + 1) ∨ ∃ reply, phase = .replied job reply) :
      Moves S writer s (.create w number sysId answer)
        ((s.serve (.created w ⟨number, sysId, writer.fields job.request⟩)).setPhase w phase)
  | writes (e : Event) (db : Database) (phase : SyncCall → Phase)
      (wellFormed : WellFormed db) (targets : KeepsTargets s.db db)
      (phases : ∀ w, phase w = .idle ∨ phase w = s.phase w)
      (create : ∀ w number sysId answer, e ≠ .create w number sysId answer) :
      Moves S writer s e { s with db := db, phase := phase }

theorem search_of_find_none {tickets : List Ticket} {request : TicketRequest}
    (h : writer.find tickets request = .ok none) : RestWriter.search tickets request = [] := by
  unfold RestWriter.find at h
  split at h
  · assumption
  · cases h
  · cases h

theorem step_moves (hw : WellFormed s.db) (e : Event) :
    Moves S writer s e (s.step S writer e) := by
  cases e with
  | read w =>
    unfold Filing.step
    dsimp only
    split
    · split
      next job hjob => exact .reads w job (prepareTicket_requests hjob)
      next => exact .stays _ nofun
    · exact .stays _ nofun
  | lookup w =>
    unfold Filing.step
    dsimp only
    split
    next job hphase =>
      split
      next hfind => exact .looks w job _ hphase (Or.inl ⟨rfl, search_of_find_none hfind⟩)
      next => exact .looks w job _ hphase (Or.inr ⟨_, rfl⟩)
      next => exact .looks w job _ hphase (Or.inr ⟨_, rfl⟩)
    next => exact .stays _ nofun
  | lookupFails w error =>
    unfold Filing.step
    dsimp only
    split
    next job hphase => exact .drops _ w _ (Or.inr ⟨job, _, hphase, rfl⟩) nofun
    next => exact .stays _ nofun
  | create w number sysId answer =>
    unfold Filing.step
    dsimp only
    split
    next job attempt hphase =>
      cases answer with
      | accepted => exact .creates w _ _ _ job attempt _ hphase (Or.inr ⟨_, rfl⟩)
      | unavailable error =>
        refine .creates w _ _ _ job attempt _ hphase ?_
        split
        · exact Or.inl rfl
        · exact Or.inr ⟨_, rfl⟩
      | refused error => exact .creates w _ _ _ job attempt _ hphase (Or.inr ⟨_, rfl⟩)
    next hother =>
      refine .stays _ ?_
      rintro w' _ _ _ ⟨⟩ job n hphase
      exact hother job n hphase
  | commit w now hex =>
    unfold Filing.step
    dsimp only
    split
    next job reply hphase =>
      have hrow := record_rewritten (s := s) w now hex job reply
      refine .writes _ (s.record w now hex job reply) _ (hrow.wellFormed hw)
        (hrow.keepsTargets hw) ?_ nofun
      intro v
      by_cases hv : v = w
      · exact Or.inl (by simp [hv])
      · exact Or.inr (by simp [hv])
    next => exact .stays _ nofun
  | crash w => exact .drops _ w .idle (Or.inl rfl) nofun
  | service call =>
    exact .writes _ (Adjudication.step S s.db call) s.phase
      ((step_effect S s.db call).wellFormed hw) (step_keepsTargets hw call)
      (fun _ => Or.inr rfl) nofun

end Steps

/-! ### Counting tickets -/

def Served.createsFor (actionId : String) : Served → Bool
  | .lookup _ => false
  | .created w _ => w.actionId = actionId

/-- The requests that the provider has served since the last lookup of the call. -/
def Filing.sinceLookup (s : Filing) (w : SyncCall) : List Served :=
  s.served.takeWhile fun r => r ≠ .lookup w

/-- A create request for the action is the first one since the lookup of its call. -/
def CreatesFirst (actionId : String) (s : Filing) (e : Event) : Prop :=
  match e with
  | .create w _ _ _ =>
    w.actionId = actionId → (∃ job n, s.phase w = .creating job n) →
      ∀ r ∈ s.sinceLookup w, r.createsFor actionId = false
  | _ => True

section Counting

variable {S : AdjudicationService} {writer : RestWriter} {s s' : Filing} {db : Database}
  {e : Event} {actionId : String}

theorem CreatesFirst.of_not_create
    (h : ∀ w number sysId answer, e ≠ .create w number sysId answer) : CreatesFirst actionId s e := by
  cases e with
  | create w number sysId answer => exact absurd rfl (h w number sysId answer)
  | read | lookup | lookupFails | commit | crash | service => exact trivial

/-- What holds of the calls and of the tickets between the steps. -/
structure Consistent (writer : RestWriter) (s : Filing) : Prop where
  wellFormed : WellFormed s.db
  jobs : ∀ w, ∀ job ∈ (s.phase w).job?, Requests s.db w job.request
  served : ∀ w ticket, .created w ticket ∈ s.served →
    ∃ request, Requests s.db w request ∧ ticket.fields = writer.fields request
  looked : ∀ w job n, s.phase w = .creating job n → ∃ since before,
    s.served = since ++ .lookup w :: before ∧ .lookup w ∉ since ∧
      ∀ r ∈ before, r.createsFor w.actionId = false

variable {w : SyncCall} {request : TicketRequest}

theorem Requests.mono {db' : Database} (h : Requests db w request) (hk : KeepsTargets db db') :
    Requests db' w request :=
  ⟨h.action, hk _ _ h.registered, h.labels⟩

theorem correlationKey_injective {a b : String} (h : correlationKey a = correlationKey b) :
    a = b := by
  simpa [correlationKey, String.append_right_inj] using h

theorem Requests.carries_iff (h : Requests db w request) :
    (writer.fields request).carries (correlationKey actionId) = true ↔ w.actionId = actionId := by
  have hkey : request.correlationKey = correlationKey w.actionId := by
    rw [TicketRequest.correlationKey, h.action]
  have hsame : correlationKey actionId = correlationKey w.actionId ↔ w.actionId = actionId :=
    ⟨fun heq => (correlationKey_injective heq).symm, fun heq => heq ▸ rfl⟩
  unfold RestWriter.fields
  split
  · simp [TicketFields.carries, hkey, h.labels, hsame]
  · simp [TicketFields.carries, hkey, ← hsame, eq_comm]

theorem projectOrTable_fields (request : TicketRequest) :
    (writer.fields request).projectOrTable = request.projectOrTable := by
  unfold RestWriter.fields
  split <;> rfl

theorem length_ticketsOf (hs : Consistent writer s) :
    (s.ticketsOf actionId).length = s.served.countP (·.createsFor actionId) := by
  have hserved : ∀ w ticket, .created w ticket ∈ s.served →
      (ticket.fields.carries (correlationKey actionId) = true ↔ w.actionId = actionId) := by
    intro w ticket hmem
    obtain ⟨request, hrequest, hfields⟩ := hs.served w ticket hmem
    rw [hfields]
    exact hrequest.carries_iff
  rw [Filing.ticketsOf, Filing.tickets]
  generalize s.served = served at hserved
  induction served with
  | nil => rfl
  | cons r served ih =>
    have hrest := ih fun w ticket hmem => hserved w ticket (List.mem_cons_of_mem _ hmem)
    cases r with
    | lookup w =>
      rw [List.countP_cons_of_neg (by simp [Served.createsFor])]
      exact hrest
    | created w ticket =>
      have hiff := hserved w ticket List.mem_cons_self
      by_cases hw : w.actionId = actionId
      · simp [Served.ticket?, Served.createsFor, hw, hiff.mpr hw, hrest]
      · simp [Served.ticket?, Served.createsFor, hw, hiff, hrest]

theorem Consistent.none_created (hs : Consistent writer s) (hr : Requests s.db w request)
    (h : RestWriter.search s.tickets request = []) :
    ∀ r ∈ s.served, r.createsFor w.actionId = false := by
  intro r hmem
  cases r with
  | lookup v => rfl
  | created v ticket =>
    refine decide_eq_false fun hv => ?_
    obtain ⟨request', hr', hfields⟩ := hs.served v ticket hmem
    have hticket : ticket ∈ s.tickets := List.mem_filterMap.mpr ⟨_, hmem, rfl⟩
    have hempty := (List.take_eq_nil_iff.mp h).resolve_left (by decide)
    have hmiss := List.filter_eq_nil_iff.mp hempty ticket hticket
    have htarget : request'.projectOrTable = request.projectOrTable :=
      hr'.registered.unique hs.wellFormed (hv ▸ hr.registered)
    have hcarries : (writer.fields request').carries request.correlationKey = true := by
      rw [TicketRequest.correlationKey, hr.action]
      exact hr'.carries_iff.mpr hv
    rw [hfields, projectOrTable_fields, htarget, hcarries] at hmiss
    simp at hmiss

theorem Consistent.setPhase (hs : Consistent writer s) {phase : Phase}
    (hjob : ∀ job ∈ phase.job?, Requests s.db w job.request)
    (hlooked : ∀ job n, phase = .creating job n → ∃ since before,
      s.served = since ++ .lookup w :: before ∧ .lookup w ∉ since ∧
        ∀ r ∈ before, r.createsFor w.actionId = false) :
    Consistent writer (s.setPhase w phase) := by
  refine ⟨hs.wellFormed, ?_, hs.served, ?_⟩
  · intro v job hv
    by_cases hvw : v = w
    · subst hvw
      rw [Filing.setPhase_phase_self] at hv
      exact hjob job hv
    · simp only [Filing.setPhase, Function.update_of_ne hvw] at hv
      exact hs.jobs v job hv
  · intro v job n hv
    by_cases hvw : v = w
    · subst hvw
      rw [Filing.setPhase_phase_self] at hv
      exact hlooked job n hv
    · simp only [Filing.setPhase, Function.update_of_ne hvw] at hv
      exact hs.looked v job n hv

theorem Consistent.serve (hs : Consistent writer s) {r : Served}
    (hcreated : ∀ w ticket, r = .created w ticket →
      ∃ request, Requests s.db w request ∧ ticket.fields = writer.fields request)
    (hlookup : ∀ w job n, s.phase w = .creating job n → .lookup w ≠ r) :
    Consistent writer (s.serve r) := by
  refine ⟨hs.wellFormed, hs.jobs, ?_, ?_⟩
  · intro w ticket hmem
    rcases List.mem_cons.mp hmem with heq | hold
    · exact hcreated w ticket heq.symm
    · exact hs.served w ticket hold
  · intro w job n hphase
    obtain ⟨since, before, hserved, hnot, hnone⟩ := hs.looked w job n hphase
    refine ⟨r :: since, before, ?_, ?_, hnone⟩
    · show r :: s.served = _
      rw [hserved]
      rfl
    · rw [List.mem_cons, not_or]
      exact ⟨hlookup w job n hphase, hnot⟩

theorem Moves.consistent (h : Moves S writer s e s') (hs : Consistent writer s) :
    Consistent writer s' := by
  cases h with
  | stays => exact hs
  | reads w job requests =>
    refine hs.setPhase ?_ nofun
    rintro _ ⟨⟩
    exact requests
  | drops _ w phase hphase =>
    rcases hphase with rfl | ⟨job, reply, hlooking, rfl⟩
    · exact hs.setPhase nofun nofun
    · refine hs.setPhase ?_ nofun
      rintro _ ⟨⟩
      exact hs.jobs w job (by rw [hlooking]; rfl)
  | looks w job phase looking found =>
    have hrequests := hs.jobs w job (by rw [looking]; rfl)
    have hserve : Consistent writer (s.serve (.lookup w)) := by
      refine hs.serve nofun ?_
      rintro v job' n hv ⟨⟩
      rw [looking] at hv
      exact absurd hv nofun
    rcases found with ⟨rfl, hsearch⟩ | ⟨reply, rfl⟩
    · refine hserve.setPhase ?_ ?_
      · rintro _ ⟨⟩
        exact hrequests
      · rintro _ _ ⟨⟩
        exact ⟨[], s.served, rfl, List.not_mem_nil, hs.none_created hrequests hsearch⟩
    · refine hserve.setPhase ?_ nofun
      rintro _ ⟨⟩
      exact hrequests
  | creates w number sysId answer job attempt phase creating next =>
    have hrequests := hs.jobs w job (by rw [creating]; rfl)
    have hserve : Consistent writer
        (s.serve (.created w ⟨number, sysId, writer.fields job.request⟩)) := by
      refine hs.serve ?_ nofun
      rintro _ _ ⟨⟩
      exact ⟨job.request, hrequests, rfl⟩
    rcases next with rfl | ⟨reply, rfl⟩
    · refine hserve.setPhase ?_ ?_
      · rintro _ ⟨⟩
        exact hrequests
      · rintro _ _ ⟨⟩
        exact hserve.looked w job attempt creating
    · refine hserve.setPhase ?_ nofun
      rintro _ ⟨⟩
      exact hrequests
  | writes _ db phase wellFormed targets phases =>
    refine ⟨wellFormed, ?_, ?_, ?_⟩
    · intro w job hjob
      rcases phases w with hidle | hsame
      · have hnone : job ∈ (phase w).job? := hjob
        rw [hidle] at hnone
        exact absurd hnone nofun
      · have hold : job ∈ (phase w).job? := hjob
        rw [hsame] at hold
        exact (hs.jobs w job hold).mono targets
    · intro w ticket hmem
      obtain ⟨request, hrequest, hfields⟩ := hs.served w ticket hmem
      exact ⟨request, hrequest.mono targets, hfields⟩
    · intro w job n hphase
      rcases phases w with hidle | hsame
      · exact absurd (hidle.symm.trans hphase) nofun
      · exact hs.looked w job n (hsame.symm.trans hphase)

theorem takeWhile_sinceLookup {since before : List Served}
    (hserved : s.served = since ++ .lookup w :: before) (hnot : .lookup w ∉ since) :
    s.sinceLookup w = since := by
  have hall : ∀ r ∈ since, decide (r ≠ .lookup w) = true := by
    intro r hr
    exact decide_eq_true fun heq => hnot (heq ▸ hr)
  rw [Filing.sinceLookup, hserved, List.takeWhile_append_of_pos hall]
  simp

/-- **One step.**  There is at most one create request for the action after the step
exactly if there was at most one before and the step makes a first one only. -/
theorem Moves.atMostOne_iff (h : Moves S writer s e s') (hs : Consistent writer s) :
    s'.served.countP (·.createsFor actionId) ≤ 1 ↔
      s.served.countP (·.createsFor actionId) ≤ 1 ∧ CreatesFirst actionId s e := by
  cases h with
  | stays _ idle =>
    refine (and_iff_left ?_).symm
    cases e with
    | create w number sysId answer =>
      rintro - ⟨job, n, hphase⟩
      exact absurd hphase (idle w number sysId answer rfl job n)
    | read | lookup | lookupFails | commit | crash | service => exact trivial
  | reads => exact (and_iff_left (.of_not_create nofun)).symm
  | drops _ _ _ _ create => exact (and_iff_left (.of_not_create create)).symm
  | looks w job phase =>
    show (Served.lookup w :: s.served).countP _ ≤ 1 ↔ _
    rw [List.countP_cons_of_neg (by simp [Served.createsFor])]
    exact (and_iff_left (.of_not_create nofun)).symm
  | writes _ _ _ _ _ _ create => exact (and_iff_left (.of_not_create create)).symm
  | creates w number sysId answer job attempt phase creating =>
    obtain ⟨since, before, hserved, hnot, hnone⟩ := hs.looked w job attempt creating
    show (Served.created w _ :: s.served).countP _ ≤ 1 ↔ _
    by_cases hw : w.actionId = actionId
    · subst hw
      have hbefore : before.countP (·.createsFor w.actionId) = 0 := by
        rw [List.countP_eq_zero]
        intro r hr
        simp [hnone r hr]
      have hcount : s.served.countP (·.createsFor w.actionId) =
          since.countP (·.createsFor w.actionId) := by
        rw [hserved, List.countP_append, List.countP_cons_of_neg (by simp [Served.createsFor]),
          hbefore, Nat.add_zero]
      have hfirst : CreatesFirst w.actionId s (.create w number sysId answer) ↔
          since.countP (·.createsFor w.actionId) = 0 := by
        have hsince := takeWhile_sinceLookup hserved hnot
        rw [List.countP_eq_zero]
        constructor
        · intro h r hr
          rw [h rfl ⟨job, attempt, creating⟩ r (hsince.symm ▸ hr)]
          decide
        · intro h _ _ r hr
          rw [hsince] at hr
          simpa using h r hr
      rw [List.countP_cons_of_pos (by simp [Served.createsFor]), hfirst, hcount]
      omega
    · rw [List.countP_cons_of_neg (by simp [Served.createsFor, hw])]
      exact (and_iff_left fun h => absurd h hw).symm

theorem run_concat_event (s : Filing) (events : List Event) (e : Event) :
    s.run S writer (events ++ [e]) = (s.run S writer events).step S writer e := by
  rw [Filing.run, List.foldl_append]
  rfl

theorem run_consistent (hs : Consistent writer s) (events : List Event) :
    Consistent writer (s.run S writer events) :=
  Runs.run_invariant_always (fun _ _ h => (step_moves h.wellFormed _).consistent h) hs events

/-- **At most one ticket.**  In every run of any number of calls, with crashes and other
operations in between, an action has at most one ticket at the provider exactly if
every create request for it is the first one since the lookup of its call. -/
theorem at_most_one_ticket_iff (hdb : WellFormed db) (events : List Event) (actionId : String) :
    ((Filing.run S writer { db } events).ticketsOf actionId).length ≤ 1 ↔
      Runs.EachStep (Filing.step S writer) (CreatesFirst actionId) { db } events := by
  have hstart : Consistent writer { db } := ⟨hdb, nofun, nofun, nofun⟩
  induction events using List.reverseRecOn with
  | nil => exact iff_of_true (Nat.zero_le 1) trivial
  | append_singleton events e ih =>
    have hs : Consistent writer (Filing.run S writer { db } events) :=
      run_consistent hstart events
    have hs' : Consistent writer (Filing.run S writer { db } (events ++ [e])) :=
      run_consistent hstart (events ++ [e])
    have hmoves : Moves S writer (Filing.run S writer { db } events) e _ :=
      step_moves hs.wellFormed e
    rw [length_ticketsOf hs] at ih
    rw [length_ticketsOf hs', run_concat_event, hmoves.atMostOne_iff hs, Runs.eachStep_append]
    exact and_congr ih (and_iff_left trivial).symm

/-- An approved finding whose action is to be filed in a Jira project. -/
def filingCalls : List Call :=
  approvedSample ++
    [sampleCall 5 (.openRemediation "tenant"
      { samplePlan "ops" (by decide) with
        externalSystem := .jira
        externalTarget := some "SEC"
        externalTarget_length := fun _ h => Option.some.inj h ▸ by decide })]

def filingSample : Filing where
  db := Adjudication.run sampleService sampleDatabase filingCalls

def sampleJira : RestWriter where
  system := .jira
  baseUrl := "https://jira"

def sampleSync (id : Nat) : SyncCall := ⟨id, "tenant", "rma_5"⟩

theorem run_alone_filed :
    (Filing.run sampleService sampleJira filingSample
      [.read (sampleSync 1), .lookup (sampleSync 1), .create (sampleSync 1) "SEC-1" "" .accepted,
        .commit (sampleSync 1) 6 fun _ => "6"]).db =
      step sampleService filingSample.db ⟨6, fun _ => "6", .syncRemediationTicket "tenant" "rma_5"
        (some (Filing.ticketWriter sampleJira filingSample.tickets "SEC-1" ""))⟩ :=
  @run_alone sampleService sampleJira filingSample (sampleSync 1) rfl "SEC-1" "" 6 fun _ => "6"

/-- Two calls look before either creates; and the provider makes a ticket although it
answers a create request with an error, on which the transport asks again. -/
theorem two_tickets :
    ¬ ((filingSample.run sampleService sampleJira
        [.read (sampleSync 1), .read (sampleSync 2), .lookup (sampleSync 1),
          .lookup (sampleSync 2), .create (sampleSync 1) "SEC-1" "" .accepted,
          .create (sampleSync 2) "SEC-2" "" .accepted]).ticketsOf "rma_5").length ≤ 1 ∧
    ¬ ((filingSample.run sampleService sampleJira
        [.read (sampleSync 1), .lookup (sampleSync 1),
          .create (sampleSync 1) "SEC-1" "" (.unavailable "connector returned HTTP 503"),
          .create (sampleSync 1) "SEC-2" "" .accepted]).ticketsOf "rma_5").length ≤ 1 := by
  decide +kernel

/-- A call crashes after its ticket is made; the next one finds the ticket. -/
def recoveredSample : List Event :=
  [.read (sampleSync 1), .lookup (sampleSync 1), .create (sampleSync 1) "SEC-1" "" .accepted,
    .crash (sampleSync 1), .read (sampleSync 2), .lookup (sampleSync 2),
    .create (sampleSync 2) "SEC-2" "" .accepted, .commit (sampleSync 2) 6 fun _ => "6"]

theorem at_most_one_ticket_recovered :
    ((filingSample.run sampleService sampleJira recoveredSample).ticketsOf "rma_5").length = 1 ∧
    (∀ action ∈ (filingSample.run sampleService sampleJira recoveredSample).db.actions,
      action.externalRef = some "SEC-1") ∧
    Runs.EachStep (Filing.step sampleService sampleJira) (CreatesFirst "rma_5") filingSample
      recoveredSample := by
  have hone : ((filingSample.run sampleService sampleJira recoveredSample).ticketsOf
      "rma_5").length = 1 := by decide +kernel
  have hwell : WellFormed filingSample.db := run_wellFormed sampleDatabase_fresh filingCalls
  exact ⟨hone, by decide +kernel, (at_most_one_ticket_iff hwell _ _).mp hone.le⟩

end Counting

end Adjudication
