/-
Versions and their content.

A run rejects an object whose version was collected with other content before.  The check is a
read and the row is written later, after a write to the vault, so that it is only the check of
the moment: what another run commits in between is not looked at again.  `oneContent_of_agrees`
is what remains: the versions keep one content in every interleaving in which the check still
passes whenever a row is inserted.  A run with no other beside it meets this by itself
(`run_agrees`).
-/
import AssuranceOS.Connectors.Checkpoints

namespace Connectors

open Checked Vault

/-- Rows of one version have one content. -/
def OneContent (db : Database) : Prop :=
  ∀ a ∈ db.collected, ∀ b ∈ db.collected, a.version = b.version →
    a.contentSha256 = b.contentSha256

def VersionAgrees (db : Database) (version : VersionKey) (contentSha256 : String) : Prop :=
  ∀ prior ∈ db.findAnyCollectedVersion version, prior.contentSha256 = contentSha256

/-- When the operation inserts a row, the version check passes. -/
def Agrees (w : World) : Op → Prop
  | .addCollected link => VersionAgrees w.db link.version link.contentSha256
  | _ => True

instance (db : Database) (version : VersionKey) (contentSha256 : String) :
    Decidable (VersionAgrees db version contentSha256) :=
  match h : db.findAnyCollectedVersion version with
  | none => isTrue fun _ hmem => absurd (h ▸ hmem) (by simp)
  | some prior =>
    decidable_of_iff (prior.contentSha256 = contentSha256)
      (by simp [VersionAgrees, h])

instance (w : World) : ∀ op : Op, Decidable (Agrees w op)
  | .addCollected _ => inferInstanceAs (Decidable (VersionAgrees _ _ _))
  | .openRun _ | .recordHealth .. | .findAnyVersion _ | .findVersion .. | .ingest _
  | .saveCheckpoint .. | .finishRun .. => isTrue trivial

section Agrees

variable {env : Environment} {w : World} {op : Op}

theorem VersionAgrees.all {db : Database} {version : VersionKey} {contentSha256 : String}
    (hone : OneContent db) (h : VersionAgrees db version contentSha256) :
    ∀ row ∈ db.collected, row.version = version → row.contentSha256 = contentSha256 := by
  intro row hrow hversion
  rcases hfound : db.findAnyCollectedVersion version with _ | prior
  · exact absurd hversion (findAnyCollectedVersion_eq_none hfound row hrow)
  · have hprior := mem_of_lastCollected hfound
    rw [List.mem_filter, decide_eq_true_eq] at hprior
    rw [hone row hrow prior hprior.1 (hversion.trans hprior.2.symm)]
    exact h prior hfound

theorem exec_oneContent (hagrees : Agrees w op) (hone : OneContent w.db) :
    OneContent (env.exec op w).2.db := by
  obtain ⟨w', hchange, heq⟩ := exec_change env op w
  rw [heq]
  rcases hchange.collected with hsame | ⟨link, rfl, -, hadded⟩
  · intro a ha b hb
    rw [hsame] at ha hb
    exact hone a ha b hb
  · have hold := VersionAgrees.all hone hagrees
    intro a ha b hb hversion
    rw [hadded] at ha hb
    -- two old rows, an old one and the new one, or the new one twice
    rcases List.mem_append.mp ha with ha | ha <;> rcases List.mem_append.mp hb with hb | hb
    · exact hone a ha b hb hversion
    · rw [List.mem_singleton.mp hb] at hversion ⊢
      exact hold a ha hversion
    · rw [List.mem_singleton.mp ha] at hversion ⊢
      exact (hold b hb hversion.symm).symm
    · rw [List.mem_singleton.mp ha, List.mem_singleton.mp hb]

/-- A run beside others, whatever it returns or raises. -/
def runTask (env : Environment) (call : RunCall) : Method Unit := do
  let _ ← (run env call).attempt
  return ()

/-- **Concurrent runs.**  In an interleaving in which the version check passes whenever a row is
inserted, the rows of a version have one content. -/
theorem oneContent_of_agrees {crew : Crew Op.Answer ConnectorError World}
    (hone : OneContent crew.state.db) (turns : List (Turn RunCall))
    (hagrees : Runs.EachStep (Crew.step env.exec (runTask env)) (Crew.CallOk Agrees) crew turns)
    (n : ℕ) :
    OneContent ((turns.take n).foldl (Crew.step env.exec (runTask env)) crew).state.db := by
  rw [← List.take_append_drop n turns, Runs.eachStep_append] at hagrees
  refine Crew.crew_invariant (I := fun w : World => OneContent w.db)
    (fun call => Program.calls_true _) ?_ (fun i => Program.calls_true _) hone hagrees.1
  intro op w _ hok hw
  exact exec_oneContent hok hw

end Agrees

section Alone

variable {env : Environment} {call : RunCall} {runId : String} {page : ConnectorPage}
  {item : SourceObject} {progress : Progress} {w : World}

theorem agrees_of_notLink {α : Type} {p : Method α} (hp : p.Calls NotLink) :
    ∀ c ∈ p.trace env.exec w, Agrees c.2 c.1 := by
  intro c hc
  have hop := hp.of_mem_trace hc
  obtain ⟨op, w'⟩ := c
  cases op with
  | addCollected link => exact hop.elim
  | _ => exact trivial

theorem collectObject_agrees :
    ∀ c ∈ (collectObject env call runId page progress item).trace env.exec w, Agrees c.2 c.1 := by
  intro c hc
  rcases Program.mem_trace_attempt_bind.mp hc with hc | hc
  · exact agrees_of_notLink findPrior_calls c hc
  rcases hprior : (findPrior env call item).run env.exec w with ⟨e | prior, w₁⟩
  · rw [hprior] at hc
    exact absurd hc List.not_mem_nil
  rw [hprior] at hc
  obtain ⟨hdb₁, -, -, hpasses⟩ := findPrior_eq_ok hprior
  rcases Program.mem_trace_attempt_bind.mp hc with hc | hc
  · exact agrees_of_notLink evidenceOf_calls c hc
  rcases hevidence : (evidenceOf env call page item prior).run env.exec w₁ with
    ⟨e | evidenceId, w₂⟩
  · rw [hevidence] at hc
    exact absurd hc List.not_mem_nil
  rw [hevidence] at hc
  rcases Program.mem_trace_attempt_bind.mp hc with hc | hc
  · -- the insertion: the rows are still those that the check has read
    rw [Program.trace_perform, List.mem_singleton] at hc
    rw [hc]
    show VersionAgrees w₂.db _ _
    rw [evidenceOf_db hevidence, hdb₁]
    exact hpasses
  · split at hc
    · exact absurd hc List.not_mem_nil
    · exact absurd hc List.not_mem_nil

theorem collectPage_agrees :
    ∀ c ∈ (collectPage env call runId progress page).trace env.exec w, Agrees c.2 c.1 := by
  intro c hc
  rcases Program.mem_trace_bind.mp hc with hc | ⟨⟨progress₁, e⟩, w₁, -, hc⟩
  · obtain ⟨_, _, _, _, _, -, -, hc⟩ := Program.mem_trace_forEachUntil hc
    exact collectObject_agrees c hc
  cases e with
  | some e => exact absurd hc List.not_mem_nil
  | none =>
    rcases hcursor : page.nextCursor with _ | cursor
    · simp only [hcursor] at hc
      exact absurd hc List.not_mem_nil
    · simp only [hcursor] at hc
      rcases Program.mem_trace_attempt_bind.mp hc with hc | hc
      · rw [Program.trace_perform, List.mem_singleton] at hc
        rw [hc]
        exact trivial
      · split at hc
        · exact absurd hc List.not_mem_nil
        · exact absurd hc List.not_mem_nil

theorem collect_agrees {checkpointBefore : Dict} :
    ∀ c ∈ (collect env call runId checkpointBefore).trace env.exec w, Agrees c.2 c.1 := by
  intro c hc
  rcases Program.mem_trace_attempt_bind.mp hc with hc | hc
  · exact agrees_of_notLink checkHealth_calls c hc
  split at hc
  · exact absurd hc List.not_mem_nil
  · rcases Program.mem_trace_bind.mp hc with hc | ⟨⟨progress, e⟩, w₂, -, hc⟩
    · obtain ⟨_, _, _, _, _, -, -, hc⟩ := Program.mem_trace_forEachUntil hc
      exact collectPage_agrees c hc
    · cases e with
      | some e => exact absurd hc List.not_mem_nil
      | none => exact absurd hc List.not_mem_nil

/-- **A run alone.**  With no other run beside it, the check of a run still passes when it
inserts. -/
theorem run_agrees : ∀ c ∈ (run env call).trace env.exec w, Agrees c.2 c.1 := by
  intro c hc
  rcases Program.mem_trace_bind.mp hc with hc | ⟨opening, w₁, -, hc⟩
  · rw [Program.trace_perform, List.mem_singleton] at hc
    rw [hc]
    exact trivial
  cases opening with
  | existing row => exact absurd hc List.not_mem_nil
  | opened runId checkpointBefore =>
    rcases Program.mem_trace_bind.mp hc with hc | ⟨⟨progress, error⟩, w₂, -, hc⟩
    · exact collect_agrees c hc
    rcases Program.mem_trace_bind.mp hc with hc | ⟨row, w₃, -, hc⟩
    · rw [Program.trace_perform, List.mem_singleton] at hc
      rw [hc]
      exact trivial
    · cases error with
      | some e => exact absurd hc List.not_mem_nil
      | none => exact absurd hc List.not_mem_nil

theorem run_oneContent (hone : OneContent w.db) :
    OneContent ((run env call).run env.exec w).2.db := by
  have hop : ∀ (op : Op) (w : World), Agrees w op → OneContent w.db →
      OneContent (env.exec op w).2.db := fun op w hagrees hw => exec_oneContent hagrees hw
  exact (Program.keeps_of_trace (I := fun w : World => OneContent w.db) hop run_agrees hone).2

/-- **Runs one after another** keep one content for each version, wherever each of them stops. -/
theorem runs_oneContent (hone : OneContent w.db) (calls : List RunCall) :
    OneContent (calls.foldl (fun w call => ((run env call).run env.exec w).2) w).db :=
  Runs.run_invariant_always (I := fun w : World => OneContent w.db)
    (fun _ _ hone => run_oneContent hone) hone calls

/-- Two runs, each under a key of its own: both collect the two objects of the page. -/
theorem runs_oneContent_fixture :
    let db := ([fixtureCall none, { fixtureCall none with idempotencyKey := "second" }].foldl
      (fun w call => ((run fixtureEnvironment call).run fixtureEnvironment.exec w).2)
      fixtureWorld).db
    db.collected.length = 4 ∧ OneContent db :=
  ⟨by decide +kernel, runs_oneContent (fun _ ha => absurd ha List.not_mem_nil) _⟩

end Alone

/-! ### Two runs at once -/

section Sample

def contentEnvironment : Environment :=
  { fixtureEnvironment with
    vault := { sha256 := fun bytes =>
      String.ofList (digits 64 (bytes.foldl (fun n b => n + b.toNat) 0)) } }

/-- A connector whose one object has this payload under the version `1`. -/
def oneObjectConnector (payload : Dict) : Connector :=
  { twoObjects with
    collectPages := fun _ _ =>
      { pages := [{ objects := [{ fixtureObject "1" with payload := payload }] }] } }

def oneObjectCall (idempotencyKey : String) (payload : Dict) : RunCall :=
  { fixtureCall none with
    connector := oneObjectConnector payload
    idempotencyKey := idempotencyKey }

def conflictingTurns : List (Turn RunCall) :=
  [.start 0 (oneObjectCall "first" .empty),
    .start 1 (oneObjectCall "second" (withText .empty "a" "b"))] ++
    List.replicate 5 (.advance 0) ++ List.replicate 5 (.advance 1) ++ [.advance 0, .advance 1]

def fixtureCrew : Crew Op.Answer ConnectorError World where
  state := fixtureWorld

/-- The same two runs, whose payloads now agree. -/
def agreeingTurns : List (Turn RunCall) :=
  [.start 0 (oneObjectCall "first" .empty), .start 1 (oneObjectCall "second" .empty)] ++
    List.replicate 5 (.advance 0) ++ List.replicate 5 (.advance 1) ++ [.advance 0, .advance 1]

/-- Both runs insert a row of the version, and the two rows have one content. -/
theorem oneContent_sample :
    let db := ((agreeingTurns.take 14).foldl
      (Crew.step fixtureEnvironment.exec (runTask fixtureEnvironment)) fixtureCrew).state.db
    db.collected.length = 2 ∧ OneContent db :=
  ⟨by decide +kernel,
    oneContent_of_agrees (fun _ ha => absurd ha List.not_mem_nil) agreeingTurns
      (by decide +kernel) 14⟩

def conflicts (rows : List CollectedSourceObject) : Bool :=
  rows.any fun a => rows.any fun b => a.version = b.version && a.contentSha256 ≠ b.contentSha256

theorem not_oneContent_of_conflicts {db : Database} (h : conflicts db.collected) :
    ¬ OneContent db := by
  intro hone
  obtain ⟨a, ha, h⟩ := List.any_eq_true.mp h
  obtain ⟨b, hb, h⟩ := List.any_eq_true.mp h
  rw [Bool.and_eq_true, decide_eq_true_eq, decide_eq_true_eq] at h
  exact h.2 (hone a ha b hb h.1)

/-! The evaluation of the two runs goes in steps: the store takes every digest of the sample hash,
and what the database compares at the second commit is compared beforehand. -/

theorem contentEnvironment_isDigest (bytes : Bytes) :
    IsDigest (contentEnvironment.vault.sha256 bytes) := by
  simp only [contentEnvironment]
  exact isDigest_digits _

section Unchecked

open JsonText

variable (S : EvidenceVault) (db : Vault.Database) (request : IngestRequest)
  (stored : StoredObject) (now : DateTime) (hex : Nat → String)

def newRecord : EvidenceRecord :=
  originalRecord request (S.sha256 request.payload) stored now hex

def recorded : Vault.Database :=
  { db with evidence := db.evidence ++ [newRecord S request stored now hex] }

def newCustody : EvidenceCustodyEvent :=
  (recorded S db request stored now hex).nextCustodyEvent S.sha256 (hex 1) request.tenantId
    (newRecord S request stored now hex).evidenceId
    { action := "acquired"
      actorType := request.actorType
      actorId := request.actorId
      occurredAt := now
      details :=
        { entries :=
            [("source_type", .str request.sourceType),
              ("source_locator", .str request.sourceLocator),
              ("sha256", .str (S.sha256 request.payload)),
              ("size_bytes", .int stored.sizeBytes),
              ("object_created", .bool stored.created)] } }

/-- The commit of a new acquisition, without the constraints on its record and custody event. -/
def commitUnchecked : Except VaultError (EvidenceItem × Vault.Database) :=
  let record := newRecord S request stored now hex
  let event := newCustody S db request stored now hex
  (Vault.Database.appendDomainEvent
    { recorded S db request stored now hex with custody := db.custody ++ [event] }
    (hex 2) (hex 3) record "evidence.acquired"
    { entries :=
        [("evidence_id", .str record.evidenceId),
          ("record_kind", .str "original"),
          ("content_sha256", .str record.contentSha256),
          ("custody_head", .str event.eventHash)] }).map fun db => (record, db)

variable {S db request stored now hex}

theorem findAcquisition_of_insertable (h : Insertable db (newRecord S request stored now hex)) :
    findAcquisition db (.original request) = none := by
  unfold findAcquisition
  split
  · rename_i htruthy
    rw [Database.getByAcquisitionKey, List.find?_eq_none]
    intro x hx hfound
    obtain ⟨key, hkey⟩ : ∃ key, request.acquisitionKey = some key := by
      cases hkey : request.acquisitionKey with
      | none => simp [Job.acquisitionKey, hkey, PyString.truthy] at htruthy
      | some key => exact ⟨key, rfl⟩
    simp only [Job.tenantId, Job.acquisitionKey, hkey, Option.getD_some, decide_eq_true_eq]
      at hfound
    refine h.key x hx ⟨hfound.1, ?_, ?_⟩
    · simp [newRecord, originalRecord, hkey]
    · simp [newRecord, originalRecord, hkey, hfound.2]
  · rfl

theorem commit_unchecked
    (hengagement : request.engagementId = none) (htask : request.taskId = none)
    (hinsert : Insertable db (newRecord S request stored now hex))
    (happend : Appendable db (newCustody S db request stored now hex))
    (hok : (commitUnchecked S db request stored now hex).toOption.isSome) :
    S.commit db (.original request) stored now hex =
      commitUnchecked S db request stored now hex := by
  have hadd : db.addEvidence (newRecord S request stored now hex) =
      .ok (recorded S db request stored now hex) := by
    unfold Database.addEvidence
    refine require_bind_eq_ok.mpr ⟨hinsert.tenant, require_bind_eq_ok.mpr ⟨?_, ?_⟩⟩
    · intro id hid
      rw [newRecord, originalRecord, hengagement] at hid
      cases hid
    refine require_bind_eq_ok.mpr ⟨?_, require_bind_eq_ok.mpr ⟨hinsert.key, ?_⟩⟩
    · intro id hid
      rw [newRecord, originalRecord, htask] at hid
      cases hid
    exact ofOption_bind_eq_ok.mpr ⟨_, Table.insert?_eq_some.mpr ⟨hinsert.id, rfl⟩, rfl⟩
  have hget : ((recorded S db request stored now hex).get request.tenantId
      (newRecord S request stored now hex).evidenceId true).isSome := by
    rw [Database.get, List.find?_isSome]
    exact ⟨_, List.mem_append_right _ List.mem_cons_self, by simp [newRecord, originalRecord]⟩
  have hcustody := appendCustodyEvent_eq_ok.mpr
    ⟨hget, ⟨happend.sequence, happend.hash, happend.id⟩, rfl, rfl⟩
  have hacquire : S.acquire db (.original request) stored now hex =
      commitUnchecked S db request stored now hex := by
    have hreplay : replayed db (.original request) (S.sha256 request.payload) = .ok none := by
      simp [replayed, findAcquisition_of_insertable hinsert, pure, Except.pure]
    obtain ⟨r, hr⟩ := Option.isSome_iff_exists.mp hok
    rw [toOption_eq_some.mp hr]
    obtain ⟨db', hdomain, hr⟩ := map_eq_ok.mp (toOption_eq_some.mp hr)
    refine bind_eq_ok.mpr ⟨_, hreplay, bind_eq_ok.mpr ⟨db', ?_, congrArg Except.ok hr⟩⟩
    exact bind_eq_ok.mpr ⟨_, hadd, bind_eq_ok.mpr ⟨_, hcustody, hdomain⟩⟩
  obtain ⟨r, hr⟩ := Option.isSome_iff_exists.mp hok
  rw [EvidenceVault.commit, hacquire, toOption_eq_some.mp hr]

end Unchecked

section Steps

variable {env : Environment} {w : World} {request : IngestRequest}

def storedFile (env : Environment) (w : World) (request : IngestRequest) : StoredFile :=
  ⟨request.tenantId, env.vault.sha256 request.payload, request.payload,
    (env.ambient w.ticks).fileTime⟩

def storedObject (env : Environment) (w : World) (request : IngestRequest) : StoredObject :=
  let file := storedFile env w request
  { LocalObjectStore.statOf env.vault.sha256 request.tenantId (keyOf file.digest) file with
    created := true }

def execUnchecked (env : Environment) (op : Op) (w : World) :
    Except ConnectorError op.Answer × World :=
  match op with
  | .ingest request =>
    match commitUnchecked env.vault w.vault.db request (storedObject env w request)
        ((env.ambient w.ticks).clock 0) (env.ambient w.ticks).hex with
    | .ok (item, db) =>
      (.ok item,
        { w with
          vault := { db := db, files := w.vault.files ++ [storedFile env w request] }
          ticks := w.ticks + 1 })
    | .error _ => env.exec (.ingest request) w
  | op => env.exec op w

/-- The checks of an acquisition pass. -/
structure Passes (env : Environment) (w : World) (request : IngestRequest) : Prop where
  fault : env.fault w.ticks = none
  read : env.vault.readIngest w.vault.db request = .ok (.original request)
  engagement : request.engagementId = none
  task : request.taskId = none
  segment : isSegment request.tenantId
  file : fileAt w.vault.files (request.tenantId, env.vault.sha256 request.payload) = none
  record : Insertable w.vault.db (newRecord env.vault request (storedObject env w request)
    ((env.ambient w.ticks).clock 0) (env.ambient w.ticks).hex)
  custody : Appendable w.vault.db (newCustody env.vault w.vault.db request
    (storedObject env w request) ((env.ambient w.ticks).clock 0) (env.ambient w.ticks).hex)
  commit : (commitUnchecked env.vault w.vault.db request (storedObject env w request)
    ((env.ambient w.ticks).clock 0) (env.ambient w.ticks).hex).toOption.isSome

theorem exec_unchecked (hdigest : ∀ bytes, IsDigest (env.vault.sha256 bytes))
    (h : Passes env w request) :
    env.exec (.ingest request) w = execUnchecked env (.ingest request) w := by
  have hcommit := commit_unchecked h.engagement h.task h.record h.custody h.commit
  have hreplay : replayed w.vault.db (.original request) (env.vault.sha256 request.payload) =
      .ok none := by
    simp [replayed, findAcquisition_of_insertable h.record, pure, Except.pure]
  have hput := fun n => @putBytes_new _ _ _ n _ h.segment (hdigest request.payload) h.file
  obtain ⟨r, hr⟩ := Option.isSome_iff_exists.mp h.commit
  rw [toOption_eq_some.mp hr] at hcommit
  have hvault : env.vault.ingestBytes w.vault (env.ambient w.ticks) request =
      (.ok r.1, { db := r.2, files := w.vault.files ++ [storedFile env w request] }) := by
    simp only [EvidenceVault.ingestBytes, h.read, EvidenceVault.acquireBytes, Job.payload,
      Job.tenantId, hreplay, hput]
    simp only [storedObject, storedFile] at hcommit
    simp only [hcommit, storedFile]
  simp only [execUnchecked, toOption_eq_some.mp hr]
  simp [Environment.exec, h.fault, Environment.effect, hvault, Except.mapError]

variable {crew : Crew Op.Answer ConnectorError World} {i : ℕ}

def nextOp : Program Op.Answer ConnectorError Unit → Option Op
  | .call op _ => some op
  | .done _ => none

theorem step_unchecked (hdigest : ∀ bytes, IsDigest (env.vault.sha256 bytes))
    (hop : nextOp (crew.workers i) = some (.ingest request)) (h : Passes env crew.state request) :
    Crew.step env.exec (runTask env) crew (.advance i) =
      Crew.step (execUnchecked env) (runTask env) crew (.advance i) := by
  rcases hworker : crew.workers i with _ | ⟨op, next⟩
  · rw [hworker] at hop
    cases hop
  · rw [hworker] at hop
    cases hop
    simp only [Crew.step, hworker, exec_unchecked hdigest h]

end Steps

def oneObjectRequest (idempotencyKey : String) (payload : Dict) : IngestRequest :=
  ingestRequest contentEnvironment (oneObjectCall idempotencyKey payload)
    { objects := [{ fixtureObject "1" with payload := payload }] }
    { fixtureObject "1" with payload := payload }

/-- Both runs are started, and the first is before its acquisition. -/
def firstCrew : Crew Op.Answer ConnectorError World :=
  (conflictingTurns.take 6).foldl
    (Crew.step contentEnvironment.exec (runTask contentEnvironment)) fixtureCrew

/-- The first run has made it, and the second is before its own. -/
def secondCrew : Crew Op.Answer ConnectorError World :=
  (List.replicate 4 (.advance 1)).foldl
    (Crew.step contentEnvironment.exec (runTask contentEnvironment))
    (Crew.step (execUnchecked contentEnvironment) (runTask contentEnvironment) firstCrew
      (.advance 0))

theorem firstCrew_next :
    nextOp (firstCrew.workers 0) = some (.ingest (oneObjectRequest "first" .empty)) := rfl

theorem secondCrew_next : nextOp (secondCrew.workers 1) =
    some (.ingest (oneObjectRequest "second" (withText .empty "a" "b"))) := rfl

theorem firstCrew_passes :
    Passes contentEnvironment firstCrew.state (oneObjectRequest "first" .empty) where
  fault := rfl
  read := rfl
  engagement := rfl
  task := rfl
  segment := by decide +kernel
  file := by decide +kernel
  record := ⟨by decide +kernel, by decide +kernel, by decide +kernel⟩
  custody := ⟨by decide +kernel, by decide +kernel, by decide +kernel⟩
  commit := by decide +kernel

theorem custody_hashes :
    (∀ x ∈ secondCrew.state.vault.db.custody, x.eventHash =
        "0000000000000000000000000000000000000000000000000000000000029773") ∧
      (newCustody contentEnvironment.vault secondCrew.state.vault.db
        (oneObjectRequest "second" (withText .empty "a" "b"))
        (storedObject contentEnvironment secondCrew.state
          (oneObjectRequest "second" (withText .empty "a" "b")))
        ((contentEnvironment.ambient secondCrew.state.ticks).clock 0)
        (contentEnvironment.ambient secondCrew.state.ticks).hex).eventHash =
        "0000000000000000000000000000000000000000000000000000000000029787" := by
  constructor
  · decide +kernel
  · decide +kernel

theorem secondCrew_passes : Passes contentEnvironment secondCrew.state
    (oneObjectRequest "second" (withText .empty "a" "b")) where
  fault := rfl
  read := rfl
  engagement := rfl
  task := rfl
  segment := by decide +kernel
  file := by decide +kernel
  record := ⟨by decide +kernel, by decide +kernel, by decide +kernel⟩
  custody := by
    refine ⟨by decide +kernel, fun x hx heq => ?_, by decide +kernel⟩
    have hhash := (custody_hashes.1 x hx).symm.trans ((congrArg Prod.snd heq).trans
      custody_hashes.2)
    exact absurd hhash (by decide)
  commit := by decide +kernel

/-- Two runs that check the version of an object before either inserts it leave two contents. -/
theorem conflicting_content :
    OneContent fixtureCrew.state.db ∧ (∀ i, fixtureCrew.workers i = pure ()) ∧
      ¬ OneContent (conflictingTurns.foldl (Crew.step contentEnvironment.exec
        (runTask contentEnvironment)) fixtureCrew).state.db := by
  refine ⟨fun a ha => absurd ha List.not_mem_nil, fun i => rfl, not_oneContent_of_conflicts ?_⟩
  have hfirst := step_unchecked contentEnvironment_isDigest firstCrew_next firstCrew_passes
  have hsecond := step_unchecked contentEnvironment_isDigest secondCrew_next secondCrew_passes
  have hturns : conflictingTurns = conflictingTurns.take 6 ++ (.advance 0 ::
      (List.replicate 4 (.advance 1) ++ [.advance 1, .advance 0, .advance 1])) := rfl
  rw [hturns, List.foldl_append, List.foldl_cons, ← firstCrew, hfirst, List.foldl_append,
    ← secondCrew, List.foldl_cons, hsecond]
  decide +kernel

end Sample

end Connectors
