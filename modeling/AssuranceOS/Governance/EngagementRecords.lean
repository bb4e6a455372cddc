/-
What the domain tools read.

An envelope without tenant scope is bound to its engagement.  `Agree` says of two states that they
have the same records of that engagement: its evidence with its objects, its test runs, and the
exceptions of its runs.  A call is `Confined` if it goes by the scope of the envelope, or by an id
that belongs to the engagement.

`call_agree`: in states that agree, a confined call has the same result.  A call of
`evidence.query` or `contradictions.search` reads its records one after another and records every
reading; the loops are compared with what they return when nothing is recorded (`readEntries_eq`,
`searchRecords_eq`).
-/
import AssuranceOS.Governance.DomainTools
import AssuranceOS.Vault.Access

namespace Governance.DomainTools

open JsonText Checked Vault Adjudication

/-! ### The records of an engagement -/

section Records

variable (envelope : ExecutionEnvelope)

def ownEvidence (s : CanonicalState) : List EvidenceRecord :=
  s.vault.db.evidence.filter fun r =>
    r.tenantId = envelope.tenantId ∧ r.engagementId = some envelope.engagementId

def ownRuns (s : CanonicalState) : List TestRunRow :=
  s.testRuns.filter fun x =>
    x.run.tenantId = envelope.tenantId ∧ x.run.engagementId = some envelope.engagementId

def runIds (runs : List TestRunRow) : List String := runs.map fun x => x.run.runId

def ownExceptions (s : CanonicalState) : List TestExceptionRow :=
  s.testExceptions.filter fun x => x.row.runId ∈ runIds (ownRuns envelope s)

/-- The states have the same records of the engagement. -/
structure Agree (s s' : CanonicalState) : Prop where
  evidence : ownEvidence envelope s' = ownEvidence envelope s
  objects : ∀ r ∈ ownEvidence envelope s, SameObject s'.vault.files s.vault.files r
  runs : ownRuns envelope s' = ownRuns envelope s
  exceptions : ownExceptions envelope s' = ownExceptions envelope s

end Records

/-- What the constraints of the tables and the chains of custody give, and ids for the next events
of custody that are new. -/
structure Sound (context : DomainToolContext) (env : ToolEnvironment) (s : CanonicalState) :
    Prop where
  unique : Unique s.vault.db
  ready : ∀ S ∈ context.vault, Ready S.sha256 env.ambient 0 s.vault.db
  runs : (runIds s.testRuns).Nodup
  exceptions : ∀ x ∈ s.testExceptions, x.row.runId ∈ runIds s.testRuns

/-- The call is refused on its arguments, or the engagement that its scope resolves to is not
empty. -/
def ScopeResolves {α : Type} (envelope : ExecutionEnvelope) (request : Except DomainToolError α) :
    Prop :=
  request.toOption = none ∨ envelope.engagementId ≠ ""

/-- Why a call reads nothing from outside of its engagement. -/
def Confined (context : DomainToolContext) (env : ToolEnvironment) (envelope : ExecutionEnvelope)
    (arguments : Object) (s : CanonicalState) : DomainTool → Prop
  | .evidenceQuery => ScopeResolves envelope (evidenceRequest env envelope arguments)
  | .contradictionsSearch => ScopeResolves envelope (searchRequest env envelope arguments)
  | .evidenceHashVerify =>
    context.vault = none ∨ argument env arguments "evidence_id" = "" ∨
      argument env arguments "evidence_id" ∈
        (ownEvidence envelope s).map EvidenceRecord.evidenceId
  | .populationReconcile | .exceptionsClassify =>
    argument env arguments "run_id" ≠ "" ∧
      argument env arguments "run_id" ∈ runIds (ownRuns envelope s)

section Calls

variable {context : DomainToolContext} {env : ToolEnvironment} {identity : AgentIdentity}
  {envelope : ExecutionEnvelope} {arguments : Object} {s : CanonicalState}
variable {r : EvidenceRecord} {runId sourceType subject : String} {engagementId : Option String}
  {limit : ℕ} {records : List EvidenceRecord}

theorem mem_ownEvidence : r ∈ ownEvidence envelope s ↔
    r ∈ s.vault.db.evidence ∧ r.tenantId = envelope.tenantId ∧
      r.engagementId = some envelope.engagementId := by
  simp [ownEvidence]

theorem mem_ownRuns {x : TestRunRow} : x ∈ ownRuns envelope s ↔
    x ∈ s.testRuns ∧ x.run.tenantId = envelope.tenantId ∧
      x.run.engagementId = some envelope.engagementId := by
  simp [ownRuns]

theorem mem_runIds {runs : List TestRunRow} :
    runId ∈ runIds runs ↔ ∃ x ∈ runs, x.run.runId = runId := by
  simp [runIds]

theorem engagementScope_eq_ok {requested : String}
    (htenant : "tenant" ∉ envelope.allowedEvidenceScopes)
    (h : engagementScope envelope requested = .ok engagementId) :
    engagementId = some envelope.engagementId := by
  unfold engagementScope at h
  by_cases hother : requested ≠ "" ∧ requested ≠ envelope.engagementId
  · simp only [if_pos hother, if_pos htenant] at h
    cases h
  · simp only [if_neg hother, if_neg htenant] at h
    split at h
    · cases h
      rfl
    · cases h

theorem evidenceRequest_eq_ok {request : EvidenceRequest}
    (htenant : "tenant" ∉ envelope.allowedEvidenceScopes)
    (h : evidenceRequest env envelope arguments = .ok request) :
    request.engagementId = some envelope.engagementId ∧
      request.query = lower env (argumentOr env arguments "query" "locator") ∧
      1 ≤ request.limit := by
  unfold evidenceRequest at h
  rw [bind_eq_ok] at h
  obtain ⟨engagementId, hscope, h⟩ := h
  rw [bind_eq_ok] at h
  obtain ⟨limit, hlimit, h⟩ := h
  cases h
  refine ⟨engagementScope_eq_ok htenant hscope, rfl, ?_⟩
  unfold boundedInt at hlimit
  rw [require_bind_eq_ok] at hlimit
  obtain ⟨-, hlimit⟩ := hlimit
  split at hlimit
  · cases hlimit
    norm_num
  · cases hlimit
    exact le_max_left 1 _

theorem searchRequest_eq_ok {request : SearchRequest}
    (htenant : "tenant" ∉ envelope.allowedEvidenceScopes)
    (h : searchRequest env envelope arguments = .ok request) :
    request.engagementId = some envelope.engagementId := by
  unfold searchRequest at h
  rw [require_bind_eq_ok] at h
  obtain ⟨-, h⟩ := h
  rw [bind_eq_ok] at h
  obtain ⟨engagementId, hscope, h⟩ := h
  cases h
  exact engagementScope_eq_ok htenant hscope

/-! ### What the evidence tools read -/

variable {tenantId : String} {p q : EvidenceRecord → Except VaultError Bytes}

theorem mem_selectEvidence
    (h : r ∈ selectEvidence s.vault.db tenantId engagementId sourceType limit) :
    r ∈ s.vault.db.evidence ∧ r.tenantId = tenantId ∧ r.Active ∧
      (PyString.truthy engagementId → r.engagementId = engagementId) := by
  have hmem := List.mem_of_mem_take h
  simp only [List.mem_filter, decide_eq_true_eq] at hmem
  exact ⟨hmem.1, hmem.2.1, hmem.2.2.1, hmem.2.2.2.1⟩

theorem selectEvidence_own (hne : envelope.engagementId ≠ "") :
    selectEvidence s.vault.db envelope.tenantId (some envelope.engagementId) sourceType limit =
      ((ownEvidence envelope s).filter fun r =>
        r.Active ∧ (sourceType ≠ "" → r.sourceType = sourceType)).take limit := by
  unfold selectEvidence ownEvidence
  rw [List.filter_filter]
  congr 2
  funext r
  have htruthy : PyString.truthy (some envelope.engagementId) = true := by
    simpa [PyString.truthy] using hne
  simp only [htruthy, true_implies, Bool.decide_and, ← Bool.and_assoc]
  rcases decide (r.tenantId = envelope.tenantId) <;>
    rcases decide r.Active <;>
    rcases decide (r.engagementId = some envelope.engagementId) <;> simp

theorem mem_narrow {query : String} (h : r ∈ narrow env query records) : r ∈ records := by
  unfold narrow at h
  split at h
  · exact h
  · split at h
    · exact h
    · exact List.mem_of_mem_filter h

/-- The entries of `evidence.query`, from the objects of the records. -/
def entriesOf (env : ToolEnvironment) (payloadOf : EvidenceRecord → Except VaultError Bytes) :
    ℤ → List EvidenceRecord → List EvidenceEntry
  | _, [] => []
  | budget, r :: records =>
    if (r.sizeBytes : ℤ) > budget then
      evidenceEntry env r (.omitted r.sizeBytes) :: entriesOf env payloadOf budget records
    else
      match payloadOf r with
      | .error error => evidenceEntry env r (.error error) :: entriesOf env payloadOf budget records
      | .ok payload =>
        evidenceEntry env r (.text (decodeReplace payload)) ::
          entriesOf env payloadOf (budget - payload.length) records

theorem entriesOf_congr (h : ∀ r ∈ records, p r = q r) :
    ∀ budget, entriesOf env p budget records = entriesOf env q budget records := by
  induction records with
  | nil => exact fun _ => rfl
  | cons r records ih =>
    intro budget
    have ih := ih fun x hx => h x (List.mem_cons_of_mem _ hx)
    simp only [entriesOf, h r List.mem_cons_self, ih]

variable {S : EvidenceVault}

/-- **The loop of `evidence.query`.**  Whatever the reading before it has recorded, the reading of
a record gives its object. -/
theorem readEntries_eq (hinj : Set.InjOn S.sha256 (Set.range canonicalJson)) :
    ∀ {i : ℕ} {budget : ℤ} {v : VaultState},
    Ready S.sha256 env.ambient i v.db →
    (∀ r ∈ records, r ∈ v.db.evidence ∧ r.tenantId = envelope.tenantId ∧ r.Active) →
    (readEntries env identity envelope S i budget records v).1 =
      entriesOf env (objectOf v.files) budget records := by
  induction records with
  | nil => exact fun _ _ => rfl
  | cons r records ih =>
    intro i budget v hready hrecords
    obtain ⟨hr, htenant, hactive⟩ := hrecords r List.mem_cons_self
    have hrest := fun x hx => hrecords x (List.mem_cons_of_mem _ hx)
    unfold readEntries entriesOf
    by_cases hsize : (r.sizeBytes : ℤ) > budget
    · simp only [if_pos hsize]
      rw [ih hready.next hrest]
    · simp only [if_neg hsize]
      obtain ⟨db', hready', hevidence, hread⟩ := readBytes_eq hinj hready hr hactive
        identity.workloadUri "agent" envelope.purpose
      rw [htenant] at hread
      rw [hread]
      rcases objectOf v.files r with error | payload
      · show _ :: _ = _
        rw [ih hready.next hrest]
      · have hrest' : ∀ x ∈ records, x ∈ db'.evidence ∧ x.tenantId = envelope.tenantId ∧
            x.Active := by
          intro x hx
          rw [hevidence]
          exact hrest x hx
        show _ :: _ = _
        rw [ih (v := { v with db := db' }) hready' hrest']

/-- The text of a record in a contradiction search, from its object. -/
def searchText (payloadOf : EvidenceRecord → Except VaultError Bytes) (r : EvidenceRecord) :
    String :=
  if r.sizeBytes ≤ 400000 then
    match payloadOf r with
    | .error _ => ""
    | .ok payload => decodeReplace payload
  else ""

/-- The matches of a contradiction search, from the texts of the records. -/
def matchesOf (env : ToolEnvironment) (subject : String) (textOf : EvidenceRecord → String)
    (records : List EvidenceRecord) : List EvidenceMatch :=
  records.flatMap fun r => (matchOf env subject r (textOf r)).toList

theorem matchesOf_congr {p q : EvidenceRecord → String} (h : ∀ r ∈ records, p r = q r) :
    matchesOf env subject p records = matchesOf env subject q records := by
  unfold matchesOf
  exact List.flatMap_congr fun r hr => by rw [h r hr]

theorem searchText_congr (h : p r = q r) :
    searchText p r = searchText q r := by
  unfold searchText
  rw [h]

theorem searchPayload_eq (identity : AgentIdentity) (subject : String)
    (hvault : context.vault = some S) (hinj : Set.InjOn S.sha256 (Set.range canonicalJson)) {i : ℕ}
    {v : VaultState} (hready : Ready S.sha256 env.ambient i v.db) (hr : r ∈ v.db.evidence)
    (htenant : r.tenantId = envelope.tenantId) (hactive : r.Active) :
    ∃ db', Ready S.sha256 env.ambient (i + 1) db' ∧ db'.evidence = v.db.evidence ∧
      searchPayload context env identity envelope subject i r v =
        (searchText (objectOf v.files) r, { v with db := db' }) := by
  unfold searchPayload searchText
  simp only [hvault]
  by_cases hsize : r.sizeBytes ≤ 400000
  · simp only [if_pos hsize]
    obtain ⟨db', hready', hevidence, hread⟩ := readBytes_eq hinj hready hr hactive
      identity.workloadUri "agent" ("contradiction search: " ++ subject)
    rw [htenant] at hread
    rw [hread]
    rcases objectOf v.files r with error | payload
    · exact ⟨v.db, hready.next, rfl, rfl⟩
    · exact ⟨db', hready', hevidence, rfl⟩
  · simp only [if_neg hsize]
    exact ⟨v.db, hready.next, rfl, rfl⟩

/-- **The loop of a contradiction search.** -/
theorem searchRecords_eq (hvault : context.vault = some S)
    (hinj : Set.InjOn S.sha256 (Set.range canonicalJson)) : ∀ {i : ℕ} {v : VaultState},
    Ready S.sha256 env.ambient i v.db →
    (∀ r ∈ records, r ∈ v.db.evidence ∧ r.tenantId = envelope.tenantId ∧ r.Active) →
    (searchRecords context env identity envelope subject i records v).1 =
      matchesOf env subject (searchText (objectOf v.files)) records := by
  induction records with
  | nil => exact fun _ _ => rfl
  | cons r records ih =>
    intro i v hready hrecords
    obtain ⟨hr, htenant, hactive⟩ := hrecords r List.mem_cons_self
    obtain ⟨db', hready', hevidence, hpayload⟩ := searchPayload_eq identity subject hvault hinj
      hready hr htenant hactive
    have hrest : ∀ x ∈ records, x ∈ db'.evidence ∧ x.tenantId = envelope.tenantId ∧ x.Active := by
      intro x hx
      rw [hevidence]
      exact hrecords x (List.mem_cons_of_mem _ hx)
    unfold searchRecords matchesOf
    simp only [hpayload, List.flatMap_cons]
    rw [ih (v := { v with db := db' }) hready' hrest]
    rfl

theorem searchRecords_unread (hvault : context.vault = none) : ∀ {i : ℕ} {v : VaultState},
    (searchRecords context env identity envelope subject i records v).1 =
      matchesOf env subject (fun _ => "") records := by
  induction records with
  | nil => exact rfl
  | cons r records ih =>
    intro i v
    unfold searchRecords searchPayload matchesOf
    simp only [hvault, List.flatMap_cons]
    rw [ih]
    rfl

/-! ### Independent results -/

variable {s' : CanonicalState}

theorem of_mem_selectEvidence
    (h : r ∈ selectEvidence s.vault.db envelope.tenantId engagementId sourceType limit) :
    r ∈ s.vault.db.evidence ∧ r.tenantId = envelope.tenantId ∧ r.Active := by
  obtain ⟨hr, htenant, hactive, -⟩ := mem_selectEvidence h
  exact ⟨hr, htenant, hactive⟩

theorem selectEvidence_agree (hagree : Agree envelope s s') (hne : envelope.engagementId ≠ "") :
    selectEvidence s'.vault.db envelope.tenantId (some envelope.engagementId) sourceType limit =
      selectEvidence s.vault.db envelope.tenantId (some envelope.engagementId) sourceType
        limit := by
  rw [selectEvidence_own hne, selectEvidence_own hne, hagree.evidence]

theorem object_agree (hagree : Agree envelope s s') (hne : envelope.engagementId ≠ "")
    (hr : r ∈ selectEvidence s.vault.db envelope.tenantId (some envelope.engagementId) sourceType
      limit) : objectOf s'.vault.files r = objectOf s.vault.files r := by
  obtain ⟨hmem, htenant, -, hscope⟩ := mem_selectEvidence hr
  have htruthy : PyString.truthy (some envelope.engagementId) = true := by
    simpa [PyString.truthy] using hne
  exact objectOf_congr (hagree.objects r (mem_ownEvidence.mpr ⟨hmem, htenant, hscope htruthy⟩))

theorem ScopeResolves.engagement {α : Type} {request : Except DomainToolError α} {a : α}
    (h : ScopeResolves envelope request) (hrequest : request = .ok a) :
    envelope.engagementId ≠ "" := by
  rcases h with hnone | hne
  · rw [hrequest] at hnone
    cases hnone
  · exact hne

theorem evidenceQuery_agree
    (hinj : ∀ S ∈ context.vault, Set.InjOn S.sha256 (Set.range canonicalJson))
    (htenant : "tenant" ∉ envelope.allowedEvidenceScopes)
    (hconfined : ScopeResolves envelope (evidenceRequest env envelope arguments))
    (hs : Sound context env s) (hs' : Sound context env s') (hagree : Agree envelope s s') :
    (evidenceQuery context env identity envelope arguments s').1 =
      (evidenceQuery context env identity envelope arguments s).1 := by
  unfold evidenceQuery
  rcases hrequest : evidenceRequest env envelope arguments with error | request
  · rfl
  · have hne : envelope.engagementId ≠ "" := hconfined.engagement hrequest
    obtain ⟨hscope, -, -⟩ := evidenceRequest_eq_ok htenant hrequest
    simp only [hscope, selectEvidence_agree hagree hne]
    rcases hinclude : request.includeContent with _ | _
    · rfl
    · rcases hvault : context.vault with _ | S
      · rfl
      · have hmem : ∀ {s : CanonicalState}, ∀ r ∈ narrow env request.query (selectEvidence s.vault.db
            envelope.tenantId (some envelope.engagementId) request.sourceType request.limit.toNat),
            r ∈ s.vault.db.evidence ∧ r.tenantId = envelope.tenantId ∧ r.Active :=
          fun r hr => of_mem_selectEvidence (mem_narrow hr)
        have hmem' := hmem (s := s')
        rw [selectEvidence_agree hagree hne] at hmem'
        rw [readEntries_eq (hinj S hvault) (hs'.ready S hvault) hmem',
          readEntries_eq (hinj S hvault) (hs.ready S hvault) hmem,
          entriesOf_congr fun r hr => object_agree hagree hne (mem_narrow hr)]

theorem contradictionsSearch_agree
    (hinj : ∀ S ∈ context.vault, Set.InjOn S.sha256 (Set.range canonicalJson))
    (htenant : "tenant" ∉ envelope.allowedEvidenceScopes)
    (hconfined : ScopeResolves envelope (searchRequest env envelope arguments))
    (hs : Sound context env s) (hs' : Sound context env s') (hagree : Agree envelope s s') :
    (contradictionsSearch context env identity envelope arguments s').1 =
      (contradictionsSearch context env identity envelope arguments s).1 := by
  unfold contradictionsSearch
  rcases hrequest : searchRequest env envelope arguments with error | request
  · rfl
  · have hne : envelope.engagementId ≠ "" := hconfined.engagement hrequest
    simp only [searchRequest_eq_ok htenant hrequest, selectEvidence_agree hagree hne]
    rcases hvault : context.vault with _ | S
    · rw [searchRecords_unread hvault, searchRecords_unread hvault]
    · have hmem : ∀ {s : CanonicalState}, ∀ r ∈ selectEvidence s.vault.db envelope.tenantId
          (some envelope.engagementId) "" 300,
          r ∈ s.vault.db.evidence ∧ r.tenantId = envelope.tenantId ∧ r.Active :=
        fun r hr => of_mem_selectEvidence hr
      have hmem' := hmem (s := s')
      rw [selectEvidence_agree hagree hne] at hmem'
      rw [searchRecords_eq hvault (hinj S hvault) (hs'.ready S hvault) hmem',
        searchRecords_eq hvault (hinj S hvault) (hs.ready S hvault) hmem,
        matchesOf_congr fun r hr => searchText_congr (object_agree hagree hne hr)]

theorem evidenceHashVerify_fst (hvault : context.vault = some S)
    (hne : argument env arguments "evidence_id" ≠ "") :
    (evidenceHashVerify context env envelope arguments s).1 =
      match (S.verifyIntegrity s.vault (env.ambient 0) envelope.tenantId
          (argument env arguments "evidence_id")).map fun report => (report.1, report.2.1) with
      | .error error => .error (.vault error)
      | .ok (_, some error) => .error (.vault error)
      | .ok (report, none) => .ok (.integrity (argument env arguments "evidence_id") report.status
          report.expectedSha256 none) := by
  unfold evidenceHashVerify
  simp only [hvault, if_neg hne]
  rcases S.verifyIntegrity s.vault (env.ambient 0) envelope.tenantId
    (argument env arguments "evidence_id") with error | ⟨report, _ | error, db⟩
  · rfl
  · rfl
  · rfl

theorem evidenceHashVerify_agree
    (hinj : ∀ S ∈ context.vault, Set.InjOn S.sha256 (Set.range canonicalJson))
    (hconfined : Confined context env envelope arguments s .evidenceHashVerify)
    (hs : Sound context env s) (hs' : Sound context env s') (hagree : Agree envelope s s') :
    (evidenceHashVerify context env envelope arguments s').1 =
      (evidenceHashVerify context env envelope arguments s).1 := by
  rcases hvault : context.vault with _ | S
  · simp only [evidenceHashVerify, hvault]
  by_cases hid : argument env arguments "evidence_id" = ""
  · simp only [evidenceHashVerify, hvault, if_pos hid]
  rcases hconfined with hnone | hempty | hown
  · rw [hvault] at hnone
    cases hnone
  · exact absurd hempty hid
  -- the id names a record of the engagement, which both states have
  obtain ⟨r, hr, hrid⟩ := List.mem_map.mp hown
  obtain ⟨hmem, htenant, -⟩ := mem_ownEvidence.mp hr
  have hr' : r ∈ ownEvidence envelope s' := by
    rw [hagree.evidence]
    exact hr
  obtain ⟨hmem', -, -⟩ := mem_ownEvidence.mp hr'
  have hreport := verifyIntegrity_eq (hinj S hvault) (hs.ready S hvault) hmem "evidence-vault"
  have hreport' := verifyIntegrity_eq (hinj S hvault) (hs'.ready S hvault) hmem' "evidence-vault"
  rw [htenant, hrid] at hreport hreport'
  rw [evidenceHashVerify_fst hvault hid, evidenceHashVerify_fst hvault hid, hreport, hreport',
    reportOn_congr (hagree.objects r hr)]

theorem selectRuns_own (hs : Sound context env s) {testId : String} (hne : runId ≠ "")
    (hown : runId ∈ runIds (ownRuns envelope s)) :
    selectRuns s.testRuns envelope.tenantId runId testId =
      selectRuns (ownRuns envelope s) envelope.tenantId runId testId := by
  unfold selectRuns ownRuns
  rw [List.filter_filter]
  refine List.filter_congr fun x hx => ?_
  obtain ⟨y, hy, hid⟩ := mem_runIds.mp hown
  obtain ⟨hmem, htenant, hengagement⟩ := mem_ownRuns.mp hy
  by_cases hx' : x.run.runId = runId
  · have hxy : x = y := Table.eq_of_key_eq hs.runs hx hmem (hx'.trans hid.symm)
    simp [hxy, htenant, hengagement]
  · simp [hne, hx']

theorem selectExceptions_own (hne : runId ≠ "") (hown : runId ∈ runIds (ownRuns envelope s)) :
    selectExceptions s.testExceptions tenantId runId =
      selectExceptions (ownExceptions envelope s) tenantId runId := by
  unfold selectExceptions ownExceptions
  rw [List.filter_filter]
  congr 1
  refine List.filter_congr fun x _ => ?_
  by_cases hx : x.row.runId = runId
  · simp [hx, hown]
  · simp [hne, hx]

theorem populationReconcile_fst : (populationReconcile env envelope arguments s).1 =
    match (orderByDesc TestRunRow.createdAt (selectRuns s.testRuns envelope.tenantId
      (argument env arguments "run_id") (upper env (argument env arguments "test_id")))).head? with
    | none => .error .noRun
    | some x => .ok (.run (summaryOf x.run)) := by
  unfold populationReconcile
  dsimp only
  split
  · rename_i hrows
    rw [hrows]
    rfl
  · rename_i hrows
    rw [hrows]
    rfl

theorem populationReconcile_agree
    (hconfined : Confined context env envelope arguments s .populationReconcile)
    (hs : Sound context env s) (hs' : Sound context env s') (hagree : Agree envelope s s') :
    (populationReconcile env envelope arguments s').1 =
      (populationReconcile env envelope arguments s).1 := by
  obtain ⟨hne, hown⟩ := hconfined
  have hown' := hown
  rw [← hagree.runs] at hown'
  rw [populationReconcile_fst, populationReconcile_fst, selectRuns_own hs hne hown,
    selectRuns_own hs' hne hown', hagree.runs]

theorem exceptionsClassify_agree
    (hconfined : Confined context env envelope arguments s .exceptionsClassify)
    (hagree : Agree envelope s s') :
    (exceptionsClassify env envelope arguments s').1 =
      (exceptionsClassify env envelope arguments s).1 := by
  obtain ⟨hne, hown⟩ := hconfined
  have hown' := hown
  rw [← hagree.runs] at hown'
  unfold exceptionsClassify
  simp only [selectExceptions_own hne hown, selectExceptions_own hne hown', hagree.exceptions]

/-- **Confined calls.** -/
theorem call_agree {tool : DomainTool}
    (hinj : ∀ S ∈ context.vault, Set.InjOn S.sha256 (Set.range canonicalJson))
    (htenant : "tenant" ∉ envelope.allowedEvidenceScopes)
    (hconfined : Confined context env envelope arguments s tool)
    (hs : Sound context env s) (hs' : Sound context env s') (hagree : Agree envelope s s') :
    (tool.call context env identity envelope arguments s').1 =
      (tool.call context env identity envelope arguments s).1 := by
  cases tool with
  | evidenceQuery => exact evidenceQuery_agree hinj htenant hconfined hs hs' hagree
  | evidenceHashVerify => exact evidenceHashVerify_agree hinj hconfined hs hs' hagree
  | contradictionsSearch => exact contradictionsSearch_agree hinj htenant hconfined hs hs' hagree
  | populationReconcile => exact populationReconcile_agree hconfined hs hs' hagree
  | exceptionsClassify => exact exceptionsClassify_agree hconfined hagree

end Calls

end Governance.DomainTools
