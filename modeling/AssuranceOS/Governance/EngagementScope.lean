/-
The scope of a call.

`calls_independent`: the result of a call depends on the records of the envelope's engagement alone
exactly when the call is `Confined`.  `evidence.hash.verify`, `population.reconcile` and
`exceptions.classify` never resolve the scope of the envelope: they go by the tenant and by the id
in their arguments, and so they also give what belongs to another engagement
(`foreign_run_read`).

For the converse a state is built from the records of the engagement and others beside them
(`besides`), which agrees with the given one and gives another result.
-/
import AssuranceOS.Governance.EngagementRecords
import AssuranceOS.Lib.Independence
import AssuranceOS.Vault.Collection
import Mathlib.Data.Fintype.EquivFin

namespace Governance.DomainTools

open JsonText Vault Adjudication Independence

/-! ### Agreeing states -/

section Besides

def besides (envelope : ExecutionEnvelope) (s : CanonicalState) (records : List EvidenceRecord)
    (runs : List TestRunRow) (exceptions : List TestExceptionRow) : CanonicalState where
  vault :=
    { s.vault with
      db := { s.vault.db with evidence := records ++ ownEvidence envelope s, custody := [] } }
  testRuns := runs ++ ownRuns envelope s
  testExceptions := exceptions ++ ownExceptions envelope s

/-- What the others must be like for the state to agree and to be sound. -/
structure Outside (envelope : ExecutionEnvelope) (s : CanonicalState)
    (records : List EvidenceRecord) (runs : List TestRunRow) (exceptions : List TestExceptionRow) :
    Prop where
  unscoped : ∀ r ∈ records, r.engagementId = none ∧ r.acquisitionKey = none
  unscopedRuns : ∀ x ∈ runs, x.run.engagementId = none
  evidenceIds : ((records ++ ownEvidence envelope s).map EvidenceRecord.evidenceId).Nodup
  testRunIds : (runIds (runs ++ ownRuns envelope s)).Nodup
  owned : ∀ x ∈ exceptions, x.row.runId ∈ runIds runs

variable {context : DomainToolContext} {env : ToolEnvironment} {envelope : ExecutionEnvelope}
  {s : CanonicalState} {records : List EvidenceRecord} {runs : List TestRunRow}
  {exceptions : List TestExceptionRow}

theorem ownRuns_besides (h : Outside envelope s records runs exceptions) :
    ownRuns envelope (besides envelope s records runs exceptions) = ownRuns envelope s := by
  show (runs ++ ownRuns envelope s).filter _ = _
  rw [List.filter_append]
  have hnone : (runs.filter fun x => x.run.tenantId = envelope.tenantId ∧
      x.run.engagementId = some envelope.engagementId) = [] := by
    rw [List.filter_eq_nil_iff]
    intro x hx
    simp [h.unscopedRuns x hx]
  rw [hnone, List.nil_append]
  unfold ownRuns
  rw [List.filter_filter]
  simp

theorem Outside.agree (h : Outside envelope s records runs exceptions) :
    Agree envelope s (besides envelope s records runs exceptions) := by
  refine ⟨?_, fun r _ key _ p _ => rfl, ownRuns_besides h, ?_⟩
  · show (records ++ ownEvidence envelope s).filter _ = _
    rw [List.filter_append]
    have hnone : (records.filter fun r => r.tenantId = envelope.tenantId ∧
        r.engagementId = some envelope.engagementId) = [] := by
      rw [List.filter_eq_nil_iff]
      intro r hr
      simp [(h.unscoped r hr).1]
    rw [hnone, List.nil_append]
    unfold ownEvidence
    rw [List.filter_filter]
    simp
  · show (exceptions ++ ownExceptions envelope s).filter (fun x => x.row.runId ∈
      runIds (ownRuns envelope (besides envelope s records runs exceptions))) = _
    rw [ownRuns_besides h, List.filter_append]
    have hnone : (exceptions.filter fun x => x.row.runId ∈ runIds (ownRuns envelope s)) = [] := by
      rw [List.filter_eq_nil_iff]
      intro x hx
      have hdisjoint := h.testRunIds
      unfold runIds at hdisjoint
      rw [List.map_append, List.nodup_append] at hdisjoint
      have hout : x.row.runId ∉ runIds (ownRuns envelope s) := fun hin =>
        hdisjoint.2.2 _ (h.owned x hx) _ hin rfl
      simp [hout]
    rw [hnone, List.nil_append]
    unfold ownExceptions
    rw [List.filter_filter]
    simp

theorem Outside.unique (h : Outside envelope s records runs exceptions)
    (hs : Sound context env s) :
    Unique (besides envelope s records runs exceptions).vault.db := by
  refine ⟨h.evidenceIds, fun r hr r' hr' htaken => ?_⟩
  obtain ⟨htenant, hkey, hsame⟩ := htaken
  have hown : ∀ x ∈ records ++ ownEvidence envelope s, x.acquisitionKey ≠ none →
      x ∈ s.vault.db.evidence := by
    intro x hx hne
    rcases List.mem_append.mp hx with hx | hx
    · exact absurd (h.unscoped x hx).2 hne
    · exact (mem_ownEvidence.mp hx).1
  exact hs.unique.keys r (hown r hr hkey) r' (hown r' hr' (hsame ▸ hkey)) ⟨htenant, hkey, hsame⟩

theorem Outside.sound (h : Outside envelope s records runs exceptions)
    (hs : Sound context env s) :
    Sound context env (besides envelope s records runs exceptions) where
  unique := h.unique hs
  ready S hS :=
    { linked := fun _ _ => trivial
      unique := h.unique hs
      distinct := (hs.ready S hS).distinct
      unused := fun _ _ hmem => by cases hmem }
  runs := h.testRunIds
  exceptions x hx := by
    show x.row.runId ∈ runIds (runs ++ ownRuns envelope s)
    unfold runIds
    rw [List.map_append, List.mem_append]
    rcases List.mem_append.mp hx with hx | hx
    · exact Or.inl (h.owned x hx)
    · refine Or.inr ?_
      have hmem := (List.mem_filter.mp hx).2
      simpa [runIds] using hmem

theorem ownEvidence_nodup (hs : Sound context env s) :
    ((ownEvidence envelope s).map EvidenceRecord.evidenceId).Nodup :=
  hs.unique.ids.sublist (List.filter_sublist.map _)

theorem ownRuns_nodup (hs : Sound context env s) : (runIds (ownRuns envelope s)).Nodup :=
  hs.runs.sublist (List.filter_sublist.map _)

theorem outside_nil (hs : Sound context env s) : Outside envelope s [] [] [] where
  unscoped := by simp
  unscopedRuns := by simp
  evidenceIds := ownEvidence_nodup hs
  testRunIds := ownRuns_nodup hs
  owned := by simp

end Besides

section Strangers

variable (envelope : ExecutionEnvelope)

def strangeRecord (now : DateTime) (evidenceId sourceType sourceLocator : String) :
    EvidenceRecord where
  evidenceId := evidenceId
  tenantId := envelope.tenantId
  engagementId := none
  taskId := none
  acquisitionKey := none
  recordKind := .original
  sourceType := sourceType
  sourceLocator := sourceLocator
  contentSha256 := ""
  storageProvider := "local"
  storageKey := none
  objectUri := none
  originalFilename := none
  mimeType := none
  contentEncoding := none
  sizeBytes := 0
  classification := "internal"
  sourceTime := none
  collectedAt := now
  accepted := false
  tainted := false
  integrityStatus := .unverified
  lastVerifiedAt := none
  retentionUntil := none
  legalHold := false
  metadata := .empty

def strangeRun (runId testId : String) (createdAt : Timestamp) : TestRunRow where
  run :=
    { runId := runId
      tenantId := envelope.tenantId
      engagementId := none
      taskId := none
      testId := testId
      testVersion := "1.0.0"
      status := .succeeded
      purpose := ""
      periodStart := 0
      periodEnd := 0
      idempotencyKey := runId
      parameters := []
      populationCount := 0
      sampledCount := 0
      reconciledCount := 0
      populationComplete := true
      inputManifestHash := "" }
  createdAt := createdAt

def strangeException (runId exceptionKey : String) : TestExceptionRow where
  tenantId := envelope.tenantId
  row :=
    { runId := runId
      exception :=
        { exceptionKey := exceptionKey
          subjectRef := ""
          classification := ""
          severity := "medium"
          status := .opened
          reason := ""
          attributes := []
          evidenceIds := [] } }

variable {envelope} {context : DomainToolContext} {env : ToolEnvironment} {s : CanonicalState}

theorem outside_record (hs : Sound context env s) {evidenceId : String}
    (hid : evidenceId ∉ (ownEvidence envelope s).map EvidenceRecord.evidenceId)
    (now : DateTime) (sourceType sourceLocator : String) :
    Outside envelope s [strangeRecord envelope now evidenceId sourceType sourceLocator] [] [] where
  unscoped r hr := by
    obtain rfl := List.mem_singleton.mp hr
    exact ⟨rfl, rfl⟩
  unscopedRuns := by simp
  evidenceIds := List.nodup_cons.mpr ⟨hid, ownEvidence_nodup hs⟩
  testRunIds := ownRuns_nodup hs
  owned := by simp

theorem outside_run (hs : Sound context env s) {runId : String}
    (hid : runId ∉ runIds (ownRuns envelope s)) (testId exceptionKey : String)
    (createdAt : Timestamp) :
    Outside envelope s [] [strangeRun envelope runId testId createdAt]
      [strangeException envelope runId exceptionKey] where
  unscoped := by simp
  unscopedRuns x hx := by
    obtain rfl := List.mem_singleton.mp hx
    rfl
  evidenceIds := ownEvidence_nodup hs
  testRunIds := List.nodup_cons.mpr ⟨hid, ownRuns_nodup hs⟩
  owned x hx := by
    obtain rfl := List.mem_singleton.mp hx
    exact List.mem_singleton_self _

end Strangers

theorem exists_fresh (texts : List String) : ∃ t, t ∉ texts := by
  obtain ⟨cs, hcs⟩ := Infinite.exists_notMem_finset (texts.map String.toList).toFinset
  refine ⟨String.ofList cs, fun hmem => hcs ?_⟩
  rw [List.mem_toFinset]
  exact List.mem_map.mpr ⟨_, hmem, String.toList_ofList⟩

section Exposed

variable {context : DomainToolContext} {env : ToolEnvironment} {identity : AgentIdentity}
  {envelope : ExecutionEnvelope} {arguments : Object} {s : CanonicalState}

/-- `evidence.hash.verify` of a record that is not of the engagement: it is found where it is. -/
theorem evidenceHashVerify_exposed
    (h : ¬ Confined context env envelope arguments s .evidenceHashVerify)
    (hs : Sound context env s) : ¬ Independent (Sound context env) (Agree envelope)
      (fun s => (evidenceHashVerify context env envelope arguments s).1) s := by
  obtain ⟨hbound, hne, hid⟩ : context.vault ≠ none ∧ argument env arguments "evidence_id" ≠ "" ∧
      argument env arguments "evidence_id" ∉
        (ownEvidence envelope s).map EvidenceRecord.evidenceId := by
    simpa only [Confined, not_or] using h
  obtain ⟨S, hvault⟩ := Option.ne_none_iff_exists'.mp hbound
  set evidenceId := argument env arguments "evidence_id" with hargument
  set now := (env.ambient 0).clock 0
  set stranger := strangeRecord envelope now evidenceId "" "" with hstranger
  have hout := outside_record hs hid now "" ""
  refine not_independent ((outside_nil hs).sound hs) (hout.sound hs) (outside_nil hs).agree
    hout.agree ?_
  rw [evidenceHashVerify_fst hvault hne, evidenceHashVerify_fst hvault hne]
  have hmissing : (besides envelope s [] [] []).vault.db.get envelope.tenantId evidenceId true =
      none := by
    rw [Vault.Database.get, List.find?_eq_none]
    intro r hr
    have hother : r.evidenceId ≠ evidenceId := fun heq => hid (List.mem_map.mpr ⟨r, hr, heq⟩)
    simp [hother]
  have hfound : (besides envelope s [stranger] [] []).vault.db.get envelope.tenantId evidenceId
      true = some stranger := by
    show List.find? _ (stranger :: _) = _
    rw [List.find?_cons_of_pos]
    simp [hstranger, strangeRecord]
  have hfirst : S.verifyIntegrity (besides envelope s [] [] []).vault (env.ambient 0)
      envelope.tenantId evidenceId = .error (.evidenceNotFound evidenceId) := by
    unfold EvidenceVault.verifyIntegrity EvidenceVault.getActiveRecord
    rw [hmissing]
    rfl
  have hsecond : S.verifyIntegrity (besides envelope s [stranger] [] []).vault (env.ambient 0)
      envelope.tenantId evidenceId = .error (.noStoredObject evidenceId) := by
    unfold EvidenceVault.verifyIntegrity EvidenceVault.getActiveRecord
    rw [hfound]
    rfl
  rw [← hargument, hfirst, hsecond]
  simp [Except.map]

variable {α : Type} {subject : String}

theorem orderByDesc_cons_of_max {κ : Type} [LinearOrder κ] {column : α → κ} {x : α} {rows : List α}
    (h : ∀ y ∈ rows, column y ≤ column x) :
    orderByDesc column (x :: rows) = x :: orderByDesc column rows := by
  show List.orderedInsert _ x (orderByDesc column rows) = _
  rcases hrows : orderByDesc column rows with _ | ⟨y, rest⟩
  · rfl
  · have hy : y ∈ orderByDesc column rows := by
      rw [hrows]
      exact List.mem_cons_self
    exact if_pos (h y (mem_orderByDesc.mp hy))

theorem exists_newer (rows : List TestRunRow) : ∃ t, ∀ y ∈ rows, y.createdAt ≤ t := by
  induction rows with
  | nil => exact ⟨0, by simp⟩
  | cons x rows ih =>
    obtain ⟨t, ht⟩ := ih
    refine ⟨max x.createdAt t, fun y hy => ?_⟩
    rcases List.mem_cons.mp hy with rfl | hy
    · exact le_max_left _ _
    · exact (ht y hy).trans (le_max_right _ _)

theorem exists_strange_run (h : ¬ (argument env arguments "run_id" ≠ "" ∧
    argument env arguments "run_id" ∈ runIds (ownRuns envelope s))) :
    ∃ runId, runId ∉ runIds (ownRuns envelope s) ∧
      (argument env arguments "run_id" = "" ∨ runId = argument env arguments "run_id") := by
  by_cases hempty : argument env arguments "run_id" = ""
  · obtain ⟨runId, hnew⟩ := exists_fresh (runIds (ownRuns envelope s))
    exact ⟨runId, hnew, Or.inl hempty⟩
  · exact ⟨_, fun hown => h ⟨hempty, hown⟩, Or.inr rfl⟩

/-- What `population.reconcile` gives when another run is the newest that matches. -/
theorem populationReconcile_strange {runId : String} {now : Timestamp}
    {exceptions : List TestExceptionRow} (hnewest : ∀ y ∈ ownRuns envelope s, y.createdAt ≤ now)
    (hrunId : argument env arguments "run_id" = "" ∨ runId = argument env arguments "run_id") :
    (populationReconcile env envelope arguments (besides envelope s []
      [strangeRun envelope runId (upper env (argument env arguments "test_id")) now]
      exceptions)).1 =
        .ok (.run (summaryOf (strangeRun envelope runId
          (upper env (argument env arguments "test_id")) now).run)) := by
  rw [populationReconcile_fst]
  set stranger := strangeRun envelope runId (upper env (argument env arguments "test_id")) now
    with hstranger
  have hselect : selectRuns (besides envelope s [] [stranger] exceptions).testRuns
      envelope.tenantId (argument env arguments "run_id")
      (upper env (argument env arguments "test_id")) =
      stranger :: selectRuns (ownRuns envelope s) envelope.tenantId
        (argument env arguments "run_id") (upper env (argument env arguments "test_id")) := by
    show List.filter _ (stranger :: ownRuns envelope s) = _
    rw [List.filter_cons_of_pos]
    · rfl
    · simpa [hstranger, strangeRun] using hrunId
  have hmax : ∀ y ∈ selectRuns (ownRuns envelope s) envelope.tenantId
      (argument env arguments "run_id") (upper env (argument env arguments "test_id")),
      y.createdAt ≤ stranger.createdAt := fun y hy => hnewest y (List.mem_of_mem_filter hy)
  rw [hselect, orderByDesc_cons_of_max hmax]
  rfl

/-- `population.reconcile` of a run that is not of the engagement, or of the newest run. -/
theorem populationReconcile_exposed
    (h : ¬ Confined context env envelope arguments s .populationReconcile)
    (hs : Sound context env s) : ¬ Independent (Sound context env) (Agree envelope)
      (fun s => (populationReconcile env envelope arguments s).1) s := by
  obtain ⟨now, hnow⟩ := exists_newer (ownRuns envelope s)
  obtain ⟨runId, hnew, hrunId⟩ := exists_strange_run h
  have hout := outside_run hs hnew (upper env (argument env arguments "test_id")) "" now
  refine not_independent ((outside_nil hs).sound hs) (hout.sound hs) (outside_nil hs).agree
    hout.agree ?_
  rw [populationReconcile_strange hnow hrunId, populationReconcile_fst]
  rcases hhead : (orderByDesc TestRunRow.createdAt (selectRuns
      (besides envelope s [] [] []).testRuns envelope.tenantId (argument env arguments "run_id")
      (upper env (argument env arguments "test_id")))).head? with _ | x
  · simp
  · intro heq
    have hx := mem_orderByDesc.mp (List.mem_of_mem_head? hhead)
    have hown : x ∈ ownRuns envelope s := List.mem_of_mem_filter hx
    simp only [Except.ok.injEq, ToolResult.run.injEq] at heq
    have hid : x.run.runId = runId := congrArg RunSummary.runId heq
    exact hnew (mem_runIds.mpr ⟨x, hown, hid⟩)

/-- `exceptions.classify` of a run that is not of the engagement, or of every run. -/
theorem exceptionsClassify_exposed
    (h : ¬ Confined context env envelope arguments s .exceptionsClassify)
    (hs : Sound context env s) : ¬ Independent (Sound context env) (Agree envelope)
      (fun s => (exceptionsClassify env envelope arguments s).1) s := by
  obtain ⟨runId, hnew, hrunId⟩ := exists_strange_run h
  obtain ⟨key, hkey⟩ := exists_fresh
    ((ownExceptions envelope s).map fun x => x.row.exception.exceptionKey)
  have hout := outside_run hs hnew "" key 0
  refine not_independent ((outside_nil hs).sound hs) (hout.sound hs) (outside_nil hs).agree
    hout.agree ?_
  intro heq
  simp only [exceptionsClassify, Except.ok.injEq, ToolResult.exceptions.injEq] at heq
  obtain ⟨-, -, hentries⟩ := heq
  have hmem : exceptionEntry (strangeException envelope runId key) ∈
      (selectExceptions (besides envelope s [] [] []).testExceptions envelope.tenantId
        (argument env arguments "run_id")).map exceptionEntry := by
    rw [hentries]
    refine List.mem_map_of_mem ?_
    show _ ∈ (List.filter _ (strangeException envelope runId key :: ownExceptions envelope s)).take
      200
    rw [List.filter_cons_of_pos]
    · exact List.mem_cons_self
    · simpa [strangeException] using hrunId
  obtain ⟨x, hx, hentry⟩ := List.mem_map.mp hmem
  have hown : x ∈ ownExceptions envelope s := List.mem_of_mem_filter (List.mem_of_mem_take hx)
  have hsame : x.row.exception.exceptionKey = key := congrArg ExceptionEntry.exceptionKey hentry
  exact hkey (List.mem_map.mpr ⟨x, hown, hsame⟩)

/-! ### A scope that is empty -/

theorem find_isSome_of_prefix {part text : String} (h : part.toList <+: text.toList) :
    (find part text).isSome = true := by
  unfold find
  rw [List.findIdx?_isSome, List.any_eq_true]
  exact ⟨text.toList, (List.mem_tails _ _).mpr List.suffix_rfl, List.isPrefixOf_iff_prefix.mpr h⟩

theorem beforeCased_append_newline (u : PyString.UnicodeData) (cs rest : List Char) :
    u.beforeCased (cs ++ '\n' :: rest) = u.beforeCased cs := by
  have hspace : PyString.isSpace '\n' = true := by decide
  unfold PyString.UnicodeData.beforeCased
  induction cs with
  | nil => simp [u.caseIgnorable_space '\n' hspace, u.cased_space '\n' hspace]
  | cons c cs ih =>
    rw [List.cons_append, List.dropWhile_cons, List.dropWhile_cons]
    by_cases hc : u.caseIgnorable c = true
    · rw [if_pos hc, if_pos hc]
      exact ih
    · rw [if_neg hc, if_neg hc]
      rfl

theorem lowerChars_prefix (u : PyString.UnicodeData) (cs rest : List Char) (afterCased : Bool) :
    PyString.lowerChars u afterCased cs <+:
      PyString.lowerChars u afterCased (cs ++ '\n' :: rest) := by
  induction cs generalizing afterCased with
  | nil => exact List.nil_prefix
  | cons c cs ih =>
    rw [List.cons_append, PyString.lowerChars, PyString.lowerChars, beforeCased_append_newline]
    exact (List.prefix_append_right_inj _).mpr (ih _)

variable {records : List EvidenceRecord} {r : EvidenceRecord}

theorem readEntries_ids {S : EvidenceVault} :
    ∀ {i : ℕ} {budget : ℤ} {v : VaultState},
    (readEntries env identity envelope S i budget records v).1.map EvidenceEntry.evidenceId =
      records.map EvidenceRecord.evidenceId := by
  induction records with
  | nil => exact rfl
  | cons r records ih =>
    intro i budget v
    unfold readEntries
    by_cases hsize : (r.sizeBytes : ℤ) > budget
    · simp only [if_pos hsize]
      rw [List.map_cons, List.map_cons, ih]
      rfl
    · simp only [if_neg hsize]
      rcases S.readBytes v (env.ambient i) envelope.tenantId r.evidenceId identity.workloadUri
        "agent" envelope.purpose with error | ⟨payload, db⟩
      · show List.map _ (_ :: _) = _
        rw [List.map_cons, List.map_cons, ih]
        rfl
      · show List.map _ (_ :: _) = _
        rw [List.map_cons, List.map_cons, ih]
        rfl

theorem evidenceQuery_ids {request : EvidenceRequest}
    (hrequest : evidenceRequest env envelope arguments = .ok request)
    (context : DomainToolContext) (identity : AgentIdentity) (s : CanonicalState) :
    ∃ entries, (evidenceQuery context env identity envelope arguments s).1 =
        .ok (.evidence request.engagementId entries.length request.includeContent entries) ∧
      entries.map EvidenceEntry.evidenceId =
        (narrow env request.query (selectEvidence s.vault.db envelope.tenantId
          request.engagementId request.sourceType request.limit.toNat)).map
            EvidenceRecord.evidenceId := by
  unfold evidenceQuery
  simp only [hrequest]
  rcases request.includeContent with _ | _
  · refine ⟨_, rfl, ?_⟩
    rw [List.map_map]
    rfl
  · rcases context.vault with _ | S
    · refine ⟨_, rfl, ?_⟩
      rw [List.map_map]
      rfl
    · exact ⟨_, rfl, readEntries_ids⟩

theorem selectEvidence_besides {sourceType : String} {limit : ℕ}
    (htenant : r.tenantId = envelope.tenantId) (hactive : r.Active)
    (hsource : sourceType = "" ∨ r.sourceType = sourceType) (hlimit : 1 ≤ limit) :
    ∃ rest, selectEvidence (besides envelope s [r] [] []).vault.db envelope.tenantId (some "")
      sourceType limit = r :: rest := by
  obtain ⟨n, rfl⟩ : ∃ n, limit = n + 1 := ⟨limit - 1, by omega⟩
  unfold selectEvidence
  show ∃ rest, (List.filter _ (r :: ownEvidence envelope s)).take (n + 1) = r :: rest
  rw [List.filter_cons_of_pos]
  · exact ⟨_, rfl⟩
  · simpa [htenant, hactive, PyString.truthy] using hsource

theorem narrow_cons {query : String} (h : contains query (lower env r.sourceLocator) = true) :
    ∃ rest, narrow env query (r :: records) = r :: rest := by
  unfold narrow
  split
  · exact ⟨records, rfl⟩
  · rw [List.filter_cons_of_pos (by simp [h])]
    exact ⟨_, rfl⟩

theorem of_not_scopeResolves {request : Except DomainToolError α}
    (h : ¬ ScopeResolves envelope request) :
    envelope.engagementId = "" ∧ ∃ r, request = .ok r := by
  rcases request with error | r
  · exact absurd (Or.inl rfl) h
  · refine ⟨?_, r, rfl⟩
    by_contra hne
    exact h (Or.inr hne)

theorem evidenceQuery_exposed (htenant : "tenant" ∉ envelope.allowedEvidenceScopes)
    (h : ¬ Confined context env envelope arguments s .evidenceQuery)
    (hs : Sound context env s) : ¬ Independent (Sound context env) (Agree envelope)
      (fun s => (evidenceQuery context env identity envelope arguments s).1) s := by
  obtain ⟨hempty, request, hrequest⟩ := of_not_scopeResolves h
  obtain ⟨hscope, hquery, hlimit⟩ := evidenceRequest_eq_ok htenant hrequest
  rw [hempty] at hscope
  obtain ⟨evidenceId, hnew⟩ := exists_fresh ((ownEvidence envelope s).map EvidenceRecord.evidenceId)
  have hout := outside_record hs hnew ((env.ambient 0).clock 0) request.sourceType
    (argumentOr env arguments "query" "locator")
  set stranger := strangeRecord envelope ((env.ambient 0).clock 0) evidenceId request.sourceType
    (argumentOr env arguments "query" "locator") with hstranger
  refine not_independent ((outside_nil hs).sound hs) (hout.sound hs) (outside_nil hs).agree
    hout.agree ?_
  obtain ⟨own, hown, hownIds⟩ := evidenceQuery_ids hrequest context identity
    (besides envelope s [] [] [])
  obtain ⟨found, hfound, hfoundIds⟩ := evidenceQuery_ids hrequest context identity
    (besides envelope s [stranger] [] [])
  rw [hown, hfound]
  intro heq
  simp only [Except.ok.injEq, ToolResult.evidence.injEq] at heq
  obtain ⟨-, -, -, rfl⟩ := heq
  -- the record of no engagement comes first in one of the answers
  have hlimit : 1 ≤ request.limit.toNat := by omega
  obtain ⟨rest, hselect⟩ : ∃ rest, selectEvidence (besides envelope s [stranger] [] []).vault.db
      envelope.tenantId (some "") request.sourceType request.limit.toNat = stranger :: rest :=
    selectEvidence_besides rfl rfl (Or.inr rfl) hlimit
  have hmention : contains request.query (lower env stranger.sourceLocator) = true := by
    rw [hquery]
    exact find_isSome_of_prefix List.prefix_rfl
  obtain ⟨rest', hnarrow⟩ : ∃ rest', narrow env request.query (stranger :: rest) =
      stranger :: rest' := narrow_cons hmention
  rw [hscope, hselect, hnarrow, hownIds] at hfoundIds
  have hmem : evidenceId ∈ (narrow env request.query (selectEvidence
      (besides envelope s [] [] []).vault.db envelope.tenantId request.engagementId
      request.sourceType request.limit.toNat)).map EvidenceRecord.evidenceId := by
    rw [hfoundIds]
    exact List.mem_cons_self
  obtain ⟨r, hr, hid⟩ := List.mem_map.mp hmem
  obtain ⟨hown, -⟩ := mem_selectEvidence (mem_narrow hr)
  exact hnew (List.mem_map.mpr ⟨r, hown, hid⟩)

theorem searchRecords_ids {m : EvidenceMatch} :
    ∀ {i : ℕ} {v : VaultState},
    m ∈ (searchRecords context env identity envelope subject i records v).1 →
      ∃ r ∈ records, m.evidenceId = r.evidenceId := by
  induction records with
  | nil =>
    intro i v hm
    cases hm
  | cons r records ih =>
    intro i v hm
    unfold searchRecords at hm
    rcases List.mem_append.mp hm with hm | hm
    · unfold matchOf at hm
      rw [Option.mem_toList, Option.map_eq_some_iff] at hm
      obtain ⟨index, -, rfl⟩ := hm
      exact ⟨r, List.mem_cons_self, rfl⟩
    · obtain ⟨x, hx, hid⟩ := ih hm
      exact ⟨x, List.mem_cons_of_mem _ hx, hid⟩

theorem searchRecords_head {v : VaultState} (hlocator : r.sourceLocator = subject) :
    ∃ m rest, (searchRecords context env identity envelope subject 0 (r :: records) v).1 =
      m :: rest ∧ m.evidenceId = r.evidenceId := by
  unfold searchRecords
  generalize searchPayload context env identity envelope subject 0 r v = payload
  have hfind : (find (lower env subject)
      (lower env (r.sourceLocator ++ "\n" ++ payload.1))).isSome = true := by
    refine find_isSome_of_prefix ?_
    have hprefix := lowerChars_prefix env.unicode subject.toList payload.1.toList false
    simpa [lower, PyString.lower, hlocator] using hprefix
  obtain ⟨index, hindex⟩ := Option.isSome_iff_exists.mp hfind
  simp only [matchOf, hindex, Option.map_some, Option.toList_some, List.singleton_append]
  exact ⟨_, _, rfl, rfl⟩

theorem contradictionsSearch_exposed (htenant : "tenant" ∉ envelope.allowedEvidenceScopes)
    (h : ¬ Confined context env envelope arguments s .contradictionsSearch)
    (hs : Sound context env s) : ¬ Independent (Sound context env) (Agree envelope)
      (fun s => (contradictionsSearch context env identity envelope arguments s).1) s := by
  obtain ⟨hempty, request, hrequest⟩ := of_not_scopeResolves h
  have hscope := searchRequest_eq_ok htenant hrequest
  rw [hempty] at hscope
  obtain ⟨evidenceId, hnew⟩ := exists_fresh ((ownEvidence envelope s).map EvidenceRecord.evidenceId)
  have hout := outside_record hs hnew ((env.ambient 0).clock 0) "" request.subject
  set stranger := strangeRecord envelope ((env.ambient 0).clock 0) evidenceId "" request.subject
  refine not_independent ((outside_nil hs).sound hs) (hout.sound hs) (outside_nil hs).agree
    hout.agree ?_
  obtain ⟨rest, hselect⟩ : ∃ rest, selectEvidence (besides envelope s [stranger] [] []).vault.db
      envelope.tenantId (some "") "" 300 = stranger :: rest :=
    selectEvidence_besides rfl rfl (Or.inl rfl) (by omega)
  obtain ⟨m, others, hhead, hid⟩ : ∃ m others, (searchRecords context env identity envelope
      request.subject 0 (stranger :: rest) (besides envelope s [stranger] [] []).vault).1 =
        m :: others ∧ m.evidenceId = evidenceId := searchRecords_head rfl
  unfold contradictionsSearch
  simp only [hrequest, hscope, hselect, hhead]
  intro heq
  simp only [Except.ok.injEq, ToolResult.matching.injEq] at heq
  obtain ⟨-, -, hfound⟩ := heq
  have hmem : m ∈ (searchRecords context env identity envelope request.subject 0
      (selectEvidence (besides envelope s [] [] []).vault.db envelope.tenantId (some "") "" 300)
      (besides envelope s [] [] []).vault).1 := by
    refine List.mem_of_mem_take (i := 20) ?_
    rw [hfound]
    exact List.mem_cons_self
  obtain ⟨r, hr, hrid⟩ := searchRecords_ids hmem
  obtain ⟨hown, -⟩ := mem_selectEvidence hr
  exact hnew (List.mem_map.mpr ⟨r, hown, hrid.symm.trans hid⟩)

/-- **Calls.**  The result of a call depends on the records of the engagement alone exactly when the
call is confined. -/
theorem calls_independent {tool : DomainTool}
    (hinj : ∀ S ∈ context.vault, Set.InjOn S.sha256 (Set.range canonicalJson))
    (htenant : "tenant" ∉ envelope.allowedEvidenceScopes) (hs : Sound context env s) :
    Independent (Sound context env) (Agree envelope)
        (fun s => (tool.call context env identity envelope arguments s).1) s ↔
      Confined context env envelope arguments s tool := by
  constructor
  · intro h
    by_contra hexposed
    cases tool with
    | evidenceQuery => exact evidenceQuery_exposed htenant hexposed hs h
    | evidenceHashVerify => exact evidenceHashVerify_exposed hexposed hs h
    | contradictionsSearch => exact contradictionsSearch_exposed htenant hexposed hs h
    | populationReconcile => exact populationReconcile_exposed hexposed hs h
    | exceptionsClassify => exact exceptionsClassify_exposed hexposed hs h
  · intro hconfined s' hs' hagree
    exact call_agree hinj htenant hconfined hs hs' hagree

end Exposed

/-! ### A concrete tenant -/

def sampleEnvelope : ExecutionEnvelope where
  taskId := "tsk_1"
  engagementId := "eng_1"
  tenantId := "tnt_a"
  agentRole := "control-tester"
  agentVersion := "1.0.0"
  purpose := "test the approvals"
  allowedEvidenceScopes := ["engagement"]
  allowedTools := ["population.reconcile", "exceptions.classify"]
  forbiddenActions := []
  modelPolicy := "default"

def sampleTools : ToolEnvironment where
  conversions := .plain
  unicode := PyString.asciiData
  uppercase c := [c.toUpper]
  zoned := true
  ambient i :=
    { clock := fun _ => sampleTime 1
      fileTime := sampleTime 1
      hex := fun _ => String.ofList (List.replicate i 'a') }

def sampleContext : DomainToolContext where
  vault := some { sha256 := spelled }

def otherRun : TestRunRow where
  run := { (strangeRun sampleEnvelope "run_2" "SCM-01" 0).run with engagementId := some "eng_2" }
  createdAt := 0

def otherException : TestExceptionRow :=
  strangeException sampleEnvelope "run_2" "PR-1"

/-- A record of each engagement. -/
def sampleRecord (evidenceId engagementId : String) : EvidenceRecord :=
  { strangeRecord sampleEnvelope (sampleTime 0) evidenceId "jira" "CHG" with
    engagementId := some engagementId }

def unguardedVault : Vault.Database where
  tenants := ["tnt_a"]
  engagements := [("tnt_a", "eng_1"), ("tnt_a", "eng_2")]
  evidence := [sampleRecord "evd_1" "eng_1", sampleRecord "evd_2" "eng_2"]

def acquire (db : Vault.Database) (hex evidenceId : String) : Vault.Database :=
  { db with custody := db.custody ++ [db.nextCustodyEvent spelled hex "tnt_a" evidenceId
      ⟨"acquired", "user", "a", sampleTime 0, .empty⟩] }

def sampleVault : Vault.Database := acquire (acquire unguardedVault "1" "evd_1") "2" "evd_2"

def sampleState (runs : List TestRunRow) (exceptions : List TestExceptionRow) : CanonicalState where
  vault := { db := sampleVault }
  testRuns := runs
  testExceptions := exceptions

theorem sampleAmbient_distinct : Function.Injective fun i => (sampleTools.ambient i).hex 0 := by
  intro i j h
  have hlength := congrArg (fun s : String => s.toList.length) h
  simpa [sampleTools] using hlength

theorem sampleVault_linked : ChainsLinked spelled sampleVault := by
  have hempty : ChainsLinked spelled unguardedVault := fun _ _ => trivial
  have hfirst : ChainsLinked spelled (acquire unguardedVault "1" "evd_1") :=
    hempty.write (.custody "1" "tnt_a" "evd_1" _ (by decide +kernel)
      ⟨by simp [unguardedVault], by simp [unguardedVault], by simp [unguardedVault]⟩)
  exact hfirst.write (.custody "2" "tnt_a" "evd_2" _ (by decide +kernel)
    ⟨by decide +kernel, by decide +kernel, by decide +kernel⟩)

theorem sampleVault_unique : Unique sampleVault := by
  refine ⟨by decide +kernel, fun r hr r' _ htaken => ?_⟩
  have hkey : ∀ r ∈ sampleVault.evidence, r.acquisitionKey = none := by decide +kernel
  exact absurd (hkey r hr) htaken.2.1

theorem sampleVault_unused (i : ℕ) : newId "cst" ((sampleTools.ambient i).hex 0) ∉
    sampleVault.custody.map EvidenceCustodyEvent.custodyEventId := by
  have hids : sampleVault.custody.map EvidenceCustodyEvent.custodyEventId =
      [newId "cst" "1", newId "cst" "2"] := by decide +kernel
  have hother : ∀ c, c ≠ 'a' → newId "cst" ((sampleTools.ambient i).hex 0) ≠
      newId "cst" (String.ofList [c]) := by
    intro c hc heq
    have hlist := congrArg String.toList (newId_injective "cst" heq)
    have hmem : c ∈ List.replicate i 'a' := by
      simp only [sampleTools, String.toList_ofList] at hlist
      rw [hlist]
      exact List.mem_singleton_self c
    exact hc (List.eq_of_mem_replicate hmem)
  rw [hids]
  intro hmem
  rcases List.mem_cons.mp hmem with heq | hmem
  · exact hother '1' (by decide) heq
  · exact hother '2' (by decide) (List.mem_singleton.mp hmem)

theorem sampleState_sound {runs : List TestRunRow} {exceptions : List TestExceptionRow}
    (hruns : (runIds runs).Nodup) (hexceptions : ∀ x ∈ exceptions, x.row.runId ∈ runIds runs) :
    Sound sampleContext sampleTools (sampleState runs exceptions) where
  unique := sampleVault_unique
  ready S hS := by
    obtain rfl := Option.some.inj hS
    exact
      { linked := sampleVault_linked
        unique := sampleVault_unique
        distinct := sampleAmbient_distinct
        unused := fun i _ => sampleVault_unused i }
  runs := hruns
  exceptions := hexceptions

theorem otherState_sound :
    Sound sampleContext sampleTools (sampleState [otherRun] [otherException]) :=
  sampleState_sound (by decide) (by decide)

/-- An envelope of the first engagement reads the run of the second one and its exceptions. -/
theorem foreign_run_read :
    "tenant" ∉ sampleEnvelope.allowedEvidenceScopes ∧
      Sound sampleContext sampleTools (sampleState [] []) ∧
      Sound sampleContext sampleTools (sampleState [otherRun] [otherException]) ∧
      Agree sampleEnvelope (sampleState [] []) (sampleState [otherRun] [otherException]) ∧
      (populationReconcile sampleTools sampleEnvelope [] (sampleState [] [])).1 =
        .error .noRun ∧
      (populationReconcile sampleTools sampleEnvelope []
        (sampleState [otherRun] [otherException])).1 = .ok (.run (summaryOf otherRun.run)) ∧
      (exceptionsClassify sampleTools sampleEnvelope [] (sampleState [] [])).1 =
        .ok (.exceptions none 0 []) ∧
      (exceptionsClassify sampleTools sampleEnvelope []
        (sampleState [otherRun] [otherException])).1 =
          .ok (.exceptions none 1 [exceptionEntry otherException]) := by
  refine ⟨by decide, sampleState_sound (by decide) (by simp), otherState_sound,
    ⟨rfl, fun r _ key _ p _ => rfl, ?_, ?_⟩, ?_, ?_, ?_, ?_⟩
  all_goals rfl

/-- Beside a run and evidence of another engagement, reading the evidence of the own one is
independent of them, and reading that run, or checking that evidence, is not. -/
theorem calls_independent_sample :
    Independent (Sound sampleContext sampleTools) (Agree sampleEnvelope)
        (fun s => (DomainTool.evidenceQuery.call sampleContext sampleTools ⟨"agent"⟩ sampleEnvelope
          [("include_content", .bool true)] s).1) (sampleState [otherRun] [otherException]) ∧
      ¬ Independent (Sound sampleContext sampleTools) (Agree sampleEnvelope)
        (fun s => (DomainTool.populationReconcile.call sampleContext sampleTools ⟨"agent"⟩
          sampleEnvelope [("run_id", .str "run_2")] s).1)
        (sampleState [otherRun] [otherException]) ∧
      ¬ Independent (Sound sampleContext sampleTools) (Agree sampleEnvelope)
        (fun s => (DomainTool.evidenceHashVerify.call sampleContext sampleTools ⟨"agent"⟩
          sampleEnvelope [("evidence_id", .str "evd_2")] s).1)
        (sampleState [otherRun] [otherException]) := by
  have hinj : ∀ S ∈ sampleContext.vault, Set.InjOn S.sha256 (Set.range canonicalJson) := by
    intro S hS
    obtain rfl := Option.some.inj hS
    exact spelled_injective.injOn
  have htenant : "tenant" ∉ sampleEnvelope.allowedEvidenceScopes := by decide
  refine ⟨(calls_independent hinj htenant otherState_sound).mpr (Or.inr (by decide)), fun h => ?_,
    fun h => ?_⟩
  · obtain ⟨-, hown⟩ := (calls_independent hinj htenant otherState_sound).mp h
    have hnone : runIds (ownRuns sampleEnvelope (sampleState [otherRun] [otherException])) = [] :=
      rfl
    rw [hnone] at hown
    cases hown
  · rcases (calls_independent hinj htenant otherState_sound).mp h with hvault | hid | hown
    · cases hvault
    · exact absurd hid (by decide +kernel)
    · exact absurd hown (by decide +kernel)

end Governance.DomainTools
