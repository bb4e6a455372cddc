/-
What a verification reproduces.

Every finished row of a reachable world was recorded by a run whose request passed the checks
(`advance_recorded`).  A request with the same input manifest digest has the same inputs, so
its verification gets to the procedure (`verify_reproduces_iff`).  The purpose of a request reaches
the procedure but not the manifest, and a blocked run has recorded a result that no procedure gave:
these, and the references that a verification checks again, decide whether it succeeds.
-/
import AssuranceOS.ControlTesting.Inputs
import AssuranceOS.ControlTesting.Finalization

namespace ControlTesting

open JsonText Checked

variable {env : Environment}

/-! ### Rows and the runs that recorded them -/

/-- The result of a run that admitted `request`: of its procedure, or of an incomplete
population. -/
def ResultOf (env : Environment) (request : ControlTestRunRequest) (admission : Admission)
    (row : ControlTestRun) (value : Object) : Prop :=
  row.status = .blocked ∧ value = blockedResult admission.prepared.reconciliation ∨
  row.status = .succeeded ∧ ∃ ticks environment, executeChecked env ticks admission.release request
    row.tenantId row.runId admission.prepared = .ok (value, environment)

/-- A run has recorded the row: its request was admitted, and its result read and answered. -/
structure RecordedBy (env : Environment) (db : Database) (request : ControlTestRunRequest)
    (admission : Admission) (value : Object) (reading : Reading) (row : ControlTestRun) :
    Prop where
  admitted : admitRun env db row.tenantId request = .ok admission
  row_eq : row = (openedRow row.tenantId request admission.prepared.reconciliation
    admission.inputHash row.runId).finalized row.status value reading
  resultHash : resultHash env value admission.prepared.reconciliation = .ok reading.resultHash
  answered : (asObjects ((value.lookup "rows").getD (.arr []))).isSome ∧
    (asStrings ((value.lookup "limitations").getD (.arr []))).isSome
  result : ResultOf env request admission row value

/-- The run ended with a result. -/
def ControlTestRun.Final (row : ControlTestRun) : Prop :=
  row.status = .succeeded ∨ row.status = .blocked

def RecordedFor (env : Environment) (db : Database) (request : ControlTestRunRequest)
    (row : ControlTestRun) : Prop :=
  ∃ admission value reading, RecordedBy env db request admission value reading row

def AllRecorded (env : Environment) (db : Database) : Prop :=
  ∀ row ∈ db.runs, row.Final → ∃ db₀ request, RecordedFor env db₀ request row

section Recording

variable {w : World} {db : Database} {tenantId runId inputHash : String}
  {request : ControlTestRunRequest} {admission : Admission} {release : LoadedControlTest}
  {reconciliation : Reconciliation} {value : Object} {environment : Value} {status : RunStatus}
variable {row : ControlTestRun}

theorem finalize_rows {opened : ControlTestRun} (hrow : w.db.getRun tenantId runId = some opened)
    (h : row ∈ ((finalize env tenantId runId release request value
      environment status inputHash reconciliation).run w).2.db.runs) :
    row ∈ w.db.runs ∨ ∃ reading, row = opened.finalized status value reading ∧
      resultHash env value reconciliation = .ok reading.resultHash ∧
      (asObjects ((value.lookup "rows").getD (.arr []))).isSome ∧
      (asStrings ((value.lookup "limitations").getD (.arr []))).isSome := by
  unfold finalize at h
  rcases hread : readResult env release request value environment inputHash reconciliation with
    e | reading
  · rw [hread] at h
    exact .inl h
  · have hrun : (Attempt.lift (Except.ok reading) : Attempt World ControlTestError Reading).run w =
        (.ok reading, w) := rfl
    rw [hread, Attempt.run_bind_ok hrun] at h
    rcases hclose : closeRun env tenantId runId status value reading w.db with e | ⟨result, db'⟩
    · rw [transaction_error hclose] at h
      exact .inl h
    · rw [transaction_ok hclose] at h
      obtain ⟨opened', hopened', hruns, -⟩ := closeRun_writes hclose
      obtain rfl : opened = opened' := Option.some.inj (hrow.symm.trans hopened')
      have hput : row ∈ Table.put ControlTestRun.runId (opened.finalized status value reading)
          w.db.runs := hruns ▸ h
      rcases Table.eq_or_mem_of_mem_put hput with rfl | ⟨hold, -⟩
      · exact .inr ⟨reading, rfl, (readResult_eq_ok.mp hread).2.2.2, closeRun_answers hclose⟩
      · exact .inl hold

theorem finishRun_recorded (haccepted : admitRun env db tenantId request = .ok admission)
    (hrow : w.db.getRun tenantId runId = some (openedRow tenantId request
      admission.prepared.reconciliation admission.inputHash runId))
    (hmem : row ∈ ((finishRun env tenantId runId request admission).run w).2.db.runs) :
    row ∈ w.db.runs ∨ (row.Final → RecordedFor env db request row) := by
  unfold finishRun at hmem
  dsimp only at hmem
  split at hmem
  · rcases finalize_rows hrow hmem with hold | ⟨reading, rfl, hhash, hanswered⟩
    · exact .inl hold
    · exact .inr fun _ => ⟨admission, _, reading, haccepted, rfl, hhash, hanswered, .inl ⟨rfl, rfl⟩⟩
  · have htick : (tick : Attempt World ControlTestError ℕ).run w =
        (.ok w.ticks, { w with ticks := w.ticks + 1 }) := rfl
    rw [Attempt.run_bind_ok htick] at hmem
    rcases hexecute : executeChecked env w.ticks admission.release request tenantId runId
      admission.prepared with f | ⟨value, environment⟩
    · rw [hexecute] at hmem
      dsimp only at hmem
      by_cases hordinary : f.ordinary = true
      · rw [if_pos hordinary] at hmem
        rcases hfail : failRun env tenantId runId f w.db with e | ⟨u, db'⟩
        · have hrun : (transaction (failRun env tenantId runId f)).run { w with ticks := w.ticks + 1 } =
              (.error e, { w with ticks := w.ticks + 1 }) := transaction_error hfail
          rw [Attempt.run_bind_error hrun] at hmem
          exact .inl hmem
        · have hrun : (transaction (failRun env tenantId runId f)).run { w with ticks := w.ticks + 1 } =
              (.ok u, { w with ticks := w.ticks + 1, db := db' }) := transaction_ok hfail
          rw [Attempt.run_bind_ok hrun] at hmem
          obtain ⟨-, failed, -, -, hstatus, hruns, -⟩ := failRun_writes hfail
          have hput : row ∈ Table.put ControlTestRun.runId failed w.db.runs := hruns ▸ hmem
          rcases Table.eq_or_mem_of_mem_put hput with rfl | ⟨hold, -⟩
          · -- a failed row has no result
            refine .inr fun hfinal => ?_
            rcases hfinal with hs | hs <;> rw [hstatus] at hs <;> cases hs
          · exact .inl hold
      · rw [if_neg hordinary] at hmem
        exact .inl hmem
    · rw [hexecute] at hmem
      have hrow' : ({ w with ticks := w.ticks + 1 } : World).db.getRun tenantId runId =
          some _ := hrow
      rcases finalize_rows hrow' hmem with hold | ⟨reading, rfl, hhash, hanswered⟩
      · exact .inl hold
      · exact .inr fun _ => ⟨admission, value, reading, haccepted, rfl, hhash, hanswered,
          .inr ⟨rfl, w.ticks, environment, hexecute⟩⟩

end Recording

/-- A call of `run`, or a transaction of another component on the tables that requests refer
to. -/
inductive Event where
  | run (tenantId : String) (request : ControlTestRunRequest)
  | refer (releases engagements evidence : List (String × String)) (tasks : List TaskReference)

/-- The rows that a run refers to may change beside the runs. -/
def World.advance (env : Environment) (w : World) : Event → World
  | .run tenantId request => w.perform env (tenantId, request)
  | .refer releases engagements evidence tasks =>
    { w with db := { w.db with releases, engagements, evidence, tasks } }

/-- No test has been run. -/
def World.Fresh (w : World) : Prop := w.db.runs = [] ∧ w.db.exceptions = []

variable {request : ControlTestRunRequest} {row : ControlTestRun}

theorem perform_recorded {w : World} {tenantId : String}
    (hmem : row ∈ (w.perform env (tenantId, request)).db.runs) :
    row ∈ w.db.runs ∨ (row.Final → RecordedFor env w.db request row) := by
  unfold World.perform at hmem
  rcases run_cases env tenantId request w with hsame | ⟨admission, haccepted, hfree, hrun⟩
  · rw [hsame] at hmem
    exact .inl hmem
  · have hids : ∀ x ∈ w.db.runs, x.runId ≠ env.newId w.ticks :=
      fun x hx hid => hfree x hx (.inl hid)
    rw [hrun] at hmem
    rcases finishRun_recorded haccepted (getRun_opened hids) hmem with hold | hrecorded
    · rcases List.mem_append.mp hold with hold | hopened
      · exact .inl hold
      · rw [List.mem_singleton.mp hopened]
        refine .inr fun hfinal => ?_
        rcases hfinal with hs | hs <;> cases hs
    · exact .inr hrecorded

theorem advance_recorded (w : World) (event : Event) (hc : Constraints w.db)
    (h : AllRecorded env w.db) :
    Constraints (w.advance env event).db ∧ AllRecorded env (w.advance env event).db := by
  cases event with
  | run tenantId request =>
    refine ⟨run_constraints hc, fun row hrow hfinal => ?_⟩
    rcases perform_recorded hrow with hold | hrecorded
    · exact h row hold hfinal
    · exact ⟨w.db, request, hrecorded hfinal⟩
  | refer releases engagements evidence tasks => exact ⟨⟨hc.runIds, hc.exceptions⟩, h⟩

theorem reachable_recorded {w₀ : World} (hw₀ : w₀.Fresh) (events : List Event) :
    Constraints (events.foldl (World.advance env) w₀).db ∧
      AllRecorded env (events.foldl (World.advance env) w₀).db := by
  have hstart : Constraints w₀.db ∧ AllRecorded env w₀.db := by
    obtain ⟨hruns, hexceptions⟩ := hw₀
    refine ⟨⟨?_, ?_⟩, ?_⟩
    · rw [hruns]
      exact List.nodup_nil
    · rw [hexceptions]
      exact fun e he => absurd he List.not_mem_nil
    · intro row hrow
      rw [hruns] at hrow
      exact absurd hrow List.not_mem_nil
  exact Runs.run_invariant_always (I := fun w : World => Constraints w.db ∧ AllRecorded env w.db)
    (fun w event h => advance_recorded w event h.1 h.2) hstart events

section Verify

variable {w : World} {request request₀ : ControlTestRunRequest} {row : ControlTestRun}

/-- The digest of the input manifest of a request for the test of a row. -/
def inputHashOf (env : Environment) (row : ControlTestRun) (request : ControlTestRunRequest) :
    Except ControlTestError String := do
  let release ← ofOption (.releaseNotFound row.testId row.testVersion)
    (env.release? row.testId row.testVersion)
  let prepared ← prepareDatasets env release request
  digest env prepared.inputManifest

/-- The engagement, the task and, where it is required, the evidence of the request are there. -/
def ReferencesHold (env : Environment) (w : World) (row : ControlTestRun)
    (request : ControlTestRunRequest) : Prop :=
  validateCanonicalReferences env request w.db row.tenantId = .ok ()

/-- The procedure, at the purpose of the request, gives an output that is valid and that is the
recorded one. -/
def Reproduces (env : Environment) (w : World) (row : ControlTestRun)
    (request : ControlTestRunRequest) : Prop :=
  ∃ release prepared value environment recorded,
    env.release? row.testId row.testVersion = some release ∧
    prepareDatasets env release request = .ok prepared ∧
    executeChecked env w.ticks release request row.tenantId row.runId prepared =
      .ok (value, environment) ∧
    row.result = some recorded ∧ (Value.obj value).sorted = (Value.obj recorded).sorted

theorem getRun_eq_some (hc : Constraints w.db) (hrow : row ∈ w.db.runs) :
    w.db.getRun row.tenantId row.runId = some row := by
  rcases hget : w.db.getRun row.tenantId row.runId with _ | row'
  · have hnone := List.find?_eq_none.mp hget row hrow
    simp at hnone
  · obtain ⟨hmem, -, hid⟩ := getRun_runId hget
    rw [Table.eq_of_key_eq hc.runIds hmem hrow hid]

theorem verify_isOk (hc : Constraints w.db) (hrow : row ∈ w.db.runs)
    (hanswer : ∃ result, resultFromRow w.db row = .ok result) :
    (∃ result, verifyReproducibility env w row.tenantId row.runId request = .ok result) ↔
      ∃ release prepared value environment, env.release? row.testId row.testVersion = some release ∧
        validateRequest env release request = .ok () ∧ ReferencesHold env w row request ∧
        prepareDatasets env release request = .ok prepared ∧
        digest env prepared.inputManifest = .ok row.inputManifestHash ∧
        executeChecked env w.ticks release request row.tenantId row.runId prepared =
          .ok (value, environment) ∧
        resultHash env value prepared.reconciliation = .ok (row.resultManifestHash.getD "") := by
  obtain ⟨original, horiginal⟩ := hanswer
  have hget : getRun w.db row.tenantId row.runId = .ok original := by
    unfold getRun
    rw [getRun_eq_some hc hrow]
    exact horiginal
  have hfields : original.testId = row.testId ∧ original.version = row.testVersion ∧
      original.inputManifestHash = row.inputManifestHash ∧
      original.resultManifestHash = row.resultManifestHash.getD "" := by
    unfold resultFromRow at horiginal
    simp only [bind_eq_ok] at horiginal
    obtain ⟨rows, -, limitations, -, heq⟩ := horiginal
    cases heq
    exact ⟨rfl, rfl, rfl, rfl⟩
  obtain ⟨htestId, hversion, hinput, hresult⟩ := hfields
  unfold verifyReproducibility ReferencesHold
  rw [hget]
  simp only [bind_eq_ok, ofOption_eq_ok, require_eq_ok, mapError_eq_ok, Except.ok.injEq,
    exists_eq_left', htestId, hversion, hinput, hresult]
  constructor
  · rintro ⟨result, release, hrelease, _, hvalid, _, hreferences, prepared, hprepared, inputHash,
      hinputHash, _, rfl, ⟨value, environment⟩, hexecute, hash, hhash, _, rfl, -⟩
    exact ⟨release, prepared, value, environment, hrelease, hvalid, hreferences, hprepared,
      hinputHash, hexecute, hhash⟩
  · rintro ⟨release, prepared, value, environment, hrelease, hvalid, hreferences, hprepared,
      hinputHash, hexecute, hhash⟩
    exact ⟨_, release, hrelease, (), hvalid, (), hreferences, prepared, hprepared, _, hinputHash,
      (), rfl, (value, environment), hexecute, _, hhash, (), rfl, rfl⟩

variable {tenantId : String} {value : Object} {db₀ : Database}

theorem admit_eq_ok {db : Database} {admission : Admission} :
    admitRun env db tenantId request = .ok admission ↔
      env.release? request.testId request.version = some admission.release ∧
      validateRequest env admission.release request = .ok () ∧
      validateCanonicalReferences env request db tenantId = .ok () ∧
      prepareDatasets env admission.release request = .ok admission.prepared ∧
      digest env admission.prepared.inputManifest = .ok admission.inputHash := by
  unfold admitRun
  simp only [bind_eq_ok, ofOption_eq_ok]
  constructor
  · rintro ⟨release, hrelease, _, hvalid, _, hreferences, prepared, hprepared, inputHash, hhash,
      heq⟩
    cases heq
    exact ⟨hrelease, hvalid, hreferences, hprepared, hhash⟩
  · rintro ⟨hrelease, hvalid, hreferences, hprepared, hhash⟩
    exact ⟨_, hrelease, (), hvalid, (), hreferences, _, hprepared, _, hhash, rfl⟩

theorem resultHash_eq_iff (hinj : Function.Injective env.sha256) {value₀ : Object}
    {reconciliation : Reconciliation} {hash : String}
    (h₀ : resultHash env value₀ reconciliation = .ok hash) :
    resultHash env value reconciliation = .ok hash ↔
      (Value.obj value).sorted = (Value.obj value₀).sorted := by
  unfold resultHash at h₀ ⊢
  constructor
  · intro h
    have hmanifests := digest_injective hinj h h₀
    have hfield := get_sorted_congr (by simp) (by simp) hmanifests "output"
    simpa only [get_cons, String.reduceEq, if_true, if_false] using hfield
  · intro h
    have hmanifests : dumps (resultManifest value reconciliation) =
        dumps (resultManifest value₀ reconciliation) := by
      unfold dumps resultManifest
      rw [Value.sorted, Value.sorted]
      simp only [sortedEntries, sortedEntry, h]
    rw [digest_eq_ok] at h₀ ⊢
    rw [hmanifests]
    exact h₀

/-- The output of a procedure is a function of its datasets, its parameters and its context. -/
def Functional (env : Environment) : Prop :=
  ∀ ticks ticks' release datasets parameters context,
    (env.execute ticks release datasets parameters context).map Prod.fst =
      (env.execute ticks' release datasets parameters context).map Prod.fst

theorem executeChecked_functional (hf : Functional env) {ticks ticks' : ℕ}
    {release : LoadedControlTest} {runId : String} {prepared prepared₀ : Prepared}
    {environment : Value} (hinputs : SameInputs request request₀)
    (hpurpose : request.purpose = request₀.purpose) (hdatasets : prepared.datasets = prepared₀.datasets)
    (h : executeChecked env ticks release request₀ tenantId runId prepared₀ =
      .ok (value, environment)) :
    ∃ environment', executeChecked env ticks' release request tenantId runId prepared =
      .ok (value, environment') := by
  have hcontext : context request tenantId runId = context request₀ tenantId runId := by
    unfold context
    rw [hinputs.periodStart, hinputs.periodEnd, hpurpose]
  unfold executeChecked at h ⊢
  obtain ⟨⟨v, e⟩, hexecute, hchecked⟩ := bind_eq_ok.mp h
  have hmap := hf ticks ticks' release prepared₀.datasets request₀.parameters
    (context request₀ tenantId runId)
  rw [hexecute] at hmap
  obtain ⟨⟨v', e'⟩, hexecute', hv⟩ := map_eq_ok.mp hmap.symm
  obtain rfl : v' = v := hv
  rw [hdatasets, hinputs.parameters, hcontext]
  dsimp only at hchecked
  cases hschema : env.schemaError release.outputSchema (.obj v') with
  | some message =>
    rw [hschema] at hchecked
    cases hchecked
  | none =>
    rw [hschema] at hchecked
    cases hchecked
    exact ⟨e', bind_eq_ok.mpr ⟨(value, e'), hexecute', by dsimp only; rw [hschema]; rfl⟩⟩

theorem RecordedFor.verify_iff (hinj : Function.Injective env.sha256)
    (h : RecordedFor env db₀ request₀ row) (hc : Constraints w.db) (hrow : row ∈ w.db.runs)
    (hhash : inputHashOf env row request = .ok row.inputManifestHash) :
    ((∃ result, verifyReproducibility env w row.tenantId row.runId request = .ok result) ↔
      ReferencesHold env w row request ∧ Reproduces env w row request) ∧
    (Functional env → row.status = .succeeded → request.purpose = row.purpose →
      Reproduces env w row request) := by
  obtain ⟨admission, value₀, reading, h₀⟩ := h
  obtain ⟨hrelease₀, hvalid₀, -, hprepared₀, hhash₀⟩ := admit_eq_ok.mp h₀.admitted
  have htestId : row.testId = request₀.testId := congrArg ControlTestRun.testId h₀.row_eq
  have hversion : row.testVersion = request₀.version :=
    congrArg ControlTestRun.testVersion h₀.row_eq
  have hpurpose : row.purpose = request₀.purpose := congrArg ControlTestRun.purpose h₀.row_eq
  have hinput : row.inputManifestHash = admission.inputHash :=
    congrArg ControlTestRun.inputManifestHash h₀.row_eq
  have hresultHash : row.resultManifestHash = some reading.resultHash :=
    congrArg ControlTestRun.resultManifestHash h₀.row_eq
  have hresult : row.result = some value₀ := congrArg ControlTestRun.result h₀.row_eq
  -- the request has the inputs of the recorded one
  unfold inputHashOf at hhash
  simp only [bind_eq_ok, ofOption_eq_ok] at hhash
  obtain ⟨release, hrelease, prepared, hprepared, hdigest⟩ := hhash
  have hreleases : admission.release = release := by
    rw [htestId, hversion, hrelease₀] at hrelease
    exact Option.some.inj hrelease
  subst hreleases
  rw [hinput] at hdigest
  have hsame := sameInputs_of_manifest hinj hprepared hprepared₀ hdigest hhash₀
  obtain ⟨hdatasets, hreconciliation⟩ := prepareDatasets_congr hsame hprepared hprepared₀
  have hanswer : ∃ result, resultFromRow w.db row =
      .ok result := by
    refine resultFromRow_isOk.mpr ?_
    rw [hresult]
    exact h₀.answered
  have hresults : ∀ value, resultHash env value prepared.reconciliation =
      .ok (row.resultManifestHash.getD "") ↔ (Value.obj value).sorted = (Value.obj value₀).sorted := by
    intro value
    rw [hreconciliation, hresultHash]
    exact resultHash_eq_iff hinj h₀.resultHash
  refine ⟨?_, ?_⟩
  · rw [verify_isOk hc hrow hanswer]
    constructor
    · rintro ⟨release, prepared', value, environment, hrelease', -, hreferences, hprepared',
        -, hexecute, hhash⟩
      obtain rfl : admission.release = release := Option.some.inj (hrelease.symm.trans hrelease')
      obtain rfl : prepared = prepared' := Except.ok.inj (hprepared.symm.trans hprepared')
      exact ⟨hreferences, _, _, value, environment, value₀, hrelease, hprepared, hexecute, hresult,
        (hresults value).mp hhash⟩
    · rintro ⟨hreferences, release, prepared', value, environment, recorded, hrelease', hprepared',
        hexecute, hrecorded, heq⟩
      obtain rfl : admission.release = release := Option.some.inj (hrelease.symm.trans hrelease')
      obtain rfl : prepared = prepared' := Except.ok.inj (hprepared.symm.trans hprepared')
      obtain rfl : value₀ = recorded := Option.some.inj (hresult.symm.trans hrecorded)
      exact ⟨_, prepared, value, environment, hrelease, validateRequest_congr hsame hvalid₀,
        hreferences, hprepared, hinput ▸ hdigest, hexecute, (hresults value).mpr heq⟩
  · intro hf hstatus hsamePurpose
    rcases h₀.result with ⟨hblocked, -⟩ | ⟨-, ticks, environment, hexecute⟩
    · rw [hstatus] at hblocked
      cases hblocked
    · obtain ⟨environment', hexecute'⟩ := executeChecked_functional hf hsame
        (hsamePurpose.trans hpurpose) hdatasets hexecute
      exact ⟨_, prepared, value₀, environment', value₀, hrelease, hprepared, hexecute', hresult, rfl⟩

theorem RecordedFor.inputHashOf_self (h : RecordedFor env db₀ request₀ row) :
    inputHashOf env row request₀ = .ok row.inputManifestHash := by
  obtain ⟨admission, value₀, reading, h₀⟩ := h
  obtain ⟨hrelease₀, -, -, hprepared₀, hhash₀⟩ := admit_eq_ok.mp h₀.admitted
  have htestId : row.testId = request₀.testId := congrArg ControlTestRun.testId h₀.row_eq
  have hversion : row.testVersion = request₀.version :=
    congrArg ControlTestRun.testVersion h₀.row_eq
  have hinput : row.inputManifestHash = admission.inputHash :=
    congrArg ControlTestRun.inputManifestHash h₀.row_eq
  unfold inputHashOf
  simp only [bind_eq_ok, ofOption_eq_ok]
  exact ⟨admission.release, by rw [htestId, hversion, hrelease₀], admission.prepared, hprepared₀,
    by rw [hinput, hhash₀]⟩

/-- Verifying a finished run with a request of the recorded input hash succeeds exactly when the
references of the request hold and the procedure gives the recorded result at its purpose; for a
succeeded run it does so at the purpose of the run. -/
theorem verify_reproduces_iff (hinj : Function.Injective env.sha256) (hf : Functional env)
    {w₀ : World} (hw₀ : w₀.Fresh) (events : List Event)
    (hrow : row ∈ (events.foldl (World.advance env) w₀).db.runs) (hfinal : row.Final)
    (hhash : inputHashOf env row request = .ok row.inputManifestHash) :
    ((∃ result, verifyReproducibility env (events.foldl (World.advance env) w₀) row.tenantId
        row.runId request = .ok result) ↔
      ReferencesHold env (events.foldl (World.advance env) w₀) row request ∧
        Reproduces env (events.foldl (World.advance env) w₀) row request) ∧
    (row.status = .succeeded → request.purpose = row.purpose →
      Reproduces env (events.foldl (World.advance env) w₀) row request) := by
  have hreachable : _ ∧ AllRecorded env (events.foldl (World.advance env) w₀).db :=
    reachable_recorded hw₀ events
  obtain ⟨hc, hrecorded⟩ := hreachable
  obtain ⟨db₀, request₀, h₀⟩ := hrecorded row hrow hfinal
  obtain ⟨hiff, hpurpose⟩ := h₀.verify_iff hinj hc hrow hhash
  exact ⟨hiff, hpurpose hf⟩

end Verify

def quietEnvironment : Environment := sampleEnvironment fun _ _ => sampleOutput []

theorem quietEnvironment_functional : Functional quietEnvironment := fun _ _ _ _ _ _ => rfl

theorem quietEnvironment_injective : Function.Injective quietEnvironment.sha256 :=
  fun _ _ h => String.ofList_injective h

def incompleteRequest : ControlTestRunRequest :=
  { sampleRequest with
    datasets := [{ sampleDataset with expectedCount := some 2 }]
    names_nodup := List.nodup_singleton _ }

def quietWorld (request : ControlTestRunRequest) : World :=
  [Event.run "tnt_a" request].foldl (World.advance quietEnvironment) sampleWorld

theorem quietWorld_recorded (hrow : row ∈ (quietWorld request).db.runs) (hfinal : row.Final) :
    RecordedFor quietEnvironment sampleWorld.db request row := by
  rcases perform_recorded hrow with hold | hrecorded
  · exact absurd hold List.not_mem_nil
  · exact hrecorded hfinal

theorem verify_reproduces_sample : ∃ row ∈ (quietWorld sampleRequest).db.runs,
    ∃ result, verifyReproducibility quietEnvironment (quietWorld sampleRequest) row.tenantId
      row.runId sampleRequest = .ok result := by
  have hrow : ∃ row ∈ (quietWorld sampleRequest).db.runs,
      row.status = .succeeded ∧ row.purpose = "operating_effectiveness" := by decide +kernel
  obtain ⟨row, hmem, hstatus, hpurpose⟩ := hrow
  have hhash := (quietWorld_recorded hmem (.inl hstatus)).inputHashOf_self
  have hfresh : sampleWorld.Fresh := ⟨rfl, rfl⟩
  obtain ⟨hiff, hsame⟩ := verify_reproduces_iff quietEnvironment_injective
    quietEnvironment_functional hfresh [.run "tnt_a" sampleRequest] hmem (.inl hstatus) hhash
  exact ⟨row, hmem, hiff.mpr ⟨rfl, hsame hstatus hpurpose.symm⟩⟩

/-- A run that was blocked on an incomplete population is not reproduced by its own request: the
verification calls the procedure. -/
theorem blocked_not_reproduced : ∃ row ∈ (quietWorld incompleteRequest).db.runs,
    row.status = .blocked ∧
    inputHashOf quietEnvironment row incompleteRequest = .ok row.inputManifestHash ∧
    ¬ ∃ result, verifyReproducibility quietEnvironment (quietWorld incompleteRequest) row.tenantId
      row.runId incompleteRequest = .ok result := by
  have hrow : ∃ row ∈ (quietWorld incompleteRequest).db.runs, row.status = .blocked ∧
      ((row.result.getD []).map Prod.fst).Nodup ∧
      ((row.result.getD []).lookup "conclusion").bind asString = some "population_incomplete" := by
    decide +kernel
  obtain ⟨row, hmem, hstatus, hkeys, hconclusion⟩ := hrow
  have hrecorded := quietWorld_recorded hmem (.inr hstatus)
  have hconstraints : Constraints (quietWorld incompleteRequest).db :=
    run_constraints sampleWorld_constraints
  refine ⟨row, hmem, hstatus, hrecorded.inputHashOf_self, ?_⟩
  rw [(hrecorded.verify_iff quietEnvironment_injective hconstraints hmem
    hrecorded.inputHashOf_self).1]
  rintro ⟨-, release, prepared, value, environment, recorded, -, -, hexecute, hresult, heq⟩
  cases hexecute
  rw [hresult, Option.getD_some] at hkeys hconclusion
  obtain ⟨v, hv, htext⟩ := Option.bind_eq_some_iff.mp hconclusion
  obtain rfl : v = .str "population_incomplete" := by
    cases v <;> simp_all [asString]
  have houtput : ((sampleOutput []).map Prod.fst).Nodup := by decide
  have hfield := get_sorted_congr houtput hkeys heq "conclusion"
  have hrecord : get recorded "conclusion" = .str "population_incomplete" :=
    congrArg (fun x => x.getD Value.null) hv
  rw [hrecord] at hfield
  simp [sampleOutput, get_cons] at hfield

end ControlTesting
