/-
Which runs are finished, and the row that a returned result stands for (`ControlTestService.run`).

`run` creates its row in one transaction and finishes it in another.  The procedure and the check of
its output are guarded; reading the result, writing its exceptions and building the answer are not,
and an exception there leaves the row as it was created.  `run_finishes_iff` says exactly when the row
is finished, and `run_eq_ok` which row a call that returns answers with.
-/
import AssuranceOS.ControlTesting.Service
import AssuranceOS.Lib.Runs

namespace ControlTesting

open JsonText Checked

variable {env : Environment}

/-- The primary key of the runs, and the foreign key of the exceptions. -/
structure Constraints (db : Database) : Prop where
  runIds : (db.runs.map ControlTestRun.runId).Nodup
  exceptions : ∀ e ∈ db.exceptions, e.runId ∈ db.runs.map ControlTestRun.runId

theorem getRun_runId {db : Database} {runId : String} {row : ControlTestRun}
    (h : db.getRun tenantId runId = some row) :
    row ∈ db.runs ∧ row.tenantId = tenantId ∧ row.runId = runId := by
  have hprop := List.find?_some h
  simp only [decide_eq_true_eq] at hprop
  exact ⟨List.mem_of_find?_eq_some h, hprop⟩

section Exceptions

variable {runId : String} {es : List TestExceptionResult} {db db' : Database}

def KeysFree (db : Database) (runId : String) (es : List TestExceptionResult) : Prop :=
  ∀ e ∈ es, ∀ x ∈ db.exceptions, ¬ (x.runId = runId ∧ x.exception.exceptionKey = e.exceptionKey)

theorem addException_eq_some {row : ExceptionRow} :
    db.addException row = some db' ↔
      (∀ x ∈ db.exceptions, ¬ (x.runId = row.runId ∧
        x.exception.exceptionKey = row.exception.exceptionKey)) ∧
      db' = { db with exceptions := db.exceptions ++ [row] } := by
  unfold Database.addException
  by_cases hany : (db.exceptions.any fun e => e.runId = row.runId ∧
      e.exception.exceptionKey = row.exception.exceptionKey) = true
  · rw [if_pos hany]
    simp only [List.any_eq_true, decide_eq_true_eq] at hany
    obtain ⟨x, hx, hkey⟩ := hany
    constructor
    · intro h
      cases h
    · rintro ⟨hfree, -⟩
      exact absurd hkey (hfree x hx)
  · rw [if_neg hany, Option.some.injEq, eq_comm]
    simp only [List.any_eq_true, decide_eq_true_eq, not_exists, not_and] at hany
    constructor
    · exact fun h => ⟨fun x hx hkey => hany x hx hkey.1 hkey.2, h⟩
    · exact fun h => h.2

theorem addExceptions_ok_iff : ∀ {es : List TestExceptionResult} {db : Database},
    (∃ db', addExceptions env runId es db = .ok db') ↔
      (∀ e ∈ es, env.storesException e = true) ∧ KeysFree db runId es ∧
        (es.map TestExceptionResult.exceptionKey).Nodup := by
  intro es
  induction es with
  | nil =>
    intro db
    exact iff_of_true ⟨db, rfl⟩ ⟨by simp, by simp [KeysFree], List.nodup_nil⟩
  | cons e es ih =>
    intro db
    have hstep : (∃ db', addExceptions env runId (e :: es) db = .ok db') ↔
        env.storesException e = true ∧
          (∀ x ∈ db.exceptions, ¬ (x.runId = runId ∧ x.exception.exceptionKey = e.exceptionKey)) ∧
          ∃ db', addExceptions env runId es
            { db with exceptions := db.exceptions ++ [⟨runId, e⟩] } = .ok db' := by
      rw [addExceptions]
      simp only [require_bind_eq_ok, ofOption_bind_eq_ok, addException_eq_some]
      constructor
      · rintro ⟨db', hstores, db₁, ⟨hfree, rfl⟩, hrest⟩
        exact ⟨hstores, hfree, db', hrest⟩
      · rintro ⟨hstores, hfree, db', hrest⟩
        exact ⟨db', hstores, _, ⟨hfree, rfl⟩, hrest⟩
    rw [hstep, ih]
    constructor
    · rintro ⟨hstores, hfree, hall, hfrees, hn⟩
      refine ⟨List.forall_mem_cons.mpr ⟨hstores, hall⟩, ?_, ?_⟩
      · intro a ha x hx
        rcases List.mem_cons.mp ha with rfl | ha
        · exact hfree x hx
        · exact hfrees a ha x (List.mem_append_left _ hx)
      · rw [List.map_cons, List.nodup_cons]
        refine ⟨fun hmem => ?_, hn⟩
        obtain ⟨a, ha, hkey⟩ := List.mem_map.mp hmem
        exact hfrees a ha ⟨runId, e⟩ (by simp) ⟨rfl, hkey.symm⟩
    · rintro ⟨hall, hfrees, hn⟩
      obtain ⟨hstores, hall⟩ := List.forall_mem_cons.mp hall
      rw [List.map_cons, List.nodup_cons] at hn
      refine ⟨hstores, hfrees e List.mem_cons_self, hall, ?_, hn.2⟩
      intro a ha x hx
      rcases List.mem_append.mp hx with hx | hx
      · exact hfrees a (List.mem_cons_of_mem _ ha) x hx
      · obtain rfl := List.mem_singleton.mp hx
        rintro ⟨-, hkey⟩
        exact hn.1 (List.mem_map.mpr ⟨a, ha, hkey.symm⟩)

theorem addExceptions_runs : ∀ {es : List TestExceptionResult} {db db' : Database},
    addExceptions env runId es db = .ok db' → db'.runs = db.runs ∧
      db'.exceptions = db.exceptions ++ es.map fun e => ⟨runId, e⟩ := by
  intro es
  induction es with
  | nil =>
    intro db db' h
    cases h
    exact ⟨rfl, by simp⟩
  | cons e es ih =>
    intro db db' h
    rw [addExceptions] at h
    obtain ⟨-, h⟩ := require_bind_eq_ok.mp h
    obtain ⟨db₁, hadd, h⟩ := ofOption_bind_eq_ok.mp h
    obtain ⟨-, rfl⟩ := addException_eq_some.mp hadd
    obtain ⟨hruns, hexceptions⟩ := ih h
    refine ⟨hruns, ?_⟩
    rw [hexceptions, List.map_cons]
    simp

end Exceptions

/-! ### Finishing a row -/

section Finish

variable {tenantId runId inputHash : String} {release : LoadedControlTest}
  {request : ControlTestRunRequest} {reconciliation : Reconciliation} {value : Object}
  {environment : Value} {status : RunStatus} {w : World}

/-- The result can be read, stored and answered: its conclusion is one of the enumeration, its
exceptions are valid with one key each, its rows are objects and its limitations texts, and
the two manifests are encodable. -/
structure Finalizable (env : Environment) (release : LoadedControlTest)
    (request : ControlTestRunRequest) (inputHash : String) (reconciliation : Reconciliation)
    (value : Object) (environment : Value) : Prop where
  conclusion : ∃ text c, value.lookup "conclusion" = some (.str text) ∧
    TestConclusion.ofValue text = some c
  exceptions : ∃ items es, iterate ((value.lookup "exceptions").getD (.arr [])) = some items ∧
    items.mapM TestExceptionResult.modelValidate = some es ∧
    (es.map TestExceptionResult.exceptionKey).Nodup ∧ ∀ e ∈ es, env.storesException e = true
  encodes : env.encodes (dumps (executionManifest release request inputHash environment)) = true ∧
    env.encodes (dumps (resultManifest value reconciliation)) = true
  stored : env.storesResult value = true
  rows : (asObjects ((value.lookup "rows").getD (.arr []))).isSome
  limitations : (asStrings ((value.lookup "limitations").getD (.arr []))).isSome

variable {reading : Reading} {db db' : Database} {row : ControlTestRun}

theorem readResult_eq_ok :
    readResult env release request value environment inputHash reconciliation = .ok reading ↔
      (∃ items, iterate ((value.lookup "exceptions").getD (.arr [])) = some items ∧
        items.mapM TestExceptionResult.modelValidate = some reading.exceptions) ∧
      (∃ text, value.lookup "conclusion" = some (.str text) ∧
        TestConclusion.ofValue text = some reading.conclusion) ∧
      digest env (executionManifest release request inputHash environment) =
        .ok reading.executionHash ∧
      resultHash env value reconciliation = .ok reading.resultHash := by
  unfold readResult
  simp only [bind_eq_ok, mapM_ofOption, ofOption_eq_ok, Option.bind_eq_some_iff]
  constructor
  · rintro ⟨items, hitems, es, hes, v, hv, c, ⟨text, htext, hc⟩, eh, heh, rh, hrh, heq⟩
    cases heq
    cases v with
    | str s =>
      obtain rfl : s = text := Option.some.inj htext
      exact ⟨⟨items, hitems, hes⟩, ⟨s, hv, hc⟩, heh, hrh⟩
    | _ => cases htext
  · rintro ⟨⟨items, hitems, hes⟩, ⟨text, hv, hc⟩, heh, hrh⟩
    exact ⟨items, hitems, _, hes, _, hv, _, ⟨text, rfl, hc⟩, _, heh, _, hrh, rfl⟩

theorem resultFromRow_isOk :
    (∃ result, resultFromRow db row = .ok result) ↔
      (asObjects (((row.result.getD []).lookup "rows").getD (.arr []))).isSome ∧
      (asStrings (((row.result.getD []).lookup "limitations").getD (.arr []))).isSome := by
  unfold resultFromRow
  simp only [ofOption_bind_eq_ok, Option.isSome_iff_exists]
  constructor
  · rintro ⟨result, rows, hrows, limitations, hlimitations, -⟩
    exact ⟨⟨rows, hrows⟩, ⟨limitations, hlimitations⟩⟩
  · rintro ⟨⟨rows, hrows⟩, ⟨limitations, hlimitations⟩⟩
    exact ⟨_, rows, hrows, limitations, hlimitations, rfl⟩

variable {α : Type} {result : ControlTestRunResult} {f : Failure}

theorem transaction_error {f : Database → Except ControlTestError (α × Database)}
    {e : ControlTestError} (h : f w.db = .error e) : (transaction f).run w = (.error e, w) := by
  show transaction f w = _
  unfold transaction
  rw [h]

theorem transaction_ok {f : Database → Except ControlTestError (α × Database)} {a : α}
    (h : f w.db = .ok (a, db)) :
    (transaction f).run w = (.ok a, { w with db := db }) := by
  show transaction f w = _
  unfold transaction
  rw [h]

theorem closeRun_isOk (hrow : db.getRun tenantId runId = some row)
    (hfree : ∀ x ∈ db.exceptions, x.runId ≠ runId) :
    (∃ r, closeRun env tenantId runId status value reading db = .ok r) ↔
      env.storesResult value = true ∧
      ((∀ e ∈ reading.exceptions, env.storesException e = true) ∧
        (reading.exceptions.map TestExceptionResult.exceptionKey).Nodup) ∧
      (asObjects ((value.lookup "rows").getD (.arr []))).isSome ∧
      (asStrings ((value.lookup "limitations").getD (.arr []))).isSome := by
  have hkeys : KeysFree (db.putRun (row.finalized status value reading)) runId
      reading.exceptions := by
    intro e _ x hx hkey
    exact hfree x hx hkey.1
  have hadd : (∃ db', addExceptions env runId reading.exceptions
      (db.putRun (row.finalized status value reading)) = .ok db') ↔ _ := addExceptions_ok_iff
  have hresult : ∀ db', (∃ result, resultFromRow db' (row.finalized status value reading) =
      .ok result) ↔ _ := fun _ => resultFromRow_isOk
  unfold closeRun
  simp only [bind_eq_ok, ofOption_eq_ok, require_eq_ok]
  constructor
  · rintro ⟨r, row', heq, -, hstored, db', hdb', result, hres, -⟩
    obtain rfl : row = row' := Option.some.inj (hrow.symm.trans heq)
    obtain ⟨hall, -, hn⟩ := hadd.mp ⟨db', hdb'⟩
    exact ⟨hstored, ⟨hall, hn⟩, (hresult db').mp ⟨result, hres⟩⟩
  · rintro ⟨hstored, ⟨hall, hn⟩, hanswer⟩
    obtain ⟨db', hdb'⟩ := hadd.mpr ⟨hall, hkeys, hn⟩
    obtain ⟨result, hres⟩ := (hresult db').mpr hanswer
    exact ⟨_, row, hrow, (), hstored, db', hdb', result, hres, rfl⟩

theorem Finalizable.reads
    (h : Finalizable env release request inputHash reconciliation value environment) :
    ∃ reading, readResult env release request value environment inputHash reconciliation =
      .ok reading := by
  obtain ⟨items, es, hitems, hes, -, -⟩ := h.exceptions
  obtain ⟨text, c, htext, hc⟩ := h.conclusion
  exact ⟨⟨es, c, _, _⟩, readResult_eq_ok.mpr ⟨⟨items, hitems, hes⟩, ⟨text, htext, hc⟩,
    digest_eq_ok.mpr ⟨h.encodes.1, rfl⟩, digest_eq_ok.mpr ⟨h.encodes.2, rfl⟩⟩⟩

theorem finalizable_iff (hrow : w.db.getRun tenantId runId = some row)
    (hfree : ∀ x ∈ w.db.exceptions, x.runId ≠ runId)
    (hread : readResult env release request value environment inputHash reconciliation =
      .ok reading) :
    Finalizable env release request inputHash reconciliation value environment ↔
      ∃ r, closeRun env tenantId runId status value reading w.db = .ok r := by
  obtain ⟨⟨items, hitems, hes⟩, ⟨text, htext, hc⟩, heh, hrh⟩ := readResult_eq_ok.mp hread
  rw [closeRun_isOk hrow hfree]
  constructor
  · intro hfin
    obtain ⟨items', es, hitems', hes', hn, hstores⟩ := hfin.exceptions
    obtain rfl : items = items' := Option.some.inj (hitems.symm.trans hitems')
    obtain rfl : reading.exceptions = es := Option.some.inj (hes.symm.trans hes')
    exact ⟨hfin.stored, ⟨hstores, hn⟩, hfin.rows, hfin.limitations⟩
  · rintro ⟨hstored, ⟨hstores, hn⟩, hrows, hlimitations⟩
    exact ⟨⟨text, _, htext, hc⟩, ⟨items, _, hitems, hes, hn, hstores⟩,
      ⟨(digest_eq_ok.mp heh).1, (digest_eq_ok.mp hrh).1⟩, hstored, hrows, hlimitations⟩

theorem closeRun_writes
    (h : closeRun env tenantId runId status value reading db = .ok (result, db')) :
    ∃ row, db.getRun tenantId runId = some row ∧
      db'.runs = Table.put ControlTestRun.runId (row.finalized status value reading) db.runs ∧
      db'.exceptions = db.exceptions ++ reading.exceptions.map fun e => ⟨runId, e⟩ := by
  unfold closeRun at h
  simp only [bind_eq_ok, ofOption_eq_ok, require_eq_ok] at h
  obtain ⟨row, hrow, -, -, db₁, hadd, result', -, heq⟩ := h
  cases heq
  exact ⟨row, hrow, addExceptions_runs hadd⟩

theorem closeRun_answers
    (h : closeRun env tenantId runId status value reading db = .ok (result, db')) :
    (asObjects ((value.lookup "rows").getD (.arr []))).isSome ∧
      (asStrings ((value.lookup "limitations").getD (.arr []))).isSome := by
  unfold closeRun at h
  simp only [bind_eq_ok, ofOption_eq_ok, require_eq_ok] at h
  obtain ⟨row, -, -, -, db₁, -, result', hresult, -⟩ := h
  exact resultFromRow_isOk.mp ⟨result', hresult⟩

def RowFinished (runId : String) (before after : Database) : Prop :=
  ∃ row : ControlTestRun, row.runId = runId ∧ row.status ≠ .running ∧
    after.runs = Table.put ControlTestRun.runId row before.runs

/-- `_finalize` finishes the row exactly when the result is finalizable; otherwise it raises and
nothing is written. -/
theorem finalize_finishes (hrow : w.db.getRun tenantId runId = some row) (hid : row.runId = runId)
    (hfree : ∀ x ∈ w.db.exceptions, x.runId ≠ runId) (hstatus : status ≠ .running) :
    (Finalizable env release request inputHash reconciliation value environment →
      RowFinished runId w.db ((finalize env tenantId runId release request value environment status
        inputHash reconciliation).run w).2.db) ∧
    (¬ Finalizable env release request inputHash reconciliation value environment →
      ((finalize env tenantId runId release request value environment status inputHash
        reconciliation).run w).2.db.runs = w.db.runs) := by
  unfold finalize
  rcases hread : readResult env release request value environment inputHash reconciliation with
    e | reading
  · refine ⟨fun hfin => ?_, fun _ => rfl⟩
    obtain ⟨reading, hreads⟩ := hfin.reads
    rw [hread] at hreads
    cases hreads
  · have hrun : (Attempt.lift (Except.ok reading) : Attempt World ControlTestError Reading).run w =
        (.ok reading, w) := rfl
    rw [Attempt.run_bind_ok hrun, finalizable_iff hrow hfree hread]
    rcases hclose : closeRun env tenantId runId status value reading w.db with e | ⟨result, db'⟩
    · rw [transaction_error hclose]
      exact ⟨fun h => by simp at h, fun _ => rfl⟩
    · rw [transaction_ok hclose]
      obtain ⟨row', hrow', hruns, -⟩ := closeRun_writes hclose
      obtain rfl : row = row' := Option.some.inj (hrow.symm.trans hrow')
      exact ⟨fun _ => ⟨row.finalized status value reading, hid, hstatus, hruns⟩,
        fun h => absurd ⟨_, rfl⟩ h⟩

theorem failRun_isOk (hrow : db.getRun tenantId runId = some row) :
    (∃ r, failRun env tenantId runId f db = .ok r) ↔ env.storesFailure f = true := by
  unfold failRun
  simp only [bind_eq_ok, ofOption_eq_ok, require_eq_ok]
  constructor
  · rintro ⟨r, -, -, -, hstores, -⟩
    exact hstores
  · intro hstores
    exact ⟨_, row, hrow, (), hstores, rfl⟩

theorem failRun_writes {u : Unit} (h : failRun env tenantId runId f db = .ok (u, db')) :
    ∃ row failed, db.getRun tenantId runId = some row ∧ failed.runId = runId ∧
      failed.status = .failed ∧ db'.runs = Table.put ControlTestRun.runId failed db.runs ∧
      db'.exceptions = db.exceptions := by
  unfold failRun at h
  simp only [bind_eq_ok, ofOption_eq_ok, require_eq_ok] at h
  obtain ⟨row, hrow, -, -, heq⟩ := h
  cases heq
  refine ⟨row, _, hrow, ?_, ?_, rfl, rfl⟩
  · exact (getRun_runId hrow).2.2
  · rfl

end Finish

/-! ### A run -/

section Run

variable {tenantId : String} {request : ControlTestRunRequest} {w : World}

/-- The run finishes its row: the procedure fails with an ordinary exception, or gives a result
that can be read, stored and answered. -/
def FinishesRow (env : Environment) (ticks : ℕ) (tenantId runId : String)
    (request : ControlTestRunRequest) (admission : Admission) : Prop :=
  let release := admission.release
  let reconciliation := admission.prepared.reconciliation
  if (!reconciliation.populationComplete && release.manifest.reconciliation.requireComplete) = true
  then Finalizable env release request admission.inputHash reconciliation
    (blockedResult reconciliation) blockedEnvironment
  else match executeChecked env ticks release request tenantId runId admission.prepared with
    | .error f => f.ordinary = true ∧ env.storesFailure f = true
    | .ok (value, environment) => Finalizable env release request admission.inputHash
        reconciliation value environment

/-- An admitted call leaves its run with a final status. -/
def Finishes (env : Environment) (w : World) (tenantId : String)
    (request : ControlTestRunRequest) : Prop :=
  ∀ admission, admitRun env w.db tenantId request = .ok admission →
    FinishesRow env (w.ticks + 1) tenantId (env.newId w.ticks) request admission

variable {runId : String} {admission : Admission}
variable {row : ControlTestRun}

/-- After its first transaction the run finishes its row, or writes nothing more to the runs. -/
theorem finishRun_finishes (hrow : w.db.getRun tenantId runId = some row)
    (hfree : ∀ x ∈ w.db.exceptions, x.runId ≠ runId) :
    (FinishesRow env w.ticks tenantId runId request admission →
      RowFinished runId w.db ((finishRun env tenantId runId request admission).run w).2.db) ∧
    (¬ FinishesRow env w.ticks tenantId runId request admission →
      ((finishRun env tenantId runId request admission).run w).2.db.runs = w.db.runs) := by
  have hid := (getRun_runId hrow).2.2
  unfold finishRun FinishesRow
  dsimp only
  split
  · exact finalize_finishes hrow hid hfree (by simp)
  · have htick : (tick : Attempt World ControlTestError ℕ).run w =
        (.ok w.ticks, { w with ticks := w.ticks + 1 }) := rfl
    rw [Attempt.run_bind_ok htick]
    rcases hexecute : executeChecked env w.ticks admission.release request tenantId runId
      admission.prepared with f | ⟨value, environment⟩
    · dsimp only
      by_cases hordinary : f.ordinary = true
      · rw [if_pos hordinary]
        have hstores : (∃ r, failRun env tenantId runId f w.db = .ok r) ↔
            env.storesFailure f = true := failRun_isOk hrow
        rcases hfail : failRun env tenantId runId f w.db with e | ⟨u, db'⟩
        · have hrun : (transaction (failRun env tenantId runId f)).run { w with ticks := w.ticks + 1 } =
              (.error e, { w with ticks := w.ticks + 1 }) := transaction_error hfail
          rw [Attempt.run_bind_error hrun]
          rw [hfail] at hstores
          refine ⟨fun h => ?_, fun _ => rfl⟩
          obtain ⟨r, hr⟩ := hstores.mpr h.2
          cases hr
        · have hrun : (transaction (failRun env tenantId runId f)).run { w with ticks := w.ticks + 1 } =
              (.ok u, { w with ticks := w.ticks + 1, db := db' }) := transaction_ok hfail
          rw [Attempt.run_bind_ok hrun]
          obtain ⟨-, failed, -, hfailed, hstatus, hruns, -⟩ := failRun_writes hfail
          have hfinished : RowFinished runId w.db db' :=
            ⟨failed, hfailed, by rw [hstatus]; simp, hruns⟩
          refine ⟨fun _ => hfinished, fun h => ?_⟩
          exact absurd ⟨hordinary, hstores.mp ⟨_, hfail⟩⟩ h
      · rw [if_neg hordinary]
        exact ⟨fun h => absurd h.1 hordinary, fun _ => rfl⟩
    · have hrow' : ({ w with ticks := w.ticks + 1 } : World).db.getRun tenantId runId = some row :=
        hrow
      exact finalize_finishes hrow' hid hfree (by simp)

def World.opened (env : Environment) (w : World) (tenantId : String)
    (request : ControlTestRunRequest) (admission : Admission) : World where
  db := { w.db with runs := w.db.runs ++ [openedRow tenantId request
    admission.prepared.reconciliation admission.inputHash (env.newId w.ticks)] }
  ticks := w.ticks + 1

theorem addRun_eq_some {db db' : Database} :
    db.addRun row = some db' ↔
      (∀ x ∈ db.runs, ¬ (x.runId = row.runId ∨
        x.tenantId = row.tenantId ∧ x.idempotencyKey = row.idempotencyKey)) ∧
      db' = { db with runs := db.runs ++ [row] } := by
  unfold Database.addRun
  by_cases hany : (db.runs.any fun x => x.runId = row.runId ∨
      x.tenantId = row.tenantId ∧ x.idempotencyKey = row.idempotencyKey) = true
  · rw [if_pos hany]
    simp only [List.any_eq_true, decide_eq_true_eq] at hany
    obtain ⟨x, hx, hkey⟩ := hany
    constructor
    · intro h
      cases h
    · rintro ⟨hfree, -⟩
      exact absurd hkey (hfree x hx)
  · rw [if_neg hany, Option.some.injEq, eq_comm]
    simp only [List.any_eq_true, decide_eq_true_eq, not_exists, not_and] at hany
    exact ⟨fun h => ⟨hany, h⟩, fun h => h.2⟩

/-- A call of `run` changes nothing in the database, or makes a row and finishes the run. -/
theorem run_cases (env : Environment) (tenantId : String) (request : ControlTestRunRequest)
    (w : World) :
    ((run env tenantId request).run w).2.db = w.db ∨
    ∃ admission, admitRun env w.db tenantId request = .ok admission ∧
      (∀ x ∈ w.db.runs, ¬ (x.runId = env.newId w.ticks ∨
        x.tenantId = tenantId ∧ x.idempotencyKey = request.idempotencyKey)) ∧
      (run env tenantId request).run w = (finishRun env tenantId (env.newId w.ticks) request
        admission).run (w.opened env tenantId request admission) := by
  have hget : (Attempt.get : Attempt World ControlTestError World).run w = (.ok w, w) := rfl
  unfold run
  rw [Attempt.run_bind_ok hget]
  rcases haccepted : admitRun env w.db tenantId request with e | admission
  · exact .inl rfl
  · have hlift : (Attempt.lift (Except.ok admission) : Attempt World ControlTestError Admission).run
        w = (.ok admission, w) := rfl
    have htick : (tick : Attempt World ControlTestError ℕ).run w =
        (.ok w.ticks, { w with ticks := w.ticks + 1 }) := rfl
    rw [Attempt.run_bind_ok hlift, Attempt.run_bind_ok htick]
    rcases hopen : openRun tenantId request admission.prepared admission.inputHash
      (env.newId w.ticks) w.db with e | ⟨opening, db⟩
    · have hrun : (transaction (openRun tenantId request admission.prepared admission.inputHash
          (env.newId w.ticks))).run { w with ticks := w.ticks + 1 } =
          (.error e, { w with ticks := w.ticks + 1 }) := transaction_error hopen
      rw [Attempt.run_bind_error hrun]
      exact .inl rfl
    · have hrun : (transaction (openRun tenantId request admission.prepared admission.inputHash
          (env.newId w.ticks))).run { w with ticks := w.ticks + 1 } =
          (.ok opening, { db := db, ticks := w.ticks + 1 }) := transaction_ok hopen
      rw [Attempt.run_bind_ok hrun]
      unfold openRun at hopen
      split at hopen
      · -- an earlier run of the key
        simp only [bind_eq_ok, require_eq_ok] at hopen
        obtain ⟨-, -, result, -, heq⟩ := hopen
        cases heq
        exact .inl rfl
      · simp only [bind_eq_ok, ofOption_eq_ok, addRun_eq_some] at hopen
        obtain ⟨-, -, db₁, ⟨hfree, rfl⟩, heq⟩ := hopen
        cases heq
        exact .inr ⟨admission, rfl, hfree, rfl⟩

theorem getRun_opened {admission : Admission}
    (hfree : ∀ x ∈ w.db.runs, x.runId ≠ env.newId w.ticks) :
    (w.opened env tenantId request admission).db.getRun tenantId (env.newId w.ticks) =
      some (openedRow tenantId request admission.prepared.reconciliation admission.inputHash
        (env.newId w.ticks)) := by
  show (w.db.runs ++ [_]).find? _ = _
  rw [List.find?_append, List.find?_eq_none.mpr, Option.none_or]
  · simp [openedRow]
  · intro x hx
    simp [hfree x hx]

theorem Constraints.opened (h : Constraints w.db)
    (hfree : ∀ x ∈ w.db.runs, x.runId ≠ env.newId w.ticks) :
    Constraints (w.opened env tenantId request admission).db := by
  constructor
  · show ((w.db.runs ++ [_]).map ControlTestRun.runId).Nodup
    rw [List.map_append, List.nodup_append]
    refine ⟨h.runIds, by simp, ?_⟩
    intro a ha b hb
    obtain ⟨x, hx, rfl⟩ := List.mem_map.mp ha
    obtain rfl := List.mem_singleton.mp hb
    exact hfree x hx
  · intro e he
    show e.runId ∈ (w.db.runs ++ [_]).map ControlTestRun.runId
    rw [List.map_append]
    exact List.mem_append_left _ (h.exceptions e he)

theorem Constraints.exceptions_free (h : Constraints w.db)
    (hfree : ∀ x ∈ w.db.runs, x.runId ≠ runId) : ∀ e ∈ w.db.exceptions, e.runId ≠ runId := by
  intro e he heq
  obtain ⟨x, hx, hid⟩ := List.mem_map.mp (h.exceptions e he)
  exact hfree x hx (hid.trans heq)

def Constrained (w : World) : Prop := Constraints w.db

theorem transaction_keeps {α : Type} {f : Database → Except ControlTestError (α × Database)}
    (hf : ∀ db a db', Constraints db → f db = .ok (a, db') → Constraints db') :
    (transaction f).Keeps Constrained := by
  intro w h
  rcases hfw : f w.db with e | ⟨a, db'⟩
  · rwa [transaction_error hfw]
  · rw [transaction_ok hfw]
    exact hf w.db a db' h hfw

theorem Constraints.put {db db' : Database} {row : ControlTestRun} {es : List ExceptionRow}
    (h : Constraints db) (hrow : row.runId ∈ db.runs.map ControlTestRun.runId)
    (hes : ∀ e ∈ es, e.runId = row.runId) (hruns : db'.runs = Table.put ControlTestRun.runId row
      db.runs) (hexceptions : db'.exceptions = db.exceptions ++ es) : Constraints db' := by
  have hids : db'.runs.map ControlTestRun.runId = db.runs.map ControlTestRun.runId := by
    rw [hruns, Table.map_put_key]
  constructor
  · rw [hids]
    exact h.runIds
  · intro e he
    rw [hids]
    rw [hexceptions] at he
    rcases List.mem_append.mp he with hold | hadded
    · exact h.exceptions e hold
    · rw [hes e hadded]
      exact hrow

theorem finalize_keeps {inputHash : String} {release : LoadedControlTest} {value : Object}
    {environment : Value} {status : RunStatus} {reconciliation : Reconciliation} :
    (finalize env tenantId runId release request value environment status inputHash
      reconciliation).Keeps Constrained := by
  refine (Attempt.keeps_lift _).bind fun reading => transaction_keeps ?_
  rintro db result db' h hclose
  obtain ⟨row, hrow, hruns, hexceptions⟩ := closeRun_writes hclose
  obtain ⟨hmem, -, hid⟩ := getRun_runId hrow
  refine Constraints.put h ?_ ?_ hruns hexceptions
  · exact List.mem_map.mpr ⟨row, hmem, rfl⟩
  intro e he
  obtain ⟨x, -, rfl⟩ := List.mem_map.mp he
  exact hid.symm

theorem finishRun_keeps :
    (finishRun env tenantId runId request admission).Keeps Constrained := by
  unfold finishRun
  dsimp only
  split
  · exact finalize_keeps
  · refine Attempt.Keeps.bind (fun _ h => h) fun now => ?_
    split
    · rename_i f _
      have hraise : (Attempt.raise (.failure f) :
          Attempt World ControlTestError ControlTestRunResult).Keeps Constrained :=
        Attempt.keeps_raise _
      by_cases hordinary : f.ordinary = true
      · rw [if_pos hordinary]
        refine Attempt.Keeps.bind (transaction_keeps ?_) fun _ => hraise
        rintro db u db' h hfail
        obtain ⟨old, failed, hold, hid, -, hruns, hexceptions⟩ := failRun_writes hfail
        obtain ⟨hmem, -, hoid⟩ := getRun_runId hold
        have hnone : db'.exceptions = db.exceptions ++ [] := by
          rw [hexceptions, List.append_nil]
        exact h.put (List.mem_map.mpr ⟨old, hmem, hoid.trans hid.symm⟩) (by simp) hruns hnone
      · rw [if_neg hordinary]
        exact hraise
    · exact finalize_keeps

theorem run_constraints (h : Constraints w.db) :
    Constraints ((run env tenantId request).run w).2.db := by
  rcases run_cases env tenantId request w with hsame | ⟨admission, -, hfree, hrun⟩
  · rwa [hsame]
  · have hids : ∀ x ∈ w.db.runs, x.runId ≠ env.newId w.ticks :=
      fun x hx hid => hfree x hx (.inl hid)
    rw [hrun]
    exact finishRun_keeps _ (h.opened hids)

/-- A call of `run` changes nothing in the database, or makes a row and finishes it if it can. -/
theorem run_writes (h : Constraints w.db) (env : Environment) (tenantId : String)
    (request : ControlTestRunRequest) :
    ((run env tenantId request).run w).2.db = w.db ∨
    ∃ admission, admitRun env w.db tenantId request = .ok admission ∧
      (∀ x ∈ w.db.runs, ¬ (x.runId = env.newId w.ticks ∨
        x.tenantId = tenantId ∧ x.idempotencyKey = request.idempotencyKey)) ∧
      (FinishesRow env (w.ticks + 1) tenantId (env.newId w.ticks) request admission →
        RowFinished (env.newId w.ticks) (w.opened env tenantId request admission).db
          ((run env tenantId request).run w).2.db) ∧
      (¬ FinishesRow env (w.ticks + 1) tenantId (env.newId w.ticks) request admission →
        ((run env tenantId request).run w).2.db.runs =
          (w.opened env tenantId request admission).db.runs) := by
  rcases run_cases env tenantId request w with hsame | ⟨admission, haccepted, hfree, hrun⟩
  · exact .inl hsame
  · have hids : ∀ x ∈ w.db.runs, x.runId ≠ env.newId w.ticks :=
      fun x hx hid => hfree x hx (.inl hid)
    have hexceptions : ∀ e ∈ (w.opened env tenantId request admission).db.exceptions,
        e.runId ≠ env.newId w.ticks := h.exceptions_free hids
    rw [hrun]
    exact .inr ⟨admission, haccepted, hfree, finishRun_finishes (getRun_opened hids) hexceptions⟩

/-- The property of one call: the row that it has made is finished, and a retry of the key does
not find an unfinished one. -/
def LeavesFinished (env : Environment) (w : World) (tenantId : String)
    (request : ControlTestRunRequest) (row : ControlTestRun) : Prop :=
  row.status ≠ .running ∧
    ∀ existing ∈ ((run env tenantId request).run w).2.db.getRunByIdempotency tenantId
      request.idempotencyKey, existing.status ≠ .running

/-- The row that a call of `run` makes is finished when the call ends, exactly when the procedure
fails with an ordinary exception or gives a result that can be read, stored and answered. -/
theorem run_finishes_iff (h : Constraints w.db) {row : ControlTestRun}
    (hrow : row ∈ ((run env tenantId request).run w).2.db.runs)
    (hnew : row.runId ∉ w.db.runs.map ControlTestRun.runId) :
    LeavesFinished env w tenantId request row ↔ Finishes env w tenantId request := by
  unfold LeavesFinished
  rcases run_writes h env tenantId request with
    hsame | ⟨admission, haccepted, hfree, hfinished, hunfinished⟩
  · rw [hsame] at hrow
    exact absurd (List.mem_map_of_mem hrow) hnew
  have hfinishes : Finishes env w tenantId request ↔
      FinishesRow env (w.ticks + 1) tenantId (env.newId w.ticks) request admission := by
    constructor
    · exact fun hall => hall admission haccepted
    · intro hfin admission' haccepted'
      obtain rfl : admission = admission' := Except.ok.inj (haccepted.symm.trans haccepted')
      exact hfin
  rw [hfinishes]
  constructor
  · rintro ⟨hstatus, -⟩
    by_contra hnot
    rw [hunfinished hnot] at hrow
    rcases List.mem_append.mp hrow with hold | hopened
    · exact hnew (List.mem_map_of_mem hold)
    · rw [List.mem_singleton.mp hopened] at hstatus
      exact hstatus rfl
  · intro hfin
    obtain ⟨row', hid, hstatus, hruns⟩ := hfinished hfin
    -- a row of the new id or of the new key is the finished one
    have hmem : ∀ x ∈ Table.put ControlTestRun.runId row' (w.opened env tenantId request
        admission).db.runs, x = row' ∨ x ∈ w.db.runs := by
      intro x hx
      rcases Table.eq_or_mem_of_mem_put hx with rfl | ⟨hx, hne⟩
      · exact .inl rfl
      · rcases List.mem_append.mp hx with hold | hopened
        · exact .inr hold
        · rw [List.mem_singleton.mp hopened] at hne
          exact absurd hid.symm hne
    rw [hruns] at hrow
    refine ⟨?_, ?_⟩
    · rcases hmem row hrow with rfl | hold
      · exact hstatus
      · exact absurd (List.mem_map_of_mem hold) hnew
    · intro existing hexisting
      have hprop := List.find?_some hexisting
      simp only [decide_eq_true_eq] at hprop
      have hin := List.mem_of_find?_eq_some hexisting
      rw [hruns] at hin
      rcases hmem existing hin with rfl | hold
      · exact hstatus
      · exact absurd (.inr hprop) (hfree existing hold)

end Run

/-- A call of `run`: the tenant and the request. -/
abbrev Call := String × ControlTestRunRequest

def World.perform (env : Environment) (w : World) (call : Call) : World :=
  ((run env call.1 call.2).run w).2

/-! ### A run whose exceptions share a key -/

def samplePopulation : DatasetContract where
  name := "changes"
  role := .population
  rowSchema := .obj []

def sampleManifest : ControlTestManifest where
  testId := "SCM-01"
  version := "2.0.0"
  datasets := [samplePopulation]
  population := samplePopulation
  population_mem := List.mem_singleton_self _
  population_role := by simp [samplePopulation]
  names_nodup := List.nodup_singleton _

def sampleTest : LoadedControlTest where
  manifest := sampleManifest
  inputSchema := .obj []
  outputSchema := .obj []
  parameterSchema := .obj []
  packageSha256 := "package"
  manifestHash := "manifest"
  codeHash := "code"

/-- A world in which the procedure of the sample test gives `output` for the purpose and the
rows of the population. -/
def sampleEnvironment (output : Object → Object → Object) : Environment where
  registry := [sampleTest]
  schemaError _ _ := none
  sha256 := String.ofList
  encodes _ := true
  conversions := .plain
  reprStrings := String.join
  newId n := "tst_" ++ toString n
  execute _ _ datasets _ context := .ok (output datasets context, .obj [])
  storesResult _ := true
  storesException _ := true
  storesFailure _ := true

theorem canonical_nil : Canonical (.obj []) := ⟨rfl, List.nodup_nil, trivial⟩

def sampleDataset : ControlTestDataset where
  name := "changes"
  records := [.obj []]
  evidenceIds := ["evd_1"]
  canonical_records := List.forall_mem_singleton.mpr canonical_nil
  canonical_metadata := canonical_nil

def sampleRequest : ControlTestRunRequest where
  testId := "SCM-01"
  version := "2.0.0"
  purpose := "operating_effectiveness"
  periodStart := 730120
  periodEnd := 730484
  requestedBy := "auditor"
  idempotencyKey := "key-1"
  parameters := []
  datasets := [sampleDataset]
  canonical_parameters := canonical_nil
  names_nodup := List.nodup_singleton _

def sampleWorld : World where
  db := { releases := [("SCM-01", "2.0.0")] }

theorem sampleWorld_constraints : Constraints sampleWorld.db :=
  ⟨List.nodup_nil, fun _ he => absurd he List.not_mem_nil⟩

def sampleException : Value :=
  .obj [("exception_key", .str "change-1"), ("subject_ref", .str "change-1"),
    ("classification", .str "missing_approval"), ("reason", .str "no approval")]

def sampleOutput (exceptions : List Value) : Object :=
  [("conclusion", .str "ineffective"), ("rows", .arr []), ("exceptions", .arr exceptions)]

def exceptionsEnvironment (exceptions : List Value) : Environment :=
  { sampleEnvironment fun _ _ => sampleOutput exceptions with
    sha256 := fun text => toString text.length }

def afterSample (exceptions : List Value) : World :=
  sampleWorld.perform (exceptionsEnvironment exceptions) ("tnt_a", sampleRequest)

theorem run_finishes_sample :
    Finishes (exceptionsEnvironment [sampleException]) sampleWorld "tnt_a" sampleRequest := by
  have hrow : ∃ row ∈ (afterSample [sampleException]).db.runs, row.status ≠ .running ∧
      row.runId ∉ sampleWorld.db.runs.map ControlTestRun.runId := by decide +kernel
  obtain ⟨row, hmem, hstatus, hnew⟩ := hrow
  have hretry : ∀ existing ∈ (afterSample [sampleException]).db.getRunByIdempotency "tnt_a"
      "key-1", existing.status ≠ .running := by decide +kernel
  exact (run_finishes_iff sampleWorld_constraints hmem hnew).mp ⟨hstatus, hretry⟩

/-- Two exceptions of one key: the row stays running, and a retry of the key answers with it as a
failed run. -/
theorem run_unfinished_repeated_key :
    (∃ row ∈ (afterSample [sampleException, sampleException]).db.runs,
      row.runId ∉ sampleWorld.db.runs.map ControlTestRun.runId ∧
      ¬ LeavesFinished (exceptionsEnvironment [sampleException, sampleException]) sampleWorld
        "tnt_a" sampleRequest row) ∧
    (((run (exceptionsEnvironment [sampleException, sampleException]) "tnt_a" sampleRequest).run
      (afterSample [sampleException, sampleException])).1.toOption.map
        ControlTestRunResult.status) = some .failed := by
  refine ⟨?_, by decide +kernel⟩
  have hrow : ∃ row ∈ (afterSample [sampleException, sampleException]).db.runs,
      row.runId ∉ sampleWorld.db.runs.map ControlTestRun.runId ∧ row.status = .running := by
    decide +kernel
  obtain ⟨row, hmem, hnew, hstatus⟩ := hrow
  exact ⟨row, hmem, hnew, fun h => h.1 hstatus⟩

variable {tenantId : String} {request : ControlTestRunRequest} {w w' : World}
  {result : ControlTestRunResult}

/-- The procedure is not run: the population is not complete, and has to be. -/
def Admission.blocked (admission : Admission) : Bool :=
  !admission.prepared.reconciliation.populationComplete &&
    admission.release.manifest.reconciliation.requireComplete

variable {row : ControlTestRun}
variable {db : Database} {runId : String}

theorem resultFromRow_runId (h : resultFromRow db row = .ok result) :
    result.runId = row.runId := by
  unfold resultFromRow at h
  simp only [bind_eq_ok] at h
  obtain ⟨rows, -, limitations, -, heq⟩ := h
  cases heq
  rfl

theorem getRunByIdempotency_eq_some {key : String}
    (h : db.getRunByIdempotency tenantId key = some row) : row ∈ db.runs :=
  List.mem_of_find?_eq_some h

theorem finalize_eq_ok {inputHash : String} {release : LoadedControlTest} {value : Object}
    {environment : Value} {status : RunStatus} {reconciliation : Reconciliation}
    (hrow : w.db.getRun tenantId runId = some row)
    (h : (finalize env tenantId runId release request value environment status inputHash
      reconciliation).run w = (.ok result, w')) :
    ∃ row' ∈ w'.db.runs, row'.runId = result.runId ∧ row'.testId = row.testId ∧
      row'.testVersion = row.testVersion ∧ row'.status = status := by
  unfold finalize at h
  obtain ⟨reading, w₁, hread, h⟩ := Attempt.run_bind_eq_ok.mp h
  obtain ⟨-, rfl⟩ := (Prod.mk.injEq ..).mp hread
  rcases hclose : closeRun env tenantId runId status value reading w.db with e | ⟨r, db'⟩
  · rw [transaction_error hclose] at h
    cases h
  · rw [transaction_ok hclose] at h
    cases h
    obtain ⟨row', hrow', hruns, -⟩ := closeRun_writes hclose
    obtain rfl : row = row' := Option.some.inj (hrow.symm.trans hrow')
    unfold closeRun at hclose
    simp only [bind_eq_ok, ofOption_eq_ok, require_eq_ok] at hclose
    obtain ⟨row', hrow', -, -, db₁, -, answer, hanswer, heq⟩ := hclose
    obtain rfl : row = row' := Option.some.inj (hrow.symm.trans hrow')
    cases heq
    refine ⟨row.finalized status value reading, ?_, (resultFromRow_runId hanswer).symm, rfl, rfl,
      rfl⟩
    rw [hruns]
    exact Table.mem_put_self (getRun_runId hrow).1 rfl

theorem finishRun_eq_ok {admission : Admission} (hrow : w.db.getRun tenantId runId = some row)
    (h : (finishRun env tenantId runId request admission).run w = (.ok result, w')) :
    ∃ row' ∈ w'.db.runs, row'.runId = result.runId ∧ row'.testId = row.testId ∧
      row'.testVersion = row.testVersion ∧
      row'.status = if admission.blocked then .blocked else .succeeded := by
  unfold finishRun at h
  dsimp only at h
  unfold Admission.blocked
  split at h
  · rename_i hblocked
    rw [if_pos hblocked]
    exact finalize_eq_ok hrow h
  · rename_i hopen
    rw [if_neg hopen]
    obtain ⟨now, w₁, htick, h⟩ := Attempt.run_bind_eq_ok.mp h
    obtain ⟨-, rfl⟩ := (Prod.mk.injEq ..).mp htick
    split at h
    · -- a procedure that fails ends the call
      split at h
      · obtain ⟨_, w₁, -, hraise⟩ := Attempt.run_bind_eq_ok.mp h
        cases hraise
      · cases h
    · exact finalize_eq_ok (w := { w with ticks := w.ticks + 1 }) hrow h

/-- **The row of a result.**  A call that returns answers with a row of the table: the
earlier one of its key, or its own, which has succeeded unless the run was blocked. -/
theorem run_eq_ok (h : (run env tenantId request).run w = (.ok result, w')) :
    ∃ admission row, admitRun env w.db tenantId request = .ok admission ∧ row ∈ w'.db.runs ∧
      row.runId = result.runId ∧
      (w.db.getRunByIdempotency tenantId request.idempotencyKey = some row ∨
        w.db.getRunByIdempotency tenantId request.idempotencyKey = none ∧
          row.testId = request.testId ∧ row.testVersion = request.version ∧
          row.status = if admission.blocked then .blocked else .succeeded) := by
  unfold run at h
  obtain ⟨w₀, w₁, hget, h⟩ := Attempt.run_bind_eq_ok.mp h
  obtain ⟨heq, rfl⟩ := (Prod.mk.injEq ..).mp hget
  cases heq
  obtain ⟨admission, w₁, hlift, h⟩ := Attempt.run_bind_eq_ok.mp h
  obtain ⟨hrequest, rfl⟩ := (Prod.mk.injEq ..).mp hlift
  obtain ⟨now, w₁, htick, h⟩ := Attempt.run_bind_eq_ok.mp h
  obtain ⟨heq, rfl⟩ := (Prod.mk.injEq ..).mp htick
  cases heq
  obtain ⟨opening, w₁, htransaction, h⟩ := Attempt.run_bind_eq_ok.mp h
  rcases hopen : openRun tenantId request admission.prepared admission.inputHash
    (env.newId w.ticks) w.db with e | ⟨opening', db⟩
  · rw [transaction_error (w := { w with ticks := w.ticks + 1 }) hopen] at htransaction
    cases htransaction
  · rw [transaction_ok (w := { w with ticks := w.ticks + 1 }) hopen] at htransaction
    cases htransaction
    unfold openRun at hopen
    split at hopen
    · rename_i existing hexisting
      simp only [bind_eq_ok, require_eq_ok] at hopen
      obtain ⟨-, -, answer, hanswer, heq⟩ := hopen
      cases heq
      cases h
      exact ⟨admission, existing, hrequest, getRunByIdempotency_eq_some hexisting,
        (resultFromRow_runId hanswer).symm, Or.inl hexisting⟩
    · rename_i hnone
      simp only [bind_eq_ok, ofOption_eq_ok, addRun_eq_some] at hopen
      obtain ⟨-, -, db₁, ⟨hfree, rfl⟩, heq⟩ := hopen
      cases heq
      have hrow := @getRun_opened env tenantId request w admission fun x hx hid =>
        hfree x hx (Or.inl hid)
      obtain ⟨row, hmem, hid, htest, hversion, hstatus⟩ := finishRun_eq_ok hrow h
      exact ⟨admission, row, hrequest, hmem, hid, Or.inr ⟨hnone, htest, hversion, hstatus⟩⟩

end ControlTesting
