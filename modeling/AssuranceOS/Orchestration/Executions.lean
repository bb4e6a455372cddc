/-
Runs of the orchestrator.

`exec_effect` is the inversion lemma of the whole service: an accepted call is one of the effects of
`Operations.lean` and `Compilation.lean`.  `Effect.path` forgets the order of the moves and keeps, for
every move, what the call says about it (`Op.causes`).

`run_invariant_step` is the induction rule for runs; `run_invariant_exec` and `run_invariant_move` are
its forms for what accepted calls keep and for what compilations and caused moves keep.
-/
import AssuranceOS.Orchestration.Compilation

namespace Orchestration

open Orchestrator

/-- What an accepted call does to the database. -/
inductive Effect (now : Timestamp) (op : Op) (db db' : Database) : Prop
  | compiled (tenantId engagementId : String) (rows : List EngagementTask)
      (deps : List TaskDependency) (compiled : Compiled now tenantId engagementId rows deps db db')
  | started (started : Started now db db')
  | ticked (tenantId : String) (ticked : Ticked now tenantId db db')
  | claimed (tenantId workerId : String) (leaseSeconds : Int) (filter : Database.ClaimFilter)
      (lease : Option TaskLease)
      (call : op = .claimNext tenantId workerId leaseSeconds filter) (positive : 0 < leaseSeconds)
      (claimed : Claimed now tenantId workerId filter db db' lease)
  | extended (t t' : EngagementTask) (move : TaskMove now .heartbeat t t' db db')
  | acted (acted : Acted now op db db')
  | retried (retried : Retried now op db db')
  | cancelled (cancelled : Cancelled now db db')

/-- **Inversion of a call.** -/
theorem exec_effect {now : Timestamp} {op : Op} {db db' : Database} (hwf : WellFormed db)
    (h : op.exec db now = .ok db') : Effect now op db db' := by
  cases op with
  | compileWorkflow tenantId engagementId workflow taskIds createdAt =>
    obtain ⟨s, hs⟩ := map_fst_eq_ok.mp h
    obtain ⟨rows, deps, hcompiled⟩ := compileWorkflow_compiled hs
    exact .compiled tenantId engagementId rows deps hcompiled
  | startEngagement tenantId engagementId =>
    obtain ⟨s, hs⟩ := map_fst_eq_ok.mp h
    exact .started (startEngagement_started hwf hs)
  | tick tenantId =>
    have hdb' : (tick db now tenantId).1 = db' := by simpa [Op.exec] using h
    rw [← hdb']
    exact .ticked tenantId (tick_ticked hwf tenantId)
  | claimNext tenantId workerId leaseSeconds filter =>
    obtain ⟨lease, hs⟩ := map_fst_eq_ok.mp h
    obtain ⟨hpos, hclaimed⟩ := claimNext_claimed hwf hs
    exact .claimed tenantId workerId leaseSeconds filter lease rfl hpos hclaimed
  | heartbeat tenantId taskId workerId leaseSeconds =>
    obtain ⟨lease, hs⟩ := map_fst_eq_ok.mp h
    obtain ⟨t, t', hmove⟩ := heartbeat_move hs
    exact .extended t t' hmove
  | completeTask tenantId taskId workerId result =>
    obtain ⟨s, hs⟩ := map_fst_eq_ok.mp h
    exact .acted (completeTask_acted hwf hs)
  | failTask tenantId taskId workerId failureClass message forceRetryable =>
    obtain ⟨s, hs⟩ := map_fst_eq_ok.mp h
    exact .acted (failTask_acted hwf hs)
  | approveGate tenantId taskId decision =>
    obtain ⟨s, hs⟩ := map_fst_eq_ok.mp h
    exact .acted (decideGate_acted hwf hs)
  | rejectGate tenantId taskId decision =>
    obtain ⟨s, hs⟩ := map_fst_eq_ok.mp h
    exact .acted (decideGate_acted hwf hs)
  | cancelEngagement tenantId engagementId actorId reason =>
    obtain ⟨s, hs⟩ := map_fst_eq_ok.mp h
    exact .cancelled (cancelEngagement_cancelled hwf hs)
  | forceRetryTask tenantId taskId actorId reason =>
    obtain ⟨s, hs⟩ := map_fst_eq_ok.mp h
    exact .retried (forceRetryTask_retried hwf hs)
  | forceSkipTask tenantId taskId actorId reason =>
    obtain ⟨s, hs⟩ := map_fst_eq_ok.mp h
    exact .acted (forceSkipTask_acted hwf hs)

/-- What the call `op`, made at `now` in state `db₀`, says about a move of kind
`k` of task `t` in state `db`. -/
def Op.causes (now : Timestamp) (op : Op) (db₀ db : Database) (k : MoveKind)
    (t : EngagementTask) : Prop :=
  match k with
  | .claim workerId => db = db₀ ∧ ∃ tenantId leaseSeconds filter,
      op = .claimNext tenantId workerId leaseSeconds filter ∧ 0 < leaseSeconds ∧
      (db₀.claimable tenantId now filter).head? = some t
  | .complete | .submit | .approve | .accept | .reject | .forceRetry | .forceSkip =>
    db = db₀ ∧ op.acts now t k
  | _ => True

section Paths

variable {now : Timestamp} {op : Op} {db db' : Database}
variable {k : MoveKind} {t : EngagementTask}

theorem causes_of_acts (h : op.acts now t k) :
    op.causes now db db k t := by
  cases k with
  | claim workerId =>
    -- no call acts on a task by a claim
    cases op <;> simp only [Op.acts, completeKind, decideKind] at h
    all_goals
      obtain ⟨-, h⟩ := h
      grind
  | complete | submit | approve | accept | reject | forceRetry | forceSkip => exact ⟨rfl, h⟩
  | _ => trivial

theorem causes_of_reconcile {db₀ : Database} (h : k.isReconcile) : op.causes now db₀ db k t := by
  cases k <;> trivial

theorem ReconciledEach.path {es : List Engagement} (h : ReconciledEach now es db db') :
    Path now (fun _ k _ => k.isReconcile) db db' := by
  induction h with
  | nil db => exact .refl
  | cons head _ ih => exact (head.path.mono fun _ _ _ hk => hk.1).trans ih

theorem Effect.path (h : Effect now op db db')
    (hcompile : ∀ tenantId engagementId rows deps,
      ¬ Compiled now tenantId engagementId rows deps db db') :
    Path now (op.causes now db) db db' := by
  have hrec : ∀ (E : String) (db₁ : Database) (k : MoveKind) (t : EngagementTask),
      ReconcileOf E db₁ k t → op.causes now db db₁ k t := fun _ _ _ _ hk =>
    causes_of_reconcile hk.1
  cases h with
  | compiled tenantId engagementId rows deps compiled =>
    exact absurd compiled (hcompile tenantId engagementId rows deps)
  | started started =>
    obtain ⟨e, e', db₁, move, -, -, -, -, reconciled⟩ := started
    exact .head (.engagement move) (reconciled.path.mono (hrec _))
  | ticked tenantId ticked =>
    obtain ⟨db₁, sweep, reconciled⟩ := ticked
    refine (sweep.path.mono ?_).trans
      (reconciled.path.mono fun _ _ _ hk => causes_of_reconcile hk)
    -- the kinds of the sweeps carry no condition
    rintro db₂ k t ⟨-, rfl | rfl | rfl | rfl⟩ <;> trivial
  | claimed tenantId workerId leaseSeconds filter lease call positive claimed =>
    cases claimed with
    | idle eq => rw [eq]
    | leased t t' lease best move _ _ =>
      have hcause : op.causes now db db (.claim workerId) t :=
        ⟨rfl, tenantId, leaseSeconds, filter, call, positive, best⟩
      exact .single (.task hcause move)
  | extended t t' move =>
    have hcause : op.causes now db db .heartbeat t := trivial
    exact .single (.task hcause move)
  | acted acted =>
    obtain ⟨k, t, t', e, db₁, acts, -, move, -, reconciled⟩ := acted
    exact .head (.task (causes_of_acts acts) move) (reconciled.path.mono (hrec _))
  | retried retried =>
    obtain ⟨t, t', e, e', db₁, db₂, acts, move, -, reopen, -, -, reconciled⟩ := retried
    exact .head (.task (causes_of_acts acts) move)
      (.head (.engagement reopen) (reconciled.path.mono (hrec _)))
  | cancelled cancelled =>
    obtain ⟨e, e', db₁, path, move, -, -, -⟩ := cancelled
    refine (path.path.mono ?_).tail (.engagement move)
    rintro db₂ k t ⟨rfl, -⟩
    trivial

end Paths

section Runs

variable {db : Database} {calls : List (Timestamp × Op)}

theorem step_cases (hwf : WellFormed db) (call : Timestamp × Op) :
    (∃ tenantId engagementId rows deps,
      Compiled call.1 tenantId engagementId rows deps db (step db call)) ∨
    Path call.1 (call.2.causes call.1 db) db (step db call) := by
  rcases hexec : call.2.exec db call.1 with err | db'
  · right
    have hstep : step db call = db := by rw [step, hexec]
    rw [hstep]
  · have hstep : step db call = db' := by rw [step, hexec]
    rw [hstep]
    by_cases hc : ∃ tenantId engagementId rows deps,
        Compiled call.1 tenantId engagementId rows deps db db'
    · exact Or.inl hc
    · refine Or.inr ((exec_effect hwf hexec).path fun tenantId engagementId rows deps h => ?_)
      exact hc ⟨tenantId, engagementId, rows, deps, h⟩

theorem step_wellFormed (hwf : WellFormed db) (call : Timestamp × Op) :
    WellFormed (step db call) := by
  rcases step_cases hwf call with ⟨tenantId, engagementId, rows, deps, hc⟩ | hpath
  · exact hc.wellFormed hwf
  · exact hpath.wellFormed hwf

theorem run_wellFormed (hwf : WellFormed db) : WellFormed (run db calls) := by
  refine Runs.run_invariant_always (fun db call hwf => ?_) hwf calls
  exact step_wellFormed hwf call

variable {I : Database → Prop} {ok : Database → Timestamp × Op → Prop}
variable {call : Timestamp × Op}

theorem step_invariant_exec (hI : I db) (hexec : ∀ db', call.2.exec db call.1 = .ok db' → I db') :
    I (step db call) := by
  rcases hrun : call.2.exec db call.1 with err | db'
  · have hsame : step db call = db := by rw [step, hrun]
    rw [hsame]
    exact hI
  · have hnext : step db call = db' := by rw [step, hrun]
    rw [hnext]
    exact hexec db' hrun

theorem step_invariant_move (hwf : WellFormed db) (hI : I db)
    (hcompile : ∀ {tenantId engagementId rows deps db'},
      Compiled call.1 tenantId engagementId rows deps db db' → I db')
    (hmove : ∀ {db₁ db₂}, WellFormed db₁ → I db₁ →
      Move call.1 (call.2.causes call.1 db) db₁ db₂ → I db₂) : I (step db call) := by
  rcases step_cases hwf call with ⟨tenantId, engagementId, rows, deps, hc⟩ | hpath
  · exact hcompile hc
  · refine (Runs.path_invariant (I := fun db => WellFormed db ∧ I db) ?_ hpath ⟨hwf, hI⟩).2
    intro db₁ db₂ hm h₁
    exact ⟨hm.wellFormed h₁.1, hmove h₁.1 h₁.2 hm⟩

/-- **The invariant rule.**  Along a run the tables are well-formed. -/
theorem run_invariant_step
    (hstep : ∀ db call, WellFormed db → I db → ok db call → I (step db call))
    (hwf : WellFormed db) (hI : I db) (hok : Runs.EachStep step ok db calls) :
    I (run db calls) := by
  refine (Runs.run_invariant (I := fun db => WellFormed db ∧ I db) ?_ ⟨hwf, hI⟩ hok).2
  intro db call hcall h
  exact ⟨step_wellFormed h.1 call, hstep db call h.1 h.2 hcall⟩

theorem run_invariant_exec
    (hexec : ∀ db now op db', WellFormed db → I db → ok db (now, op) →
      op.exec db now = .ok db' → I db')
    (hwf : WellFormed db) (hI : I db) (hok : Runs.EachStep step ok db calls) :
    I (run db calls) := by
  refine run_invariant_step (fun db call hwf hI hcall => ?_) hwf hI hok
  exact step_invariant_exec hI fun db' => hexec db call.1 call.2 db' hwf hI hcall

theorem run_invariant_move
    (hcompile : ∀ {now tenantId engagementId rows deps db db'}, WellFormed db → I db →
      Compiled now tenantId engagementId rows deps db db' → I db')
    (hmove : ∀ {now op db₀ db db'}, ok db₀ (now, op) → WellFormed db → I db →
      Move now (op.causes now db₀) db db' → I db')
    (hwf : WellFormed db) (hI : I db) (hok : Runs.EachStep step ok db calls) :
    I (run db calls) := by
  refine run_invariant_step (fun db call hwf hI hcall => ?_) hwf hI hok
  exact step_invariant_move hwf hI (hcompile hwf hI) (hmove hcall)

theorem run_invariant_move_always
    (hcompile : ∀ {now tenantId engagementId rows deps db db'}, WellFormed db → I db →
      Compiled now tenantId engagementId rows deps db db' → I db')
    (hmove : ∀ {now} {op : Op} {db₀ db db'}, WellFormed db → I db →
      Move now (op.causes now db₀) db db' → I db')
    (hwf : WellFormed db) (hI : I db) (calls : List (Timestamp × Op)) : I (run db calls) := by
  have hok : Runs.EachStep step (fun _ _ => True) db calls := .of_forall (by simp)
  exact run_invariant_move hcompile (fun _ => hmove) hwf hI hok

end Runs

end Orchestration
