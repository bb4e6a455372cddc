/-
Any number of callers on one vault.

An acquisition reads its scope, looks its acquisition key up, stores the payload and
commits the record; the collector reads the active keys, lists the objects and treats
one object after the other.  `Workers` is the vault with how far every caller is, and
`Event` one step of one of them.

`run_ingest_alone`, `run_derive_alone` and `run_collect_alone`: a call that nobody
interleaves with is `ingest_bytes`, `create_derivative` or `collect_garbage`.
-/
import AssuranceOS.Vault.Effects
import Mathlib.Logic.Function.Basic

namespace Vault

open Adjudication

/-- An acquisition. -/
inductive Request where
  | ingest (request : IngestRequest)
  | derive (request : DerivativeRequest)

/-- How far a caller is. -/
inductive Phase where
  | idle
  | read (job : Job)
  | missed (job : Job)
  | stored (job : Job) (object : StoredObject)
  | collecting (tenantId : String) (cutoff : DateTime) (activeKeys : List String)
  | sweeping (tenantId : String) (cutoff : DateTime) (activeKeys : List String)
      (pending : List StoredObject)

/-- The vault, and how far each worker has come. -/
structure Workers where
  vault : VaultState
  phase : Nat → Phase := fun _ => .idle

/-- A step of a worker, or an operation beside them. -/
inductive Event where
  | begin (w : Nat) (request : Request)
  | lookup (w : Nat)
  | store (w : Nat) (fileTime : DateTime)
  | commit (w : Nat) (now : DateTime) (hex : Nat → String)
  | setRetention (ambient : Ambient) (tenantId evidenceId actorId : String)
      (retentionUntil : Option Date) (legalHold : Bool) (reason : String)
  | purge (ambient : Ambient) (tenantId evidenceId actorId reason : String)
      (asOf : Option Date)
  | collect (w : Nat) (tenantId : String) (cutoff : DateTime)
  | list (w : Nat)
  | sweep (w : Nat)
  | crash (w : Nat)

/-- Who takes the step; the operations of one transaction have no phase. -/
def Event.worker? : Event → Option Nat
  | .begin w _ | .lookup w | .store w _ | .commit w _ _ => some w
  | .setRetention .. | .purge .. => none
  | .collect w _ _ | .list w | .sweep w | .crash w => some w

def Request.read (S : EvidenceVault) (db : Database) : Request → Except VaultError Job
  | .ingest request => S.readIngest db request
  | .derive request => readDerivative db request

namespace Workers

variable (S : EvidenceVault) (s : Workers)

def setPhase (w : Nat) (phase : Phase) : Workers :=
  { s with phase := Function.update s.phase w phase }

def setDb (db : Database) : Workers :=
  { s with vault := { s.vault with db := db } }

def setFiles (files : List StoredFile) : Workers :=
  { s with vault := { s.vault with files := files } }

/-- A step that its caller is not ready for does nothing; one that raises ends the call. -/
def step (e : Event) : Workers :=
  match e with
  | .begin w request =>
    match s.phase w with
    | .idle =>
      match request.read S s.vault.db with
      | .ok job => s.setPhase w (.read job)
      | .error _ => s
    | _ => s
  | .lookup w =>
    match s.phase w with
    | .read job =>
      match replayed s.vault.db job (S.sha256 job.payload) with
      | .ok none => s.setPhase w (.missed job)
      | _ => s.setPhase w .idle
    | _ => s
  | .store w fileTime =>
    match s.phase w with
    | .missed job =>
      match LocalObjectStore.putBytes S.sha256 s.vault.files fileTime job.tenantId job.payload
          (S.sha256 job.payload) with
      | .ok (object, files) => (s.setFiles files).setPhase w (.stored job object)
      | .error _ => s.setPhase w .idle
    | _ => s
  | .commit w now hex =>
    match s.phase w with
    | .stored job object =>
      match S.commit s.vault.db job object now hex with
      | .ok (_, db) => (s.setDb db).setPhase w .idle
      | .error _ => s.setPhase w .idle
    | _ => s
  | .setRetention ambient tenantId evidenceId actorId retentionUntil legalHold reason =>
    match S.setRetention s.vault.db ambient tenantId evidenceId actorId retentionUntil legalHold
        reason with
    | .ok (_, db) => s.setDb db
    | .error _ => s
  | .purge ambient tenantId evidenceId actorId reason asOf =>
    match S.purge s.vault.db ambient tenantId evidenceId actorId reason asOf with
    | .ok (_, db) => s.setDb db
    | .error _ => s
  | .collect w tenantId cutoff =>
    match s.phase w with
    | .idle =>
      s.setPhase w (.collecting tenantId cutoff (s.vault.db.activeStorageKeys tenantId))
    | _ => s
  | .list w =>
    match s.phase w with
    | .collecting tenantId cutoff activeKeys =>
      match LocalObjectStore.iterObjects S.sha256 s.vault.files tenantId with
      | .ok objects => s.setPhase w (.sweeping tenantId cutoff activeKeys objects)
      | .error _ => s.setPhase w .idle
    | _ => s
  | .sweep w =>
    match s.phase w with
    | .sweeping tenantId cutoff activeKeys (object :: pending) =>
      match EvidenceVault.sweepObject tenantId activeKeys cutoff s.vault.files object with
      | .ok (_, files) =>
        (s.setFiles files).setPhase w (.sweeping tenantId cutoff activeKeys pending)
      | .error _ => s.setPhase w .idle
    | .sweeping _ _ _ [] => s.setPhase w .idle
    | _ => s
  | .crash w => s.setPhase w .idle

/-- The steps in the order in which they come. -/
def run (events : List Event) : Workers :=
  events.foldl (step S) s

theorem run_append (before after : List Event) :
    s.run S (before ++ after) = (s.run S before).run S after :=
  List.foldl_append

@[simp] theorem setPhase_vault (w : Nat) (phase : Phase) : (s.setPhase w phase).vault = s.vault :=
  rfl

@[simp] theorem setPhase_phase_self (w : Nat) (phase : Phase) :
    (s.setPhase w phase).phase w = phase := by
  simp [setPhase]

variable {w : Nat}

theorem setPhase_phase_of_ne {w' : Nat} (h : w' ≠ w) (phase : Phase) :
    (s.setPhase w phase).phase w' = s.phase w' := by
  simp [setPhase, h]

@[simp] theorem setDb_phase (db : Database) : (s.setDb db).phase = s.phase := rfl

@[simp] theorem setDb_db (db : Database) : (s.setDb db).vault.db = db := rfl

@[simp] theorem setDb_files (db : Database) : (s.setDb db).vault.files = s.vault.files := rfl

@[simp] theorem setFiles_phase (files : List StoredFile) : (s.setFiles files).phase = s.phase :=
  rfl

@[simp] theorem setFiles_db (files : List StoredFile) :
    (s.setFiles files).vault.db = s.vault.db := rfl

@[simp] theorem setFiles_files (files : List StoredFile) :
    (s.setFiles files).vault.files = files := rfl

theorem setPhase_phase_cases (w w' : Nat) (phase : Phase) :
    (s.setPhase w phase).phase w' = phase ∧ w' = w ∨
      (s.setPhase w phase).phase w' = s.phase w' := by
  by_cases h : w' = w
  · subst h
    exact Or.inl ⟨s.setPhase_phase_self w' phase, rfl⟩
  · exact Or.inr (s.setPhase_phase_of_ne h phase)

theorem step_phase_of_ne {e : Event} (h : e.worker? ≠ some w) :
    (s.step S e).phase w = s.phase w := by
  have hset : ∀ (s' : Workers) (v : Nat) (phase : Phase), v ≠ w →
      (s'.setPhase v phase).phase w = s'.phase w :=
    fun s' v phase hv => s'.setPhase_phase_of_ne (Ne.symm hv) phase
  cases e with
  | setRetention | purge =>
    unfold step
    dsimp only
    split <;> rfl
  | begin v | lookup v | store v | commit v | collect v | list v | sweep v | crash v =>
    have hv : v ≠ w := fun heq => h (congrArg some heq)
    unfold step
    dsimp only
    repeat' split
    all_goals first | rfl | exact hset _ v _ hv

theorem run_phase_of_ne : ∀ {events : List Event} {s : Workers},
    (∀ e ∈ events, e.worker? ≠ some w) → (s.run S events).phase w = s.phase w := by
  intro events
  induction events with
  | nil => exact fun _ => rfl
  | cons e events ih =>
    intro s h
    have hstep := s.step_phase_of_ne S (h e List.mem_cons_self)
    exact (ih fun e' he' => h e' (List.mem_cons_of_mem _ he')).trans hstep

end Workers

section Alone

variable {S : EvidenceVault} {s : Workers} {w : Nat}

theorem run_acquire_alone {job : Job} (hread : s.phase w = .read job) (ambient : Ambient) :
    (s.run S [.lookup w, .store w ambient.fileTime,
      .commit w (ambient.clock 0) ambient.hex]).vault = (S.acquireBytes s.vault ambient job).2 := by
  show (Workers.step S (Workers.step S (Workers.step S s (.lookup w))
    (.store w ambient.fileTime)) (.commit w (ambient.clock 0) ambient.hex)).vault = _
  unfold EvidenceVault.acquireBytes
  cases hreplay : replayed s.vault.db job (S.sha256 job.payload) with
  | error e => simp [Workers.step, hread, hreplay]
  | ok found =>
    cases found with
    | some existing => simp [Workers.step, hread, hreplay]
    | none =>
      have hlookup : Workers.step S s (.lookup w) = s.setPhase w (.missed job) := by
        simp [Workers.step, hread, hreplay]
      rw [hlookup]
      cases hput : LocalObjectStore.putBytes S.sha256 s.vault.files ambient.fileTime
          job.tenantId job.payload (S.sha256 job.payload) with
      | error e => simp [Workers.step, hput]
      | ok r =>
        obtain ⟨object, files⟩ := r
        have hstore : Workers.step S (s.setPhase w (.missed job)) (.store w ambient.fileTime) =
            ((s.setPhase w (.missed job)).setFiles files).setPhase w (.stored job object) := by
          simp [Workers.step, hput]
        rw [hstore]
        cases hcommit : S.commit s.vault.db job object (ambient.clock 0) ambient.hex with
        | error e => simp [Workers.step, hcommit, Workers.setFiles]
        | ok r =>
          obtain ⟨item, db⟩ := r
          simp [Workers.step, hcommit, Workers.setFiles, Workers.setDb]

theorem run_idle (hidle : s.phase w = .idle) (ambient : Ambient) :
    (s.run S [.lookup w, .store w ambient.fileTime,
      .commit w (ambient.clock 0) ambient.hex]).vault = s.vault := by
  simp [Workers.run, Workers.step, hidle]

theorem run_ingest_alone (hidle : s.phase w = .idle) (ambient : Ambient)
    (request : IngestRequest) :
    (s.run S [.begin w (.ingest request), .lookup w, .store w ambient.fileTime,
      .commit w (ambient.clock 0) ambient.hex]).vault =
      (S.ingestBytes s.vault ambient request).2 := by
  unfold EvidenceVault.ingestBytes
  cases hread : S.readIngest s.vault.db request with
  | error e =>
    have hbegin : Workers.step S s (.begin w (.ingest request)) = s := by
      simp [Workers.step, hidle, Request.read, hread]
    rw [Workers.run, List.foldl_cons, hbegin]
    exact run_idle hidle ambient
  | ok job =>
    have hbegin : Workers.step S s (.begin w (.ingest request)) = s.setPhase w (.read job) := by
      simp [Workers.step, hidle, Request.read, hread]
    rw [Workers.run, List.foldl_cons, hbegin]
    exact run_acquire_alone (s.setPhase_phase_self w _) ambient

theorem run_derive_alone (hidle : s.phase w = .idle) (ambient : Ambient)
    (request : DerivativeRequest) :
    (s.run S [.begin w (.derive request), .lookup w, .store w ambient.fileTime,
      .commit w (ambient.clock 0) ambient.hex]).vault =
      (S.createDerivative s.vault ambient request).2 := by
  unfold EvidenceVault.createDerivative
  cases hread : readDerivative s.vault.db request with
  | error e =>
    have hbegin : Workers.step S s (.begin w (.derive request)) = s := by
      simp [Workers.step, hidle, Request.read, hread]
    rw [Workers.run, List.foldl_cons, hbegin]
    exact run_idle hidle ambient
  | ok job =>
    have hbegin : Workers.step S s (.begin w (.derive request)) = s.setPhase w (.read job) := by
      simp [Workers.step, hidle, Request.read, hread]
    rw [Workers.run, List.foldl_cons, hbegin]
    exact run_acquire_alone (s.setPhase_phase_self w _) ambient

theorem run_sweep_alone {tenantId : String} {cutoff : DateTime} {activeKeys : List String} :
    ∀ (objects : List StoredObject) (s : Workers),
      s.phase w = .sweeping tenantId cutoff activeKeys objects →
      (s.run S (List.replicate objects.length (.sweep w))).vault =
        { s.vault with
          files := (EvidenceVault.sweepObjects tenantId activeKeys cutoff s.vault.files
            objects).2 } := by
  intro objects
  induction objects with
  | nil =>
    intro s hs
    rfl
  | cons object objects ih =>
    intro s hs
    rw [List.length_cons, List.replicate_succ, Workers.run, List.foldl_cons,
      EvidenceVault.sweepObjects]
    cases hsweep : EvidenceVault.sweepObject tenantId activeKeys cutoff s.vault.files object with
    | error e =>
      have hstep : Workers.step S s (.sweep w) = s.setPhase w .idle := by
        simp [Workers.step, hs, hsweep]
      rw [hstep]
      -- the call has ended, so the other steps do nothing
      have hrest : ∀ n, List.foldl (Workers.step S) (s.setPhase w .idle)
          (List.replicate n (.sweep w)) = s.setPhase w .idle := by
        intro n
        induction n with
        | zero => rfl
        | succ n ih =>
          have hidle : Workers.step S (s.setPhase w .idle) (.sweep w) = s.setPhase w .idle := by
            simp [Workers.step]
          rw [List.replicate_succ, List.foldl_cons, hidle, ih]
      rw [hrest]
      rfl
    | ok r =>
      obtain ⟨deleted, files⟩ := r
      have hstep : Workers.step S s (.sweep w) =
          (s.setFiles files).setPhase w (.sweeping tenantId cutoff activeKeys objects) := by
        simp [Workers.step, hs, hsweep]
      rw [hstep]
      exact ih _ (Workers.setPhase_phase_self _ _ _)

theorem run_collect_alone (hidle : s.phase w = .idle) (tenantId : String) (cutoff : DateTime)
    {objects : List StoredObject}
    (hobjects : LocalObjectStore.iterObjects S.sha256 s.vault.files tenantId = .ok objects) :
    (s.run S (.collect w tenantId cutoff :: .list w ::
      List.replicate objects.length (.sweep w))).vault =
      (S.collectGarbage s.vault tenantId cutoff).2 := by
  have hcollect : Workers.step S (Workers.step S s (.collect w tenantId cutoff)) (.list w) =
      (s.setPhase w (.collecting tenantId cutoff (s.vault.db.activeStorageKeys tenantId))).setPhase
        w (.sweeping tenantId cutoff (s.vault.db.activeStorageKeys tenantId) objects) := by
    simp [Workers.step, hidle, hobjects]
  rw [Workers.run, List.foldl_cons, List.foldl_cons, hcollect]
  unfold EvidenceVault.collectGarbage
  rw [hobjects]
  exact run_sweep_alone objects _ (Workers.setPhase_phase_self _ _ _)

end Alone

end Vault
