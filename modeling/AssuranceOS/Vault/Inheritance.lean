/-
What a derivative inherits.

`create_derivative` reads its sources, takes their taint and legal hold from what it has
read, and commits in a later transaction that locks them; the argument `tainted` stands
in the place of their taint.  `derivative_inherits_iff` says, for every run, which
derivatives are committed with the flags of their sources.
-/
import AssuranceOS.Vault.Collection

namespace Vault

open Checked

/-- The derivative is tainted if a source is, and under legal hold if a source is, in the
state `db` in which it is committed. -/
def Inherits (db : Database) (request : DerivativeRequest) (item : EvidenceItem) : Prop :=
  ∀ r ∈ db.evidence, r.tenantId = request.tenantId →
    r.evidenceId ∈ request.sourceEvidenceIds →
      (r.tainted → item.tainted) ∧ (r.legalHold → item.legalHold)

/-- The argument does not deny a taint that was read, and no source is under hold now
unless one was when the sources were read. -/
structure KeepsFlags (db : Database) (request : DerivativeRequest)
    (sources : List EvidenceRecord) : Prop where
  taint : request.tainted = some false → ∀ x ∈ sources, ¬ x.tainted
  hold : (∀ x ∈ sources, ¬ x.legalHold) → ∀ r ∈ db.evidence, r.tenantId = request.tenantId →
    r.evidenceId ∈ request.sourceEvidenceIds → ¬ r.legalHold

/-- At a step that commits a new derivative, `P` holds of the state before it, of what the
call has read, and of the derivative in its state. -/
def AtDerivative (S : EvidenceVault)
    (P : Database → DerivativeRequest → List EvidenceRecord → EvidenceItem → Database → Prop)
    (s : Workers) : Event → Prop
  | .commit w now hex =>
    match s.phase w with
    | .stored (.derivative request sources) object =>
      match S.commit s.vault.db (.derivative request sources) object now hex with
      | .ok (item, db) =>
        (findAcquisition s.vault.db (.derivative request sources)).isNone →
          P s.vault.db request sources item db
      | .error _ => True
    | _ => True
  | _ => True

/-- The sources as they were read: the ones that are asked for, each a row, and the taint
that the row still has. -/
structure SourcesRead (db : Database) (request : DerivativeRequest)
    (sources : List EvidenceRecord) : Prop where
  ids : sources.map EvidenceRecord.evidenceId = request.sourceEvidenceIds.eraseDups
  rows : ∀ x ∈ sources, x.tenantId = request.tenantId ∧ ∃ r ∈ db.evidence, r.fixed = x.fixed

variable {db db' : Database}

theorem readSources_eq_ok {tenantId : String} {sourceIds : List String} :
    ∀ {sources : List EvidenceRecord}, readSources db tenantId sourceIds = .ok sources →
      sources.map EvidenceRecord.evidenceId = sourceIds ∧
        ∀ x ∈ sources, x.tenantId = tenantId ∧ x ∈ db.evidence := by
  induction sourceIds with
  | nil =>
    intro sources h
    cases h
    exact ⟨rfl, by simp⟩
  | cons sourceId sourceIds ih =>
    intro sources h
    rw [readSources, ofOption_bind_eq_ok] at h
    obtain ⟨source, hget, h⟩ := h
    rw [bind_eq_ok] at h
    obtain ⟨rest, hrest, h⟩ := h
    cases h
    obtain ⟨hmem, htenant, hid, -⟩ := get_eq_some hget
    obtain ⟨hids, hrows⟩ := ih hrest
    refine ⟨by rw [List.map_cons, hids, hid], fun x hx => ?_⟩
    rcases List.mem_cons.mp hx with rfl | hx
    · exact ⟨htenant, hmem⟩
    · exact hrows x hx

variable {request : DerivativeRequest} {job : Job} {r : EvidenceRecord}

theorem readDerivative_sourcesRead (h : readDerivative db request = .ok job) :
    ∃ sources, job = .derivative request sources ∧ SourcesRead db request sources := by
  unfold readDerivative at h
  rw [require_bind_eq_ok] at h
  obtain ⟨-, h⟩ := h
  rw [bind_eq_ok] at h
  obtain ⟨sources, hsources, h⟩ := h
  rw [require_bind_eq_ok] at h
  obtain ⟨-, h⟩ := h
  cases h
  obtain ⟨hids, hrows⟩ := readSources_eq_ok hsources
  exact ⟨sources, rfl, hids, fun x hx => ⟨(hrows x hx).1, x, (hrows x hx).2, rfl⟩⟩

/-- The records may go on, and new ones may come. -/
structure Advances (db db' : Database) : Prop where
  unique : (db.evidence.map EvidenceRecord.evidenceId).Nodup →
    (db'.evidence.map EvidenceRecord.evidenceId).Nodup
  rows : ∀ r ∈ db.evidence, ∃ r' ∈ db'.evidence, r'.fixed = r.fixed

theorem Advances.refl (db : Database) : Advances db db :=
  ⟨id, fun r hr => ⟨r, hr, rfl⟩⟩

theorem advances_append (hr : Insertable db r) (hdb : db'.evidence = db.evidence ++ [r]) :
    Advances db db' := by
  refine ⟨fun hn => ?_, fun x hx => ⟨x, ?_, rfl⟩⟩
  · rw [hdb]
    exact Table.nodup_append_of_not_mem hn hr.id
  · rw [hdb]
    exact List.mem_append_left _ hx

theorem advances_put {r' : EvidenceRecord} (hlater : Later r r') (hr : r ∈ db.evidence)
    (hn : (db.evidence.map EvidenceRecord.evidenceId).Nodup)
    (hdb : db'.evidence = (db.putEvidence r').evidence) : Advances db db' := by
  refine ⟨fun hn => ?_, fun x hx => ?_⟩
  · rw [hdb, Database.putEvidence, Table.map_put_key]
    exact hn
  · rw [hdb]
    by_cases hid : x.evidenceId = r'.evidenceId
    · have hxr : x = r := Table.eq_of_key_eq hn hx hr (hid.trans hlater.evidenceId)
      subst hxr
      exact ⟨r', Table.mem_put_self hr hlater.evidenceId, hlater.fixed⟩
    · exact ⟨x, Table.mem_put_of_ne hx hid, rfl⟩

theorem SourcesRead.advance {sources : List EvidenceRecord} (h : SourcesRead db request sources)
    (hadvance : Advances db db') :
    SourcesRead db' request sources := by
  refine ⟨h.ids, fun x hx => ?_⟩
  obtain ⟨htenant, r, hr, hfixed⟩ := h.rows x hx
  obtain ⟨r', hr', hfixed'⟩ := hadvance.rows r hr
  exact ⟨htenant, r', hr', hfixed'.trans hfixed⟩

def Phase.job? : Phase → Option Job
  | .read job | .missed job | .stored job _ => some job
  | _ => none

def JobRead (db : Database) : Job → Prop
  | .original _ => True
  | .derivative request sources => SourcesRead db request sources

theorem JobRead.advance (h : JobRead db job) (hadvance : Advances db db') :
    JobRead db' job := by
  cases job with
  | original request => trivial
  | derivative request sources => exact SourcesRead.advance h hadvance

structure Reads (s : Workers) : Prop where
  unique : (s.vault.db.evidence.map EvidenceRecord.evidenceId).Nodup
  jobs : ∀ w, ∀ job ∈ (s.phase w).job?, JobRead s.vault.db job

section Steps

variable {S : EvidenceVault} {s : Workers} {w : Nat}
variable {phase : Phase}

theorem Reads.setPhase (h : Reads s) (hphase : ∀ job ∈ phase.job?, JobRead s.vault.db job) :
    Reads (s.setPhase w phase) := by
  refine ⟨h.unique, fun v job hjob => ?_⟩
  rcases s.setPhase_phase_cases w v phase with ⟨heq, -⟩ | heq
  · exact hphase job (heq ▸ hjob)
  · exact h.jobs v job (heq ▸ hjob)

theorem Reads.pass (h : Reads s) (hphase : phase.job? = none) :
    Reads (s.setPhase w phase) :=
  h.setPhase (by simp [hphase])

theorem Reads.keep (h : Reads s) (hphase : phase.job? = (s.phase w).job?) :
    Reads (s.setPhase w phase) :=
  h.setPhase fun job hjob => h.jobs w job (hphase ▸ hjob)

theorem Reads.setDb (h : Reads s) (hadvance : Advances s.vault.db db) :
    Reads (s.setDb db) :=
  ⟨hadvance.unique h.unique, fun w job hjob => (h.jobs w job hjob).advance hadvance⟩

theorem Reads.setFiles (h : Reads s) (files : List StoredFile) : Reads (s.setFiles files) :=
  ⟨h.unique, h.jobs⟩

/-- **One step.** -/
theorem Reads.step (h : Reads s) (e : Event) : Reads (s.step S e) := by
  cases e with
  | begin w request =>
    unfold Workers.step
    dsimp only
    split
    · split
      · rename_i hread
        refine h.setPhase fun job hjob => ?_
        cases hjob
        cases request with
        | ingest request =>
          obtain ⟨engagementId, tainted, metadata, rfl⟩ := readIngest_eq_ok hread
          trivial
        | derive request =>
          obtain ⟨sources, rfl, hsources⟩ := readDerivative_sourcesRead hread
          exact hsources
      · exact h
    · exact h
  | lookup w =>
    unfold Workers.step
    dsimp only
    split
    · rename_i hphase
      split
      · exact h.keep (by rw [hphase]; rfl)
      · exact h.pass rfl
    · exact h
  | store w fileTime =>
    unfold Workers.step
    dsimp only
    split
    · rename_i hphase
      split
      · exact (h.setFiles _).keep (by rw [Workers.setFiles_phase, hphase]; rfl)
      · exact h.pass rfl
    · exact h
  | commit w now hex =>
    unfold Workers.step
    dsimp only
    split
    · split
      · rename_i hcommit
        rcases commit_cases hcommit with ⟨-, -, rfl⟩ | ⟨-, -, hinsert, -, hdb⟩
        · exact h.pass rfl
        · exact (h.setDb (advances_append hinsert hdb)).pass rfl
      · exact h.pass rfl
    · exact h
  | setRetention ambient tenantId evidenceId actorId retentionUntil legalHold reason =>
    unfold Workers.step
    dsimp only
    split
    · rename_i hset
      obtain ⟨r, hr, -, -, -, rfl, -, hdb⟩ := setRetention_writes hset
      exact h.setDb (advances_put (later_retention r retentionUntil legalHold) hr h.unique hdb)
    · exact h
  | purge ambient tenantId evidenceId actorId reason asOf =>
    unfold Workers.step
    dsimp only
    split
    · rename_i hpurge
      obtain ⟨r, hr, -, -, ⟨-, rfl⟩ | ⟨-, -, hlater, -, hdb⟩⟩ := purge_writes hpurge
      · exact h.setDb (.refl _)
      · exact h.setDb (advances_put hlater hr h.unique hdb)
    · exact h
  | collect w tenantId cutoff =>
    unfold Workers.step
    dsimp only
    split
    · exact h.pass rfl
    · exact h
  | list w =>
    unfold Workers.step
    dsimp only
    split
    · split
      · exact h.pass rfl
      · exact h.pass rfl
    · exact h
  | sweep w =>
    unfold Workers.step
    dsimp only
    split
    · split
      · exact (h.setFiles _).pass rfl
      · exact h.pass rfl
    · exact h.pass rfl
    · exact h
  | crash w => exact h.pass rfl

end Steps

section Commits

variable {S : EvidenceVault} {s : Workers}

theorem inherits_iff {request : DerivativeRequest} {sources : List EvidenceRecord}
    {item : EvidenceItem} (hn : (db.evidence.map EvidenceRecord.evidenceId).Nodup)
    (hread : SourcesRead db request sources)
    (htaint : item.tainted = request.tainted.getD (sources.any (·.tainted)))
    (hhold : item.legalHold = sources.any (·.legalHold))
    (hdb : db'.evidence = db.evidence ++ [item]) :
    Inherits db' request item ↔ KeepsFlags db request sources := by
  constructor
  · intro h
    refine ⟨fun hdenied x hx htainted => ?_, fun hfree r hr htenant hid hheld => ?_⟩
    · obtain ⟨hxtenant, r, hr, hfixed⟩ := hread.rows x hx
      have hrid : r.evidenceId = x.evidenceId :=
        (congrArg EvidenceRecord.evidenceId hfixed :)
      have hrtenant : r.tenantId = x.tenantId :=
        (congrArg EvidenceRecord.tenantId hfixed :)
      have hrtainted : r.tainted = x.tainted :=
        (congrArg EvidenceRecord.tainted hfixed :)
      have hasked : r.evidenceId ∈ request.sourceEvidenceIds := by
        rw [hrid, ← List.mem_eraseDups, ← hread.ids]
        exact List.mem_map_of_mem hx
      have hitem := (h r (hdb ▸ List.mem_append_left _ hr) (hrtenant.trans hxtenant) hasked).1
        (hrtainted.trans htainted)
      rw [htaint, hdenied] at hitem
      exact absurd hitem (by simp)
    · have hitem := (h r (hdb ▸ List.mem_append_left _ hr) htenant hid).2 hheld
      rw [hhold, List.any_eq_true] at hitem
      obtain ⟨x, hx, hxheld⟩ := hitem
      exact hfree x hx hxheld
  · intro h r hr htenant hid
    rw [hdb] at hr
    rcases List.mem_append.mp hr with hr | hr
    · constructor
      · intro htainted
        -- the row is the one that was read under its id
        rw [← List.mem_eraseDups, ← hread.ids] at hid
        obtain ⟨x, hx, hxid⟩ := List.mem_map.mp hid
        obtain ⟨-, y, hy, hfixed⟩ := hread.rows x hx
        have hyid : y.evidenceId = x.evidenceId :=
        (congrArg EvidenceRecord.evidenceId hfixed :)
        have hyr : y = r := Table.eq_of_key_eq hn hy hr (hyid.trans hxid)
        subst hyr
        have hxtainted : x.tainted := (congrArg EvidenceRecord.tainted hfixed :).symm.trans htainted
        rw [htaint]
        cases harg : request.tainted with
        | none => exact List.any_eq_true.mpr ⟨x, hx, hxtainted⟩
        | some flag =>
          cases flag with
          | false => exact absurd hxtainted (h.taint harg x hx)
          | true => rfl
      · intro hheld
        rw [hhold, List.any_eq_true]
        by_contra hnone
        have hfree : ∀ x ∈ sources, ¬ x.legalHold := fun x hx hxheld => hnone ⟨x, hx, hxheld⟩
        exact h.hold hfree r hr htenant hid hheld
    · rw [List.mem_singleton.mp hr]
      exact ⟨id, id⟩

theorem Workers.Fresh.reads (h : s.Fresh) : Reads s := by
  refine ⟨by rw [h.evidence]; exact List.nodup_nil, fun w job hjob => ?_⟩
  rw [h.idle] at hjob
  exact absurd hjob nofun

theorem Reads.inherits_iff (h : Reads s) (e : Event) :
    AtDerivative S (fun _ request _ item db => Inherits db request item) s e ↔
      AtDerivative S (fun db request sources _ _ => KeepsFlags db request sources) s e := by
  unfold AtDerivative
  split
  · rename_i w now hex
    split
    · rename_i request sources object hphase
      split
      · rename_i item db hcommit
        refine imp_congr_right fun hnew => ?_
        rcases commit_cases hcommit with ⟨hfound, -, -⟩ | ⟨-, hitem, -, -, hdb⟩
        · rw [hfound] at hnew
          exact absurd hnew (by simp)
        · have hread := h.jobs w (.derivative request sources) (by rw [hphase]; rfl)
          exact Vault.inherits_iff h.unique hread (by rw [hitem]; rfl) (by rw [hitem]; rfl) hdb
      · exact Iff.rfl
    · exact Iff.rfl
  · exact Iff.rfl

/-- **What a derivative inherits.**  In every run, the derivatives that are committed have
the flags of their sources exactly when no argument denies a taint that was read and no
source has come under legal hold since, unless one was before. -/
theorem derivative_inherits_iff (hs : s.Fresh) (events : List Event) :
    Runs.EachStep (Workers.step S)
        (AtDerivative S fun _ request _ item db => Inherits db request item) s events ↔
      Runs.EachStep (Workers.step S)
        (AtDerivative S fun db request sources _ _ => KeepsFlags db request sources) s events := by
  rw [Runs.eachStep_iff, Runs.eachStep_iff]
  have hreads : ∀ before : List Event, Reads (s.run S before) := fun before =>
    Runs.run_invariant_always (fun s e h => h.step e) hs.reads before
  constructor
  · intro h before e after heq
    exact ((hreads before).inherits_iff e).mp (h before e after heq)
  · intro h before e after heq
    exact ((hreads before).inherits_iff e).mpr (h before e after heq)

end Commits

instance (db : Database) (request : DerivativeRequest) (item : EvidenceItem) :
    Decidable (Inherits db request item) :=
  inferInstanceAs (Decidable (∀ r ∈ db.evidence, _))

instance {P : Database → DerivativeRequest → List EvidenceRecord → EvidenceItem → Database → Prop}
    [∀ db request sources item db', Decidable (P db request sources item db')]
    (S : EvidenceVault) (s : Workers) (e : Event) : Decidable (AtDerivative S P s e) := by
  unfold AtDerivative
  repeat' split
  all_goals infer_instance

def sampleSource : List Event :=
  [.begin 0 (.ingest { sampleRequest with tainted := true }), .lookup 0,
    .store 0 (sampleTime 1), .commit 0 (sampleTime 1) (sampleHex 1)]

def sampleDerivation (tainted : Option Bool) : List Event :=
  [.begin 0 (.derive
      { tenantId := "t", sourceEvidenceIds := ["evd_1.0"], payload := [72, 105]
        operation := "o", toolVersion := "v", actorId := "a", tainted := tainted }),
    .lookup 0, .store 0 (sampleTime 2)]

def sampleCommit : Event := .commit 0 (sampleTime 2) (sampleHex 2)

def sampleTainted : Workers :=
  let request := { sampleRequest with tainted := true }
  Workers.step headVault
    (((sampleWorkers.setPhase 0 (.missed (.original request))).setFiles
        [sampleFile headVault request.payload 1]).setPhase 0
        (.stored (.original request)
          { sampleObject headVault request.payload 1 with created := true }))
    (.commit 0 (sampleTime 1) (sampleHex 1))

theorem run_sampleSource : sampleWorkers.run headVault sampleSource = sampleTainted := by
  rw [show sampleSource = sampleStores _ 1 ++ [.commit 0 (sampleTime 1) (sampleHex 1)] from rfl,
    Workers.run_append, run_stores_new rfl rfl rfl rfl headVault_isDigest rfl]
  rfl

/-- The derivation with `tainted=False`. -/
def sampleDenial : DerivativeRequest where
  tenantId := "t"
  sourceEvidenceIds := ["evd_1.0"]
  payload := [72, 105]
  operation := "o"
  toolVersion := "v"
  actorId := "a"
  tainted := some false

theorem sampleDerivation_not_inherits :
    ¬ AtDerivative headVault (fun _ request _ item db => Inherits db request item)
      (sampleTainted.run headVault (sampleDerivation (some false))) sampleCommit := by
  have hread : Request.read headVault sampleTainted.vault.db (.derive sampleDenial) =
      .ok (.derivative sampleDenial
        ((readSources sampleTainted.vault.db "t" ["evd_1.0"]).toOption.getD [])) := rfl
  have hfree : fileAt sampleTainted.vault.files ("t", headVault.sha256 [72, 105]) = none := by
    decide +kernel
  have hstored : sampleTainted.run headVault (sampleStores (.derive sampleDenial) 2) = _ :=
    run_stores_new rfl hread rfl rfl headVault_isDigest hfree
  rw [show sampleDerivation (some false) = sampleStores (.derive sampleDenial) 2 from rfl, hstored]
  decide +kernel

/-- The argument `tainted=False` stands in the place of the taint of the source. -/
theorem derivative_loses_taint : ¬ ∀ (S : EvidenceVault) (s : Workers) (events : List Event),
    s.Fresh → Runs.EachStep (Workers.step S)
      (AtDerivative S fun _ request _ item db => Inherits db request item) s events := by
  intro h
  have hsteps := h headVault sampleWorkers
    (sampleSource ++ sampleDerivation (some false) ++ [sampleCommit]) sampleWorkers_fresh
  refine absurd hsteps (Runs.not_eachStep_of_last ?_)
  rw [← Workers.run, Workers.run_append, run_sampleSource]
  exact sampleDerivation_not_inherits

/-- Without the argument it is inherited. -/
theorem derivative_inherits_sample :
    Runs.EachStep (Workers.step sampleVault)
        (AtDerivative sampleVault fun _ request _ item db => Inherits db request item)
        sampleWorkers (sampleSource ++ sampleDerivation none ++ [sampleCommit]) ↔
      Runs.EachStep (Workers.step sampleVault)
        (AtDerivative sampleVault fun db request sources _ _ => KeepsFlags db request sources)
        sampleWorkers (sampleSource ++ sampleDerivation none ++ [sampleCommit]) :=
  derivative_inherits_iff sampleWorkers_fresh _

end Vault
