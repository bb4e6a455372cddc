/-
What no caller takes back.

However the steps of acquisitions, retention changes, purges and collections interleave, no record
is lost: it keeps its content and its origin, and a purged one stays purged.  Lineage and custody
are only appended to (`run_evidence_kept`).  A record is purged by a purge alone, and only when it
is not held and its retention is over at the date that the purge is given
(`run_purges_released`).
-/
import AssuranceOS.Lib.History
import AssuranceOS.Vault.Collection

namespace Vault

open History Checked

def Database.Unique (db : Database) : Prop :=
  (db.evidence.map EvidenceRecord.evidenceId).Nodup

/-- The event purges the record, which is not held, and whose retention is over at the date that the
caller gives: `as_of`, which nothing compares with the clock, or today without one. -/
def Released (e : Event) (r : EvidenceRecord) : Prop :=
  ∃ ambient actorId reason asOf,
    e = .purge ambient r.tenantId r.evidenceId actorId reason asOf ∧ r.legalHold = false ∧
      ∃ retentionUntil, r.retentionUntil = some retentionUntil ∧
        (asOf.getD (ambient.clock 0).date).lt retentionUntil = false

/-- `r'` is what the event makes of the record `r`. -/
structure Evolves (e : Event) (r r' : EvidenceRecord) : Prop where
  later : Later r r'
  released : r.Active → ¬ r'.Active → Released e r

/-- The records go on as `R` says, and the logs are only appended to. -/
structure Retained (R : EvidenceRecord → EvidenceRecord → Prop) (db db' : Database) : Prop where
  evidence : Continues R db.evidence db'.evidence
  transformations : db.transformations <+: db'.transformations
  custody : db.custody <+: db'.custody

theorem Later.trans {r r' r'' : EvidenceRecord} (h : Later r r') (h' : Later r' r'') :
    Later r r'' :=
  ⟨h'.fixed.trans h.fixed, fun ha => h.active (h'.active ha)⟩

theorem Evolves.refl (e : Event) (r : EvidenceRecord) : Evolves e r r :=
  ⟨.refl r, fun ha hn => absurd ha hn⟩

variable {R : EvidenceRecord → EvidenceRecord → Prop} {db db' : Database}

theorem Retained.refl (hrefl : ∀ r, R r r) (db : Database) : Retained R db db :=
  ⟨.refl hrefl _, List.prefix_refl _, List.prefix_refl _⟩

theorem Retained.trans {db'' : Database} (htrans : ∀ {a b c}, R a b → R b c → R a c)
    (h : Retained R db db') (h' : Retained R db' db'') :
    Retained R db db'' :=
  ⟨h.evidence.trans htrans h'.evidence, h.transformations.trans h'.transformations,
    h.custody.trans h'.custody⟩

theorem Retained.later {e : Event} (h : Retained (Evolves e) db db') :
    Retained Later db db' := by
  refine ⟨fun r hr => ?_, h.transformations, h.custody⟩
  obtain ⟨r', hr', hnext⟩ := h.evidence r hr
  exact ⟨r', hr', hnext.later⟩

section Steps

variable {S : EvidenceVault} {sha256 : Bytes → String} {db db' : Database} {e : Event}

theorem Writes.logs (h : Writes sha256 db db') :
    db.transformations <+: db'.transformations ∧ db.custody <+: db'.custody := by
  induction h with
  | refl => exact ⟨List.prefix_refl _, List.prefix_refl _⟩
  | tail _ hlast ih =>
    cases hlast with
    | edge t id => exact ⟨ih.1.trans (List.prefix_append _ _), ih.2⟩
    | custody hex tenantId evidenceId entry owned appendable =>
      exact ⟨ih.1, ih.2.trans (List.prefix_append _ _)⟩
    | record | rewrite | events => exact ih

theorem purge_checked {ambient : Ambient} {tenantId evidenceId actorId reason : String}
    {asOf : Option Adjudication.Date} {item : EvidenceItem}
    (h : S.purge db ambient tenantId evidenceId actorId reason asOf = .ok (item, db')) :
    ∃ r ∈ db.evidence, r.tenantId = tenantId ∧ r.evidenceId = evidenceId ∧
      (r.Active → Released (.purge ambient tenantId evidenceId actorId reason asOf) r) := by
  unfold EvidenceVault.purge at h
  simp only [ofOption_bind_eq_ok] at h
  obtain ⟨r, hget, h⟩ := h
  obtain ⟨hmem, rfl, rfl, -⟩ := get_eq_some hget
  refine ⟨r, hmem, rfl, rfl, fun hactive => ?_⟩
  rw [if_neg (not_not.mpr hactive), bind_eq_ok] at h
  obtain ⟨u, hcheck, -⟩ := h
  unfold EvidenceVault.checkRetention at hcheck
  obtain ⟨hhold, hcheck⟩ := require_bind_eq_ok.mp hcheck
  obtain ⟨retentionUntil, huntil, hcheck⟩ := ofOption_bind_eq_ok.mp hcheck
  exact ⟨ambient, actorId, reason, asOf, rfl, hhold, retentionUntil, huntil,
    by simpa using (require_eq_ok.mp hcheck)⟩

variable {r : EvidenceRecord}

theorem kept_append (hwrites : Writes sha256 db db') (hdb : db'.evidence = db.evidence ++ [r]) :
    Retained (Evolves e) db db' := by
  refine ⟨?_, hwrites.logs.1, hwrites.logs.2⟩
  rw [hdb]
  exact continues_append (.refl e) _ _

variable {r' : EvidenceRecord}

theorem kept_put (hn : db.Unique) (hr : r ∈ db.evidence) (hnext : Evolves e r r')
    (hwrites : Writes sha256 db db') (hdb : db'.evidence = (db.putEvidence r').evidence) :
    Retained (Evolves e) db db' := by
  refine ⟨?_, hwrites.logs.1, hwrites.logs.2⟩
  rw [hdb]
  exact continues_put (.refl e) hn hr hnext.later.evidenceId hnext

theorem unique_append (hn : db.Unique) (hr : Insertable db r)
    (hdb : db'.evidence = db.evidence ++ [r]) : db'.Unique := by
  unfold Database.Unique
  rw [hdb]
  exact Table.nodup_append_of_not_mem hn hr.id

theorem unique_put (hn : db.Unique) (hdb : db'.evidence = (db.putEvidence r').evidence) :
    db'.Unique := by
  unfold Database.Unique
  rw [hdb, Database.putEvidence, Table.map_put_key]
  exact hn

/-- **One step** of a caller. -/
theorem step_kept {s : Workers} (hn : s.vault.db.Unique) (e : Event) :
    (s.step S e).vault.db.Unique ∧ Retained (Evolves e) s.vault.db (s.step S e).vault.db := by
  have hsame : s.vault.db.Unique ∧ Retained (Evolves e) s.vault.db s.vault.db :=
    ⟨hn, .refl (.refl e) _⟩
  cases e with
  | commit w now hex =>
    unfold Workers.step
    dsimp only
    split
    · split
      · rename_i hcommit
        rcases commit_cases hcommit with ⟨-, -, rfl⟩ | ⟨-, -, hinsert, hwrites, hdb⟩
        · exact hsame
        · exact ⟨unique_append hn hinsert hdb, kept_append hwrites hdb⟩
      · exact hsame
    · exact hsame
  | setRetention ambient tenantId evidenceId actorId retentionUntil legalHold reason =>
    unfold Workers.step
    dsimp only
    split
    · rename_i hset
      obtain ⟨r, hr, -, -, hactive, rfl, hwrites, hdb⟩ := setRetention_writes hset
      have hnext := later_retention r retentionUntil legalHold
      exact ⟨unique_put hn hdb,
        kept_put hn hr ⟨hnext, fun _ hpurged => absurd hactive hpurged⟩ hwrites hdb⟩
    · exact hsame
  | purge ambient tenantId evidenceId actorId reason asOf =>
    unfold Workers.step
    dsimp only
    split
    · rename_i hpurge
      obtain ⟨x, hx, -, hxid, hreleased⟩ := purge_checked hpurge
      obtain ⟨r, hr, -, hid, ⟨-, rfl⟩ | ⟨-, -, hlater, hwrites, hdb⟩⟩ := purge_writes hpurge
      · exact hsame
      · have hxr : x = r := Table.eq_of_key_eq hn hx hr (hxid.trans hid.symm)
        subst hxr
        exact ⟨unique_put hn hdb, kept_put hn hr ⟨hlater, fun ha _ => hreleased ha⟩ hwrites hdb⟩
    · exact hsame
  | begin | lookup | store | collect | list | sweep | crash =>
    -- the step changes the objects or the progress of its caller
    unfold Workers.step
    dsimp only
    repeat' split
    all_goals exact hsame

end Steps

/-- If the step makes an active record inactive, it purges it, and the record is then released. -/
def PurgesReleased (S : EvidenceVault) (s : Workers) (e : Event) : Prop :=
  ∀ r ∈ s.vault.db.evidence, r.Active → ∀ r' ∈ (s.step S e).vault.db.evidence,
    r'.evidenceId = r.evidenceId → ¬ r'.Active → Released e r

section Runs

variable {S : EvidenceVault} {s : Workers}

theorem Workers.Fresh.unique (hs : s.Fresh) : s.vault.db.Unique := by
  unfold Database.Unique
  rw [hs.evidence]
  exact List.nodup_nil

/-- **No record is lost**, and neither are lineage and custody. -/
theorem run_evidence_kept (hs : s.Fresh) (earlier later : List Event) :
    Retained Later (s.run S earlier).vault.db (s.run S (earlier ++ later)).vault.db := by
  have hn : (s.run S earlier).vault.db.Unique :=
    Runs.run_invariant_always (I := fun s : Workers => s.vault.db.Unique)
      (fun _ e hn => (step_kept hn e).1) hs.unique earlier
  rw [Workers.run_append]
  exact @run_continues _ _ (Workers.step S) (fun s => s.vault.db.Unique)
    (fun s s' => Retained Later s.vault.db s'.vault.db) (fun _ => .refl .refl _) (Retained.trans .trans)
    (fun _ e hn => (step_kept hn e).1) (fun _ e hn => (step_kept hn e).2.later) _ hn later

/-- **Only what is released is purged**, in every run. -/
theorem run_purges_released (hs : s.Fresh) (events : List Event) :
    Runs.EachStep (Workers.step S) (PurgesReleased S) s events := by
  refine Runs.EachStep.of_invariant (I := fun s : Workers => s.vault.db.Unique)
    (fun _ e _ hn => (step_kept hn e).1) ?_ hs.unique
    (.of_forall fun _ _ _ => trivial)
  intro s e _ hn r hr hactive r' hr' hid hpurged
  obtain ⟨hunique, hkept⟩ := @step_kept S s hn e
  obtain ⟨x, hx, hnext⟩ := hkept.evidence r hr
  have hxr : x = r' := Table.eq_of_key_eq hunique hx hr' (hnext.later.evidenceId.trans hid.symm)
  exact hnext.released hactive (hxr ▸ hpurged)

end Runs

/-- **Calls alone.**  A call that nobody interleaves with is `ingest_bytes`, `create_derivative` or
`collect_garbage`. -/
theorem run_calls_alone (S : EvidenceVault) (s : Workers) {w : Nat} (hidle : s.phase w = .idle) :
    (∀ ambient request, (s.run S [.begin w (.ingest request), .lookup w,
        .store w ambient.fileTime, .commit w (ambient.clock 0) ambient.hex]).vault =
      (S.ingestBytes s.vault ambient request).2) ∧
    (∀ ambient request, (s.run S [.begin w (.derive request), .lookup w,
        .store w ambient.fileTime, .commit w (ambient.clock 0) ambient.hex]).vault =
      (S.createDerivative s.vault ambient request).2) ∧
    ∀ tenantId cutoff objects,
      LocalObjectStore.iterObjects S.sha256 s.vault.files tenantId = .ok objects →
      (s.run S (.collect w tenantId cutoff :: .list w ::
          List.replicate objects.length (.sweep w))).vault =
        (S.collectGarbage s.vault tenantId cutoff).2 :=
  ⟨run_ingest_alone hidle, run_derive_alone hidle,
    fun tenantId cutoff _ => run_collect_alone hidle tenantId cutoff⟩

theorem run_calls_alone_ingested :
    (sampleWorkers.run sampleVault [.begin 0 (.ingest sampleRequest), .lookup 0,
        .store 0 (sampleTime 1), .commit 0 (sampleTime 1) (sampleHex 1)]).vault =
      (sampleVault.ingestBytes sampleWorkers.vault ⟨fun _ => sampleTime 1, sampleTime 1,
        sampleHex 1⟩ sampleRequest).2 :=
  (run_calls_alone sampleVault sampleWorkers rfl).1 ⟨fun _ => sampleTime 1, sampleTime 1,
    sampleHex 1⟩ sampleRequest

theorem run_evidence_kept_purged :
    Retained Later (sampleWorkers.run sampleVault (samplePurged.take 4)).vault.db
      (sampleWorkers.run sampleVault (samplePurged.take 4 ++ samplePurged.drop 4)).vault.db :=
  run_evidence_kept sampleWorkers_fresh _ _

theorem run_purges_released_purged :
    Runs.EachStep (Workers.step sampleVault) (PurgesReleased sampleVault) sampleWorkers
      samplePurged :=
  run_purges_released sampleWorkers_fresh samplePurged

end Vault
