/-
Checkpoints and the objects before them.

A run saves the cursor of a page after it has linked every object that the page has
(`save_collected`).  A bounded connector, as the sandbox uses it, cuts a page at its ceiling and keeps
the cursor of the page (`within_pages`), so that the cursor can lie behind objects that were never
collected (`saved_linked_iff`).
-/
import AssuranceOS.Connectors.Effects
import AssuranceOS.Vault.Collection

namespace Connectors

open Checked Vault
open Program (perform forEachUntil)

/-! ### The bounded connector -/

structure Limits where
  maxPages : ℤ
  maxObjects : ℤ

def cutPage (remaining : ℤ) (page : ConnectorPage) : ConnectorPage :=
  if remaining < page.objects.length then
    { page with objects := page.objects.take remaining.toNat }
  else page

/-- `_BoundedConnector.collect_pages`, from the page number `index` on, with `seen` objects
before it. -/
def boundedPages (limits : Limits) (raised : Option ConnectorError) :
    ℕ → ℤ → List ConnectorPage → Collection
  | _, _, [] => { pages := [], raised := raised }
  | index, seen, page :: pages =>
    let remaining := limits.maxObjects - seen
    if remaining ≤ 0 then { pages := [] }
    else
      let page := cutPage remaining page
      let seen := seen + page.objects.length
      if limits.maxPages ≤ index ∨ limits.maxObjects ≤ seen then { pages := [page] }
      else
        let rest := boundedPages limits raised (index + 1) seen pages
        { rest with pages := page :: rest.pages }

/-- `_BoundedConnector`. -/
def Connector.bounded (inner : Connector) (limits : Limits) : Connector :=
  { inner with
    collectPages := fun request checkpoint =>
      let collection := inner.collectPages request checkpoint
      boundedPages limits collection.raised 1 0 collection.pages }

/-- The connector, behind `BoundedConnector` where there are limits. -/
def Connector.within (inner : Connector) : Option Limits → Connector
  | none => inner
  | some limits => inner.bounded limits

/-- The objects of all pages, in their order. -/
def objectsOf (pages : List ConnectorPage) : List SourceObject := pages.flatMap (·.objects)

@[simp] theorem objectsOf_cons (page : ConnectorPage) (pages : List ConnectorPage) :
    objectsOf (page :: pages) = page.objects ++ objectsOf pages := rfl

@[simp] theorem objectsOf_append (pages pages' : List ConnectorPage) :
    objectsOf (pages ++ pages') = objectsOf pages ++ objectsOf pages' := List.flatMap_append

/-- The objects of a page that `BoundedConnector` passes on. -/
def keptOf (limits : Option Limits) (objects : List SourceObject) : List SourceObject :=
  match limits with
  | none => objects
  | some limits => objects.take limits.maxObjects.toNat

section Bounded

variable {limits : Limits} {raised : Option ConnectorError} {remaining seen : ℤ} {index : ℕ}
  {page : ConnectorPage} {pages : List ConnectorPage}

theorem cutPage_objects (h : 0 < remaining) :
    (cutPage remaining page).objects = page.objects.take remaining.toNat := by
  unfold cutPage
  split
  · rfl
  · rw [List.take_of_length_le (by omega)]

@[simp] theorem cutPage_nextCursor : (cutPage remaining page).nextCursor = page.nextCursor := by
  unfold cutPage
  split
  · rfl
  · rfl

/-- The bounded connector stops before a page, with it, or goes on after a page that it has
left whole. -/
theorem boundedPages_cons (limits : Limits) (raised : Option ConnectorError) (index : ℕ)
    (seen : ℤ) (page : ConnectorPage) (pages : List ConnectorPage) :
    (boundedPages limits raised index seen (page :: pages)).pages = [] ∨
      (0 < limits.maxObjects - seen ∧
        (boundedPages limits raised index seen (page :: pages)).pages =
          [cutPage (limits.maxObjects - seen) page]) ∨
      (seen + page.objects.length < limits.maxObjects ∧
        (boundedPages limits raised index seen (page :: pages)).pages =
          page :: (boundedPages limits raised (index + 1) (seen + page.objects.length)
            pages).pages) := by
  rw [boundedPages]
  by_cases hremaining : limits.maxObjects - seen ≤ 0
  · exact .inl (by simp only [if_pos hremaining])
  · simp only [if_neg hremaining]
    by_cases hstop : limits.maxPages ≤ index ∨
        limits.maxObjects ≤ seen + (cutPage (limits.maxObjects - seen) page).objects.length
    · exact .inr (.inl ⟨by omega, by simp only [if_pos hstop]⟩)
    · -- a page that was cut is the last one
      have hwhole : cutPage (limits.maxObjects - seen) page = page := by
        refine if_neg fun hcut => hstop (.inr ?_)
        rw [cutPage_objects (by omega), List.length_take]
        omega
      rw [hwhole] at hstop ⊢
      exact .inr (.inr ⟨by omega, by simp only [if_neg hstop]⟩)

variable {k : ℕ}

theorem boundedPages_objects (hk : k ≤ (boundedPages limits raised index seen pages).pages.length) :
    objectsOf ((boundedPages limits raised index seen pages).pages.take k) =
      (objectsOf (pages.take k)).take (limits.maxObjects - seen).toNat := by
  induction pages generalizing index seen k with
  | nil => simp [boundedPages, objectsOf]
  | cons page pages ih =>
    cases k with
    | zero => simp [objectsOf]
    | succ k =>
      rcases boundedPages_cons limits raised index seen page pages with
        hnone | ⟨hpos, hlast⟩ | ⟨hroom, hmore⟩
      · rw [hnone] at hk
        exact absurd hk (by simp)
      · rw [hlast] at hk ⊢
        obtain rfl : k = 0 := by simpa using hk
        simp [objectsOf, cutPage_objects hpos]
      · rw [hmore] at hk ⊢
        have hrest := ih (Nat.le_of_succ_le_succ hk)
        rw [List.take_succ_cons, List.take_succ_cons, objectsOf_cons, objectsOf_cons, hrest,
          List.take_append, List.take_of_length_le (l := page.objects) (by omega)]
        congr 2
        omega

theorem boundedPages_nextCursor {page' : ConnectorPage}
    (h : (boundedPages limits raised index seen pages).pages[k]? = some page') :
    pages[k]?.map (·.nextCursor) = some page'.nextCursor := by
  induction pages generalizing index seen k with
  | nil => simp [boundedPages] at h
  | cons page pages ih =>
    rcases boundedPages_cons limits raised index seen page pages with
      hnone | ⟨-, hlast⟩ | ⟨-, hmore⟩
    · rw [hnone] at h
      simp at h
    · rw [hlast] at h
      cases k with
      | zero =>
        cases h
        simp
      | succ k => simp at h
    · rw [hmore] at h
      cases k with
      | zero =>
        cases h
        rfl
      | succ k => exact ih h

end Bounded

def Links (env : Environment) (call : RunCall) (runId : String) (row : CollectedSourceObject)
    (item : SourceObject) : Prop :=
  row.runId = runId ∧ row.version = call.version item ∧
    row.contentSha256 = env.contentSha256 item

/-- A row of the run links the object to evidence that the vault holds. -/
def Linked (env : Environment) (call : RunCall) (runId : String) (w : World)
    (item : SourceObject) : Prop :=
  ∃ row ∈ w.db.collected, Links env call runId row item ∧
    Holds w.vault.db row.tenantId row.evidenceId row.contentSha256

/-- The run has linked these objects and no others. -/
structure Collected (env : Environment) (call : RunCall) (runId : String)
    (items : List SourceObject) (w : World) : Prop where
  backed : Backed w
  linked : ∀ item ∈ items, ∃ row ∈ w.db.collected, Links env call runId row item
  only : ∀ row ∈ w.db.collected, row.runId = runId →
    ∃ item ∈ items, Links env call runId row item

section Runs

variable {env : Environment} {call : RunCall} {runId : String} {page : ConnectorPage}
  {item : SourceObject} {items : List SourceObject} {progress progress' : Progress} {w w' : World}

theorem Progress.count_pages (progress : Progress) (prior : Option CollectedSourceObject) :
    (progress.count prior).pages = progress.pages := by
  unfold Progress.count
  split
  · rfl
  · rfl

theorem collectObject_eq_none
    (h : (collectObject env call runId page progress item).run env.exec w =
      (.ok (progress', none), w')) :
    progress'.pages = progress.pages ∧ ∃ tick evidenceId, w'.db.collected =
      w.db.collected ++ [env.collectedRow tick (collectedLink env call runId page item evidenceId)]
      := by
  rw [collectObject, Program.run_attempt_bind] at h
  rcases hprior : (findPrior env call item).run env.exec w with ⟨e | prior, w₁⟩
  · rw [hprior] at h
    cases h
  · rw [hprior] at h
    obtain ⟨hdb₁, -, -, -⟩ := findPrior_eq_ok hprior
    simp only [Program.run_attempt_bind] at h
    rcases hevidence : (evidenceOf env call page item prior).run env.exec w₁ with
      ⟨e | evidenceId, w₂⟩
    · rw [hevidence] at h
      cases h
    · rw [hevidence] at h
      have hdb₂ := evidenceOf_db hevidence
      simp only [Program.run_attempt_bind] at h
      rcases hadd : env.exec (.addCollected (collectedLink env call runId page item evidenceId)) w₂
        with ⟨e | answer, w₃⟩
      · rw [Program.run_perform, hadd] at h
        cases h
      · rw [Program.run_perform, hadd] at h
        cases h
        refine ⟨Progress.count_pages _ _, w₂.ticks, evidenceId, ?_⟩
        rw [addCollected_db hadd, hdb₂, hdb₁]

theorem collectObject_collected (hw : Collected env call runId items w)
    (h : (collectObject env call runId page progress item).run env.exec w =
      (.ok (progress', none), w')) :
    Collected env call runId (items ++ [item]) w' := by
  obtain ⟨-, tick, evidenceId, hrows⟩ := collectObject_eq_none h
  have hnew : Links env call runId (env.collectedRow tick
      (collectedLink env call runId page item evidenceId)) item := ⟨rfl, rfl, rfl⟩
  refine ⟨(collectObject_backed hw.backed).final h, fun x hx => ?_, fun row hrow hrun => ?_⟩
  · rw [hrows]
    rcases List.mem_append.mp hx with hx | hx
    · obtain ⟨row, hrow, hlinks⟩ := hw.linked x hx
      exact ⟨row, List.mem_append_left _ hrow, hlinks⟩
    · rw [List.mem_singleton.mp hx]
      exact ⟨_, List.mem_append_right _ (List.mem_singleton.mpr rfl), hnew⟩
  · rw [hrows] at hrow
    rcases List.mem_append.mp hrow with hrow | hrow
    · obtain ⟨x, hx, hlinks⟩ := hw.only row hrow hrun
      exact ⟨x, List.mem_append_left _ hx, hlinks⟩
    · rw [List.mem_singleton.mp hrow]
      exact ⟨item, List.mem_append_right _ (List.mem_singleton.mpr rfl), hnew⟩

theorem collectObjects_collected {objects : List SourceObject}
    (hw : Collected env call runId items w)
    (h : (forEachUntil (collectObject env call runId page) objects progress).run env.exec w =
      (.ok (progress', none), w')) :
    Collected env call runId (items ++ objects) w' ∧ progress'.pages = progress.pages := by
  have hloop := Program.run_forEachUntil
    (I := fun done p w => Collected env call runId (items ++ done) w ∧ p.pages = progress.pages)
    ?_ (show Collected env call runId (items ++ []) w ∧ progress.pages = progress.pages from
      ⟨by rwa [List.append_nil], rfl⟩) h
  · rwa [List.nil_append] at hloop
  · rintro done x p w p' w' ⟨hw, hpages⟩ hrun
    refine ⟨?_, (collectObject_eq_none hrun).1.trans hpages⟩
    rw [← List.append_assoc]
    exact collectObject_collected hw hrun

theorem Collected.of_same (hw : Collected env call runId items w) (hbacked : Backed w')
    (hsame : w'.db.collected = w.db.collected) : Collected env call runId items w' :=
  ⟨hbacked, hsame ▸ hw.linked, hsame ▸ hw.only⟩

theorem keeps_collected {α : Type} {p : Method α} (hp : p.Calls NotLink)
    (hw : Collected env call runId items w) :
    p.Keeps env.exec (Collected env call runId items) w := by
  have hop : ∀ (op : Op) (w : World), NotLink op → Collected env call runId items w →
      Collected env call runId items (env.exec op w).2 := by
    intro op w hop hw
    have hbacked : Backed (env.exec op w).2 := by
      refine exec_backed hw.backed ?_
      rintro link rfl
      exact hop.elim
    exact hw.of_same hbacked (exec_collected hop)
  exact hp.keeps hop hw

theorem collectPage_collected (hw : Collected env call runId items w)
    (h : (collectPage env call runId progress page).run env.exec w =
      (.ok (progress', none), w')) :
    Collected env call runId (items ++ page.objects) w' ∧
      progress'.pages = progress.pages + 1 := by
  have hbacked : Backed w' := (collectPage_backed hw.backed).final h
  obtain ⟨⟨progress₁, e⟩, w₁, hobjects, hrest⟩ := Program.run_bind_eq_ok.mp h
  cases e with
  | some e => cases hrest
  | none =>
    obtain ⟨hcollected, hpages⟩ := collectObjects_collected hw hobjects
    rcases hcursor : page.nextCursor with _ | cursor
    · simp only [hcursor] at hrest
      cases hrest
      exact ⟨hcollected, hpages⟩
    · simp only [hcursor, Program.run_attempt_bind, Program.run_perform] at hrest
      have hsame := @exec_collected env w₁
        (.saveCheckpoint progress₁.pages call.streamKey cursor) trivial
      rcases hsave : env.exec (.saveCheckpoint progress₁.pages call.streamKey cursor) w₁ with
        ⟨e | answer, w₂⟩
      · rw [hsave] at hrest
        cases hrest
      · rw [hsave] at hrest hsame
        cases hrest
        exact ⟨hcollected.of_same hbacked hsame, hpages⟩

theorem collectPages_collected {pages : List ConnectorPage}
    (hw : Collected env call runId [] w) (hprogress : progress.pages = 0)
    (h : (forEachUntil (collectPage env call runId) pages progress).run env.exec w =
      (.ok (progress', none), w')) :
    Collected env call runId (objectsOf pages) w' ∧ progress'.pages = pages.length := by
  have hloop := Program.run_forEachUntil
    (I := fun done p w => Collected env call runId (objectsOf done) w ∧ p.pages = done.length)
    ?_ (show Collected env call runId (objectsOf []) w ∧ progress.pages = ([] : List _).length
      from ⟨hw, hprogress⟩) h
  · rwa [List.nil_append] at hloop
  · rintro done page p w p' w' ⟨hw, hpages⟩ hrun
    obtain ⟨hw', hpages'⟩ := collectPage_collected hw hrun
    refine ⟨?_, ?_⟩
    · rw [objectsOf_append]
      simpa [objectsOf] using hw'
    · rw [hpages', hpages, List.length_append, List.length_singleton]

/-! ### The calls that save -/

def NotSave : Op → Prop
  | .saveCheckpoint .. => False
  | _ => True

theorem collectObject_calls : (collectObject env call runId page progress item).Calls NotSave := by
  have hprior : (findPrior env call item).Calls NotSave := by
    refine Program.Calls.bind (Program.calls_perform.mpr trivial) fun anyPrior => ?_
    split
    · exact trivial
    · exact Program.calls_perform.mpr trivial
  refine hprior.attempt.bind fun r => ?_
  cases r with
  | error e => exact trivial
  | ok prior =>
    have hevidence : (evidenceOf env call page item prior).Calls NotSave := by
      cases prior with
      | none => exact Program.Calls.bind (Program.calls_perform.mpr trivial) fun _ => trivial
      | some prior => exact trivial
    refine hevidence.attempt.bind fun r => ?_
    cases r with
    | error e => exact trivial
    | ok evidenceId =>
      refine (Program.Calls.attempt (Program.calls_perform.mpr trivial)).bind fun r => ?_
      cases r with
      | error e => exact trivial
      | ok _ => exact trivial

theorem checkHealth_notSave : (checkHealth call).Calls NotSave := by
  unfold checkHealth
  split
  · exact trivial
  · refine Program.Calls.bind (Program.calls_perform.mpr trivial) fun _ => ?_
    split
    · exact trivial
    · exact trivial

variable {number : ℕ} {key : StreamKey} {cursor : Dict}

theorem collectPage_saves (hw : Collected env call runId items w)
    (h : (Op.saveCheckpoint number key cursor, w') ∈
      (collectPage env call runId progress page).trace env.exec w) :
    number = progress.pages + 1 ∧ key = call.streamKey ∧ page.nextCursor = some cursor ∧
      Collected env call runId (items ++ page.objects) w' := by
  rcases Program.mem_trace_bind.mp h with hobjects | ⟨⟨progress₁, e⟩, w₁, hobjects, hrest⟩
  · exact absurd ((Program.Calls.forEachUntil (fun _ _ => collectObject_calls) _ _).of_mem_trace
      hobjects) id
  · cases e with
    | some e => exact absurd hrest List.not_mem_nil
    | none =>
      obtain ⟨hcollected, hpages⟩ := collectObjects_collected hw hobjects
      rcases hcursor : page.nextCursor with _ | cursor'
      · simp only [hcursor] at hrest
        exact absurd hrest List.not_mem_nil
      · simp only [hcursor] at hrest
        rcases Program.mem_trace_attempt_bind.mp hrest with hsave | hafter
        · rw [Program.trace_perform, List.mem_singleton] at hsave
          cases hsave
          exact ⟨hpages, rfl, rfl, hcollected⟩
        · split at hafter
          · exact absurd hafter List.not_mem_nil
          · exact absurd hafter List.not_mem_nil

theorem opened_collected (hw : Backed w) {checkpointBefore : Dict}
    (h : env.exec (.openRun call) w = (.ok (.opened runId checkpointBefore), w')) :
    runId = env.newId "run" w.ticks ∧
      checkpointBefore = Environment.checkpointBefore w.db call.streamKey ∧
      Collected env call runId [] w' := by
  have hsame := @exec_collected env w (.openRun call) trivial
  have hbacked : Backed w' :=
    (keeps_backed (p := perform (Op.openRun call)) (Program.calls_perform.mpr trivial) hw).final h
  obtain ⟨hanswer, -⟩ := exec_eq_ok h
  have hresult := transact_eq_ok hanswer
  rw [bind_eq_ok] at hresult
  obtain ⟨⟨opening, db⟩, hopen, hresult⟩ := hresult
  have hopening : opening = .opened runId checkpointBefore :=
    congrArg Prod.fst (Except.ok.inj hresult)
  rcases openRun_eq_ok hopen with ⟨row, -, heq, -⟩ | ⟨hfresh, heq, -⟩
  · rw [hopening] at heq
    cases heq
  · rw [hopening] at heq
    cases heq
    rw [h] at hsame
    refine ⟨rfl, rfl, hbacked, fun item hitem => absurd hitem List.not_mem_nil, ?_⟩
    intro row hrow hrun
    rw [hsame] at hrow
    obtain ⟨r, hr, hid⟩ := hw.runs row hrow
    exact absurd (hid.trans hrun) (hfresh r hr)

/-- **The saves of a run.**  When a run saves the cursor of a page, it has linked the objects of
the pages up to this one, and no others. -/
theorem save_collected (hw : Backed w)
    (h : (Op.saveCheckpoint number key cursor, w') ∈ (run env call).trace env.exec w) :
    ∃ before page after,
      (call.connector.collectPages call.request
        (Environment.checkpointBefore w.db call.streamKey)).pages = before ++ page :: after ∧
      number = before.length + 1 ∧ key = call.streamKey ∧ page.nextCursor = some cursor ∧
      Collected env call (env.newId "run" w.ticks) (objectsOf (before ++ [page])) w' := by
  rcases Program.mem_trace_bind.mp h with hopen | ⟨opening, w₁, hopen, hrest⟩
  · rw [Program.trace_perform, List.mem_singleton] at hopen
    cases hopen
  cases opening with
  | existing row => exact absurd hrest List.not_mem_nil
  | opened runId checkpointBefore =>
    obtain ⟨rfl, rfl, hw₁⟩ := opened_collected hw hopen
    rcases Program.mem_trace_bind.mp hrest with hcollect | ⟨⟨progress, error⟩, w₂, -, hfinish⟩
    · -- the health of the connector, then its pages
      rcases Program.mem_trace_attempt_bind.mp hcollect with hhealth | hpages
      · exact absurd (checkHealth_notSave.of_mem_trace hhealth) id
      have hcalls : (checkHealth call).Calls NotLink := checkHealth_calls
      have hw₂ := (keeps_collected hcalls hw₁).2
      rcases hhealth : (checkHealth call).run env.exec w₁ with ⟨e | _, w₂⟩
      · rw [hhealth] at hpages
        exact absurd hpages List.not_mem_nil
      rw [hhealth] at hpages hw₂
      rcases Program.mem_trace_bind.mp hpages with hloop | ⟨⟨progress, error⟩, w₃, -, hend⟩
      · obtain ⟨before, page, after, progress, w₃, hsplit, hbefore, hpage⟩ :=
          Program.mem_trace_forEachUntil hloop
        obtain ⟨hw₃, hcount⟩ := collectPages_collected hw₂ rfl hbefore
        obtain ⟨rfl, hkey, hcursor, hw'⟩ := collectPage_saves hw₃ hpage
        refine ⟨before, page, after, hsplit, by rw [hcount], hkey, hcursor, ?_⟩
        rw [objectsOf_append]
        simpa [objectsOf] using hw'
      · cases error with
        | some e => exact absurd hend List.not_mem_nil
        | none => exact absurd hend List.not_mem_nil
    · rcases Program.mem_trace_bind.mp hfinish with hfinish | ⟨row, w₃, -, hend⟩
      · rw [Program.trace_perform, List.mem_singleton] at hfinish
        cases hfinish
      · cases error with
        | some e => exact absurd hend List.not_mem_nil
        | none => exact absurd hend List.not_mem_nil

/-- One object twice: the same version of it, with the same content. -/
def SameContent (env : Environment) (item other : SourceObject) : Prop :=
  item.sourceObjectId = other.sourceObjectId ∧ item.sourceVersion = other.sourceVersion ∧
    env.contentSha256 item = env.contentSha256 other

theorem Collected.linked_iff (hw : Collected env call runId items w) :
    Linked env call runId w item ↔ ∃ kept ∈ items, SameContent env item kept := by
  constructor
  · rintro ⟨row, hrow, ⟨hrun, hversion, hcontent⟩, -⟩
    obtain ⟨kept, hkept, -, hversion', hcontent'⟩ := hw.only row hrow hrun
    rw [hversion] at hversion'
    rw [hcontent] at hcontent'
    exact ⟨kept, hkept, congrArg VersionKey.sourceObjectId hversion',
      congrArg VersionKey.sourceVersion hversion', hcontent'⟩
  · rintro ⟨kept, hkept, hid, hversion, hcontent⟩
    obtain ⟨row, hrow, hrun, hkey, hsha⟩ := hw.linked kept hkept
    refine ⟨row, hrow, ⟨hrun, ?_, ?_⟩, hw.backed.evidence row hrow⟩
    · rw [hkey, RunCall.version, RunCall.version, hid, hversion]
    · rw [hsha, hcontent]

end Runs

/-- The pages that the adapter has produced when a run from `w` saves its page `number`. -/
def producedPages (inner : Connector) (call : RunCall) (w : World) (number : ℕ) :
    List ConnectorPage :=
  (inner.collectPages call.request
    (Environment.checkpointBefore w.db call.streamKey)).pages.take number

/-- The pages of a bounded connector have the first objects of the adapter's pages, with the
adapter's cursors. -/
theorem within_pages {inner : Connector} {limits : Option Limits} {request : CollectionRequest}
    {checkpoint : Dict} {before after : List ConnectorPage} {page : ConnectorPage}
    (h : ((inner.within limits).collectPages request checkpoint).pages =
      before ++ page :: after) :
    objectsOf (before ++ [page]) = keptOf limits
        (objectsOf ((inner.collectPages request checkpoint).pages.take (before.length + 1))) ∧
      ((inner.collectPages request checkpoint).pages[before.length]?).map (·.nextCursor) =
        some page.nextCursor := by
  have htake : ((inner.within limits).collectPages request checkpoint).pages.take
      (before.length + 1) = before ++ [page] := by
    rw [h, List.take_append]
    simp
  have hget : ((inner.within limits).collectPages request checkpoint).pages[before.length]? =
      some page := by
    rw [h]
    simp
  cases limits with
  | none =>
    refine ⟨?_, ?_⟩
    · show _ = objectsOf _
      rw [← htake]
      rfl
    · show (((inner.within none).collectPages request checkpoint).pages[_]?).map _ = _
      rw [hget]
      rfl
  | some limits =>
    have hlength : before.length + 1 ≤
        ((inner.within (some limits)).collectPages request checkpoint).pages.length := by
      rw [h, List.length_append, List.length_cons]
      omega
    refine ⟨?_, boundedPages_nextCursor hget⟩
    rw [← htake]
    have hobjects := boundedPages_objects hlength
    rwa [Int.sub_zero] at hobjects

section Saves

variable {env : Environment} {w w' : World} {call : RunCall} {inner : Connector}
  {limits : Option Limits} {number : ℕ} {key : StreamKey} {cursor : Dict}

theorem save_linked (hw : Reachable env w) (hconnector : call.connector = inner.within limits)
    (hsave : (Op.saveCheckpoint number key cursor, w') ∈ (run env call).trace env.exec w) :
    (producedPages inner call w number).getLast?.bind (·.nextCursor) = some cursor ∧
      ∀ item, Linked env call (env.newId "run" w.ticks) w' item ↔
        ∃ kept ∈ keptOf limits (objectsOf (producedPages inner call w number)),
          SameContent env item kept := by
  obtain ⟨before, page, after, hpages, rfl, -, hcursor, hcollected⟩ :=
    save_collected hw.backed hsave
  rw [hconnector] at hpages
  obtain ⟨hobjects, hget⟩ := within_pages hpages
  rw [hobjects] at hcollected
  refine ⟨?_, fun item => hcollected.linked_iff⟩
  obtain ⟨produced, hproduced, hsame⟩ := Option.map_eq_some_iff.mp hget
  rw [producedPages, List.getLast?_take, if_neg (by omega), Nat.add_sub_cancel, hproduced]
  exact hsame.trans hcursor

/-- **What a checkpoint stands for.**  When a run saves a cursor, the objects that the adapter
has produced up to it are linked exactly when those that the limits cut off repeat objects that
they left; with no limits they always are. -/
theorem saved_linked_iff (hw : Reachable env w) (hconnector : call.connector = inner.within limits)
    (hsave : (Op.saveCheckpoint number key cursor, w') ∈ (run env call).trace env.exec w) :
    ((producedPages inner call w number).getLast?.bind (·.nextCursor) = some cursor ∧
      ((∀ item ∈ objectsOf (producedPages inner call w number),
          Linked env call (env.newId "run" w.ticks) w' item) ↔
        ∀ item ∈ objectsOf (producedPages inner call w number),
          ∃ kept ∈ keptOf limits (objectsOf (producedPages inner call w number)),
            SameContent env item kept)) ∧
    (limits = none → ∀ item ∈ objectsOf (producedPages inner call w number),
      Linked env call (env.newId "run" w.ticks) w' item) := by
  obtain ⟨hcursor, hlinked⟩ := save_linked hw hconnector hsave
  refine ⟨⟨hcursor, forall₂_congr fun item _ => hlinked item⟩, ?_⟩
  rintro rfl item hitem
  exact (hlinked item).mpr ⟨item, hitem, rfl, rfl, rfl⟩

end Saves

section Sample

def fixtureObject (sourceObjectId : String) : SourceObject where
  sourceObjectId := sourceObjectId
  sourceVersion := "1"
  sourceLocator := "fixture"
  payload := .empty

def twoObjects : Connector where
  descriptor := { connectorType := "fixture", streams := ["records"] }
  health := .ok { status := .healthy, checkedAt := 0 }
  scopeFor := fun _ => .ok .empty
  collectPages := fun _ _ =>
    { pages := [{ objects := [fixtureObject "1", fixtureObject "2"], nextCursor := some .empty }] }

def fixtureEnvironment : Environment where
  vault := { sha256 := fun _ => String.ofList (List.replicate 64 '0') }
  real := fun _ => .nan
  clock := fun tick => tick
  ambient := fun tick =>
    { clock := fun _ => sampleTime 1
      fileTime := sampleTime 1
      hex := fun n => toString tick ++ "." ++ toString n }
  hex := toString

def fixtureWorld : World where
  db :=
    { instances := [
        { connectorInstanceId := "con_1", tenantId := "tnt_a", connectorKey := "fixture"
          connectorType := "fixture", displayName := "Fixture", status := .active }]
      grants := [
        { grantId := "grt_1", tenantId := "tnt_a", connectorInstanceId := "con_1"
          grantKey := "grant", purpose := "audit", status := .active, readOnly := true
          allowedStreams := ["records"], resourceSelectors := .empty, createdAt := 0 }] }
  vault := { db := { tenants := ["tnt_a"] } }

theorem fixtureWorld_reachable (env : Environment) : Reachable env fixtureWorld :=
  .fresh rfl ⟨List.nodup_nil, fun _ hr => absurd hr List.not_mem_nil⟩

def fixtureCall (limits : Option Limits) : RunCall where
  tenantId := "tnt_a"
  connectorInstanceId := "con_1"
  grantId := "grt_1"
  connector := twoObjects.within limits
  request := { stream := "records" }
  idempotencyKey := "key"

def savesFirst : Op → Bool
  | .saveCheckpoint number _ _ => number = 1
  | _ => false

theorem exists_save {trace : List (Op × World)} (h : trace.any (fun c => savesFirst c.1)) :
    ∃ key cursor w', (Op.saveCheckpoint 1 key cursor, w') ∈ trace := by
  obtain ⟨⟨op, w'⟩, hmem, hop⟩ := List.any_eq_true.mp h
  cases op with
  | saveCheckpoint number key cursor =>
    obtain rfl : number = 1 := by simpa [savesFirst] using hop
    exact ⟨key, cursor, w', hmem⟩
  | _ => cases hop

theorem fixture_saves (limits : Option Limits) (h : limits = none ∨ limits = some ⟨5, 1⟩) :
    ((run fixtureEnvironment (fixtureCall limits)).trace fixtureEnvironment.exec
      fixtureWorld).any (fun c => savesFirst c.1) := by
  rcases h with rfl | rfl
  · decide +kernel
  · decide +kernel

/-- A plain run links both objects of the page. -/
theorem saved_linked_sample : ∃ key cursor w',
    (Op.saveCheckpoint 1 key cursor, w') ∈
        (run fixtureEnvironment (fixtureCall none)).trace fixtureEnvironment.exec fixtureWorld ∧
      ∀ item ∈ objectsOf (producedPages twoObjects (fixtureCall none) fixtureWorld 1),
        Linked fixtureEnvironment (fixtureCall none)
          (fixtureEnvironment.newId "run" fixtureWorld.ticks) w' item := by
  obtain ⟨key, cursor, w', hsave⟩ := exists_save (fixture_saves none (.inl rfl))
  exact ⟨key, cursor, w', hsave,
    (saved_linked_iff (fixtureWorld_reachable _) rfl hsave).2 rfl⟩

/-- With room for one object, the cursor is saved and the second object is not linked. -/
theorem cut_not_linked : ∃ limits key cursor w',
    (Op.saveCheckpoint 1 key cursor, w') ∈
        (run fixtureEnvironment (fixtureCall (some limits))).trace fixtureEnvironment.exec
          fixtureWorld ∧
      ¬ ∀ item ∈ objectsOf (producedPages twoObjects (fixtureCall (some limits)) fixtureWorld 1),
        Linked fixtureEnvironment (fixtureCall (some limits))
          (fixtureEnvironment.newId "run" fixtureWorld.ticks) w' item := by
  obtain ⟨key, cursor, w', hsave⟩ := exists_save (fixture_saves (some ⟨5, 1⟩) (.inr rfl))
  have hconnector : (fixtureCall (some ⟨5, 1⟩)).connector =
      twoObjects.within (some ⟨5, 1⟩) := rfl
  obtain ⟨-, hlinked⟩ := save_linked (fixtureWorld_reachable _) hconnector hsave
  refine ⟨⟨5, 1⟩, key, cursor, w', hsave, fun hall => ?_⟩
  have hsecond : fixtureObject "2" ∈
      objectsOf (producedPages twoObjects (fixtureCall (some ⟨5, 1⟩)) fixtureWorld 1) :=
    List.mem_cons_of_mem _ List.mem_cons_self
  obtain ⟨kept, hkept, hid, -, -⟩ := (hlinked _).mp (hall _ hsecond)
  -- the ceiling leaves the first object only
  obtain rfl : kept = fixtureObject "1" := List.mem_singleton.mp hkept
  exact absurd hid (by decide)

end Sample

end Connectors
