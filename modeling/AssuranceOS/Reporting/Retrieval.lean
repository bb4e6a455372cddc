/-
Retrieval of evidence (`ReportingService.retrieve`).

The database, a parameter, selects, orders and limits the records of a tenant; the classifications
that a caller may see are tested afterwards, and an empty set of them stands for the default one.  The
query is matched by `LIKE`.

`retrieve_iff`: what is retrieved is what was wanted exactly when the caller's set is not replaced,
`LIKE` finds the query literally among the records that are gone through, and no hidden record has used
up the limit before a wanted one.
-/
import AssuranceOS.Lib.TextSearch
import AssuranceOS.Reporting.Definitions
import Mathlib.Data.Prod.Lex

namespace Reporting

open Orchestration (Timestamp)

/-- The columns of `evidence_records` that retrieval reads. -/
structure EvidenceRecord where
  evidenceId : String
  tenantId : String
  engagementId : Option String
  sourceType : String
  sourceLocator : String
  contentSha256 : String
  originalFilename : Option String
  classification : String
  sourceTime : Option Timestamp
  collectedAt : Timestamp
  accepted : Bool
  tainted : Bool
  integrityStatus : String
  deletedAt : Option Timestamp
  deriving DecidableEq, Repr

/-- `_view`. -/
def EvidenceRecord.view (record : EvidenceRecord) : EvidenceView where
  evidenceId := record.evidenceId
  engagementId := record.engagementId
  sourceType := record.sourceType
  sourceLocator := record.sourceLocator
  classification := record.classification
  accepted := record.accepted
  tainted := record.tainted
  integrityStatus := record.integrityStatus
  deleted := record.deletedAt.isSome
  collectedAt := record.collectedAt
  sourceTime := record.sourceTime
  contentSha256 := record.contentSha256

def EvidenceRecord.place (record : EvidenceRecord) : Timestamp ×ₗ String :=
  toLex (record.collectedAt, record.evidenceId)

/-- The table, with its primary key. -/
structure EvidenceTable where
  rows : List EvidenceRecord
  evidenceId_nodup : (rows.map EvidenceRecord.evidenceId).Nodup

/-- `lower` and `LIKE` of the database. -/
structure Dialect where
  lower : String → String
  /-- the text, then the pattern -/
  like : String → String → Bool

def foldAscii (c : Char) : Char :=
  if PyString.isUpperAscii c then Char.ofNat (c.toNat + 32) else c

def sqlite : Dialect where
  lower text := String.ofList (text.toList.map foldAscii)
  like text pattern := Like.like foldAscii pattern.toList text.toList

/-- `DEFAULT_VISIBLE_CLASSIFICATIONS`. -/
def defaultVisibleClassifications : List String := ["public", "internal", "confidential"]

/-- The arguments of `retrieve`. -/
structure Retrieval where
  tenantId : String
  engagementId : Option String := none
  visibleClassifications : Option (List String) := none
  includeDeleted : Bool := false
  query : Option String := none
  limit : ℕ := 500

namespace Retrieval

variable (dialect : Dialect) (unicode : PyString.UnicodeData) (q : Retrieval)

/-- `visible_classifications or DEFAULT_VISIBLE_CLASSIFICATIONS`. -/
def shown : List String :=
  match q.visibleClassifications with
  | none => defaultVisibleClassifications
  | some [] => defaultVisibleClassifications
  | some classifications => classifications

def inScope (record : EvidenceRecord) : Bool :=
  record.tenantId = q.tenantId &&
    q.engagementId.all (fun engagementId => record.engagementId = some engagementId) &&
    (q.includeDeleted || record.deletedAt.isNone)

/-- The locator or the filename is `LIKE` the query. -/
def matched (record : EvidenceRecord) : Bool :=
  !PyString.truthy q.query || q.query.any fun query =>
    let pattern := "%" ++ PyString.lower unicode query ++ "%"
    dialect.like (dialect.lower record.sourceLocator) pattern ||
      dialect.like (dialect.lower (record.originalFilename.getD "")) pattern

/-- `retrieve`. -/
def retrieve (table : EvidenceTable) : List EvidenceView :=
  let statement := (table.rows.filter q.inScope).filter (q.matched dialect unicode)
  let rows := (statement.insertionSort fun a b => a.place ≤ b.place).take q.limit
  (rows.filter fun record => record.classification ∈ q.shown).map EvidenceRecord.view

def visible : List String := q.visibleClassifications.getD defaultVisibleClassifications

def found (query text : String) : Bool :=
  (PyString.lower unicode query).toList <:+: (PyString.lower unicode text).toList

def contained (record : EvidenceRecord) : Bool :=
  q.query.all fun query => found unicode query record.sourceLocator ||
    found unicode query (record.originalFilename.getD "")

def wanted (record : EvidenceRecord) : Bool :=
  record.classification ∈ q.visible && q.contained unicode record

def scope (table : EvidenceTable) : List EvidenceRecord :=
  (table.rows.filter q.inScope).insertionSort fun a b => a.place ≤ b.place

/-- What the search should answer. -/
def answer (table : EvidenceTable) : List EvidenceView :=
  (((q.scope table).filter (q.wanted unicode)).take q.limit).map EvidenceRecord.view

/-- The records that are gone through until the limit is reached. -/
def seen (table : EvidenceTable) : List EvidenceRecord :=
  Window.window (q.matched dialect unicode) q.limit (q.scope table)

def unseen (table : EvidenceTable) : List EvidenceRecord :=
  Window.beyond (q.matched dialect unicode) q.limit (q.scope table)

/-- Nothing comes between the caller and the wanted records. -/
structure Undisturbed (table : EvidenceTable) : Prop where
  /-- An empty set hides all that is found. -/
  empty : q.visibleClassifications = some [] → ∀ record ∈ q.seen dialect unicode table,
    q.matched dialect unicode record = true →
      record.classification ∉ defaultVisibleClassifications
  /-- The pattern finds the query literally. -/
  literal : ∀ record ∈ q.seen dialect unicode table, record.classification ∈ q.visible →
    q.matched dialect unicode record = q.contained unicode record
  /-- No hidden record counts, or no wanted record is left behind. -/
  unhidden : (∀ record ∈ q.seen dialect unicode table, q.matched dialect unicode record = true →
      record.classification ∈ q.shown) ∨
    ∀ record ∈ q.unseen dialect unicode table, q.wanted unicode record = false

end Retrieval

/-! ### Retrieval as a limit before a filter -/

variable {dialect : Dialect} {unicode : PyString.UnicodeData} {q : Retrieval}
  {table : EvidenceTable}

theorem EvidenceTable.eq_of_evidenceId {a b : EvidenceRecord} (ha : a ∈ table.rows)
    (hb : b ∈ table.rows) (h : a.evidenceId = b.evidenceId) : a = b :=
  List.inj_on_of_nodup_map table.evidenceId_nodup ha hb h

theorem mem_scope {record : EvidenceRecord} :
    record ∈ q.scope table ↔ record ∈ table.rows ∧ q.inScope record = true := by
  unfold Retrieval.scope
  rw [List.mem_insertionSort, List.mem_filter]

theorem scope_nodup : (q.scope table).Nodup := by
  unfold Retrieval.scope
  rw [(List.perm_insertionSort _ _).nodup_iff]
  exact (List.Nodup.of_map _ table.evidenceId_nodup).filter _

theorem retrieve_eq : q.retrieve dialect unicode table =
    ((((q.scope table).filter (q.matched dialect unicode)).take q.limit).filter
      fun record => record.classification ∈ q.shown).map EvidenceRecord.view := by
  unfold Retrieval.retrieve Retrieval.scope
  rw [Window.filter_insertionSort]
  intro a ha b hb hplace
  rw [List.mem_filter] at ha hb
  have hid : a.evidenceId = b.evidenceId := congrArg (fun p => (ofLex p).2) hplace
  exact EvidenceTable.eq_of_evidenceId ha.1 hb.1 hid

theorem shown_eq_visible (h : q.visibleClassifications ≠ some []) : q.shown = q.visible := by
  unfold Retrieval.shown Retrieval.visible
  cases hset : q.visibleClassifications with
  | none => rfl
  | some classifications =>
    cases classifications with
    | nil => exact absurd hset h
    | cons c rest => rfl

theorem visible_of_empty (h : q.visibleClassifications = some []) : q.visible = [] := by
  unfold Retrieval.visible
  rw [h]
  rfl

theorem shown_of_empty (h : q.visibleClassifications = some []) :
    q.shown = defaultVisibleClassifications := by
  unfold Retrieval.shown
  rw [h]

/-- **What is retrieved** are the first wanted records, exactly when nothing comes between. -/
theorem retrieve_iff (dialect : Dialect) (unicode : PyString.UnicodeData) (table : EvidenceTable)
    (q : Retrieval) :
    q.retrieve dialect unicode table = q.answer unicode table ↔
      q.Undisturbed dialect unicode table := by
  rw [retrieve_eq, Retrieval.answer, Window.map_inj_of_injOn ?_, Window.filter_take_iff scope_nodup]
  · change (∀ record ∈ q.seen dialect unicode table, _) ∧
      ((∀ record ∈ q.seen dialect unicode table, _) ∨
        ∀ record ∈ q.unseen dialect unicode table, _) ↔ _
    by_cases hempty : q.visibleClassifications = some []
    · -- nothing is wanted
      have hnone : ∀ record, q.wanted unicode record = false := by
        intro record
        unfold Retrieval.wanted
        simp [visible_of_empty hempty]
      constructor
      · rintro ⟨hsame, -⟩
        refine ⟨fun _ record hrecord hmatched hdefault => ?_, fun record _ hvisible => ?_,
          Or.inr fun record _ => hnone record⟩
        · have hwanted := (hsame record hrecord).mp
            ⟨hmatched, by simpa [shown_of_empty hempty] using hdefault⟩
          simp [hnone] at hwanted
        · simp [visible_of_empty hempty] at hvisible
      · rintro ⟨hhidden, -, -⟩
        refine ⟨fun record hrecord => iff_of_false ?_ (by simp [hnone]),
          Or.inr fun record _ => hnone record⟩
        rintro ⟨hmatched, hshown⟩
        exact hhidden hempty record hrecord hmatched
          (by simpa [shown_of_empty hempty] using hshown)
    · -- the records that may be seen are matched when they are wanted
      have hsame : ∀ record, (q.matched dialect unicode record = true ∧
            record.classification ∈ q.shown ↔ q.wanted unicode record = true) ↔
          (record.classification ∈ q.visible →
            q.matched dialect unicode record = q.contained unicode record) := by
        intro record
        rw [shown_eq_visible hempty, Retrieval.wanted]
        by_cases hvisible : record.classification ∈ q.visible
        · simp only [hvisible, and_true, decide_true, Bool.true_and, true_implies]
          exact Bool.eq_iff_iff.symm
        · simp [hvisible]
      simp only [decide_eq_true_eq, hsame]
      constructor
      · rintro ⟨hliteral, hunhidden⟩
        exact ⟨fun h => absurd h hempty, hliteral, hunhidden⟩
      · rintro ⟨-, hliteral, hunhidden⟩
        exact ⟨hliteral, hunhidden⟩
  · intro a ha b hb hview
    have hmem : ∀ record ∈ q.scope table, record ∈ table.rows := fun record h => (mem_scope.mp h).1
    exact EvidenceTable.eq_of_evidenceId
      (hmem a (List.mem_of_mem_filter (List.mem_of_mem_take (List.mem_of_mem_filter ha))))
      (hmem b (List.mem_of_mem_filter (List.mem_of_mem_take hb)))
      (congrArg EvidenceView.evidenceId hview)

def sampleRecord (evidenceId classification : String) (collectedAt : Timestamp) :
    EvidenceRecord where
  evidenceId := evidenceId
  tenantId := "tenant"
  engagementId := none
  sourceType := "upload"
  sourceLocator := "a-b.csv"
  contentSha256 := "content"
  originalFilename := none
  classification := classification
  sourceTime := none
  collectedAt := collectedAt
  accepted := true
  tainted := false
  integrityStatus := "verified"
  deletedAt := none

theorem sampleTable_nodup : ([sampleRecord "hidden" "restricted" 1,
    sampleRecord "shown" "internal" 2].map EvidenceRecord.evidenceId).Nodup := by decide

def sampleTable : EvidenceTable where
  rows := [sampleRecord "hidden" "restricted" 1, sampleRecord "shown" "internal" 2]
  evidenceId_nodup := sampleTable_nodup

/-- The hidden record uses up the limit, an empty set shows a record, and `_` finds another
character. -/
theorem retrieval_disturbed :
    Retrieval.retrieve sqlite PyString.asciiData { tenantId := "tenant", limit := 1 } sampleTable ≠
      Retrieval.answer PyString.asciiData { tenantId := "tenant", limit := 1 } sampleTable ∧
    Retrieval.retrieve sqlite PyString.asciiData
        { tenantId := "tenant", visibleClassifications := some [] } sampleTable ≠
      Retrieval.answer PyString.asciiData
        { tenantId := "tenant", visibleClassifications := some [] } sampleTable ∧
    Retrieval.retrieve sqlite PyString.asciiData
        { tenantId := "tenant", query := some "a_b" } sampleTable ≠
      Retrieval.answer PyString.asciiData { tenantId := "tenant", query := some "a_b" }
        sampleTable := by
  refine ⟨by decide +kernel, by decide +kernel, by decide +kernel⟩

end Reporting
