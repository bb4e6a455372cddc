/-
The fail-closed report renderer (`reporting/renderer.py`), and what its digest fixes.

`render` gives the document of a report, or every issue that stops it.  The document has the claims
with the evidence that they cite for and against, the limitations and the index of all cited evidence;
its digest is taken of its canonical text without the digest and the signature.  SHA-256, taken to be
injective, and the signer are parameters.

The digest fixes which evidence each claim cites for and against (`citations_of_digest`).  The applied
policy, the approved reuse and the qualifying citations are not part of the document (`render_terms`).
-/
import AssuranceOS.Lib.Dict
import AssuranceOS.Lib.JsonAscii
import AssuranceOS.Reporting.Definitions
import AssuranceOS.Vault.Definitions

namespace Reporting

open JsonText (Value Object get_cons get_sorted_congr)
open Scheduling (Date)
open Orchestration (Timestamp)

/-- `datetime.date()`. -/
def dateOf (t : Timestamp) : Date := t / Scheduling.dayLength + Scheduling.epochDay

/-- `date.isoformat()`. -/
def dateText (d : Date) : String := String.ofList (Civil.dateText ['-'] d)

/-- `{record.evidence_id: record for record in evidence}`. -/
def evidenceIndex (evidence : List EvidenceView) : List (String × EvidenceView) :=
  Dict.ofPairs (evidence.map fun record => (record.evidenceId, record))

section Gate

/-- What a claim is checked against. -/
structure Terms where
  policy : EvidencePolicy
  periodStart : Date
  periodEnd : Date
  asAt : Date
  engagementId : String
  reuse : List ReuseJustification

variable (index : List (String × EvidenceView)) (terms : Terms) (claim : ClaimInput)

/-- `evidence_id in reuse`. -/
def Terms.justified (evidenceId : String) : Bool :=
  terms.reuse.any fun item => item.evidenceId = evidenceId

def unknownIssues : List ClaimIssue :=
  (claim.cited.filter fun evidenceId => (index.lookup evidenceId).isNone).map fun evidenceId =>
    { claimKey := claim.key, code := .unknownEvidence, evidenceId := some evidenceId }

def objection (evidenceId : String) (record : EvidenceView) : Option IssueCode :=
  let moment := dateOf (record.sourceTime.getD record.collectedAt)
  let age := terms.asAt - dateOf record.collectedAt
  if ¬ record.isAdmissible then
    some (.inadmissibleEvidence record.accepted record.deleted record.integrityStatus)
  else if record.engagementId ≠ none ∧ record.engagementId ≠ some terms.engagementId ∧
      ¬ terms.policy.allowCrossEngagement ∧ ¬ terms.justified evidenceId then
    some (.crossEngagementReuse (record.engagementId.getD ""))
  else if ¬ (terms.periodStart ≤ moment ∧ moment ≤ terms.periodEnd) ∧
      ¬ terms.policy.allowOutOfPeriod ∧ ¬ terms.justified evidenceId then
    some (.outOfPeriodEvidence moment terms.periodStart terms.periodEnd)
  else if (terms.policy.freshnessDays : ℤ) < age ∧ claim.limitations = [] then
    some (.staleEvidence age terms.policy.freshnessDays)
  else none

def supporting : List (String × EvidenceView) :=
  claim.supportingEvidenceIds.filterMap fun evidenceId =>
    (index.lookup evidenceId).map fun record => (evidenceId, record)

def supportIssues : List ClaimIssue :=
  (supporting index claim).filterMap fun e =>
    (objection terms claim e.1 e.2).map fun code =>
      { claimKey := claim.key, code := code, evidenceId := some e.1 }

def admissible : List EvidenceView :=
  ((supporting index claim).filter fun e => (objection terms claim e.1 e.2).isNone).map Prod.snd

def unsupportedIssue : List ClaimIssue :=
  if admissible index terms claim = [] ∧ claim.limitations = [] then
    [{ claimKey := claim.key, code := .unsupportedMaterialClaim }]
  else []

def taintedIssue : List ClaimIssue :=
  if admissible index terms claim ≠ [] ∧
      ((admissible index terms claim).all fun record => record.tainted) ∧
      ¬ terms.policy.allowTaintedSoleSupport then
    [{ claimKey := claim.key, code := .taintedSoleSupport }]
  else []

def contradictionIssue : List ClaimIssue :=
  if claim.contradictingEvidenceIds ≠ [] ∧ claim.limitations = [] then
    [{ claimKey := claim.key
       code := .undisclosedContradiction claim.contradictingEvidenceIds.length }]
  else []

/-- `check_claim`. -/
def checkClaim : List ClaimIssue :=
  unknownIssues index claim ++
  if claim.material then
    supportIssues index terms claim ++ unsupportedIssue index terms claim ++
    taintedIssue index terms claim ++ contradictionIssue claim
  else []

end Gate

/-- `sorted({...})`. -/
def sortedSet (items : List String) : List String := items.dedup.insertionSort (· ≤ ·)

def evidenceEntry (record : EvidenceView) : Value :=
  .obj [("evidence_id", .str record.evidenceId),
    ("source_type", .str record.sourceType),
    ("source_locator", .str record.sourceLocator),
    ("classification", .str record.classification),
    ("collected_at", .str (Scheduling.isoformat record.collectedAt)),
    ("content_sha256", .str record.contentSha256),
    ("tainted", .bool record.tainted),
    ("integrity_status", .str record.integrityStatus)]

def evidenceEntries (index : List (String × EvidenceView)) (evidenceIds : List String) : Value :=
  .arr (evidenceIds.filterMap fun evidenceId => (index.lookup evidenceId).map evidenceEntry)

def stringsValue (items : List String) : Value := .arr (items.map .str)

def optionValue : Option String → Value
  | none => .null
  | some s => .str s

/-- `RenderedClaim(...).model_dump(mode="json")`. -/
def claimObject (index : List (String × EvidenceView)) (claim : ClaimInput) : Object :=
  [("key", .str claim.key),
    ("claim_type", .str claim.claimType.value),
    ("statement", .str claim.statement),
    ("material", .bool claim.material),
    ("confidence", .float claim.confidence),
    ("supporting_evidence", evidenceEntries index claim.supportingEvidenceIds),
    ("contradicting_evidence", evidenceEntries index claim.contradictingEvidenceIds),
    ("limitations", stringsValue claim.limitations),
    ("finding_id", optionValue claim.findingId)]

def sectionValue (claims : List ClaimInput) (s : ReportSection) : Value :=
  .obj [("key", .str s.key), ("heading", .str s.heading), ("narrative", .str s.narrative),
    ("claims", stringsValue (s.claimKeys.filter fun key => key ∈ claims.map (·.key)))]

/-- The limitations of the claims, and the claims that are limitations. -/
def limitationsOf (claims : List ClaimInput) : List String :=
  sortedSet (claims.flatMap (·.limitations) ++
    (claims.filter fun claim => claim.claimType = .limitation).map (·.statement))

/-- A render: the request, and what it is rendered for. -/
structure RenderCall where
  request : ReportRequest
  tenantId : String
  engagementId : String
  evidence : List EvidenceView
  signer : Option (Vault.Bytes → Value) := none

namespace RenderCall

variable (call : RenderCall)

/-- The evidence of the request by its id. -/
def index : List (String × EvidenceView) := evidenceIndex call.evidence

/-- What the gate goes by. -/
def terms : Terms where
  policy := call.request.policy
  periodStart := call.request.periodStart
  periodEnd := call.request.periodEnd
  asAt := call.request.asAt
  engagementId := call.engagementId
  reuse := call.request.reuseJustifications

/-- The sections that the template requires and that carry no claims. -/
def sectionIssues : List ClaimIssue :=
  let template := call.request.template
  (template.sections.filter fun s => s.key ∈ template.requiredSections ∧ s.claimKeys = []).map
    fun s => { claimKey := s.key, code := .emptyRequiredSection template.reference }

def issues : List ClaimIssue :=
  (call.request.claims.flatMap fun claim => checkClaim call.index call.terms claim) ++
    call.sectionIssues

def body : Object :=
  let request := call.request
  [("schema", .str "assurance.report.v1"),
    ("template", .str request.template.reference),
    ("report_type", .str request.template.reportType.value),
    ("title", .str request.template.title),
    ("tenant_id", .str call.tenantId),
    ("engagement_id", .str call.engagementId),
    ("period_start", .str (dateText request.periodStart)),
    ("period_end", .str (dateText request.periodEnd)),
    ("as_at", .str (dateText request.asAt)),
    ("prepared_by", .str request.preparedBy),
    ("sections", .arr (request.template.sections.map (sectionValue request.claims))),
    ("claims", .arr (request.claims.map fun claim => .obj (claimObject call.index claim))),
    ("limitations", stringsValue (limitationsOf request.claims)),
    ("evidence_index", evidenceEntries call.index
      (sortedSet (request.claims.flatMap ClaimInput.cited)))]

end RenderCall

/-- `canonical_bytes`. -/
def canonicalBytes (document : Object) : Vault.Bytes :=
  Vault.utf8 (JsonText.dumpsAscii (.obj
    (document.filter fun e => ¬ (e.1 = "document_sha256" ∨ e.1 = "signature"))))

/-- `document_digest`. -/
def documentDigest (sha256 : Vault.Bytes → String) (document : Object) : String :=
  sha256 (canonicalBytes document)

/-- `render`: the document, or the issues. -/
def render (sha256 : Vault.Bytes → String) (call : RenderCall) : Except (List ClaimIssue) Object :=
  if call.issues ≠ [] then .error call.issues
  else
    let document := call.body ++ [("document_sha256", .str (documentDigest sha256 call.body))]
    .ok (document ++ (call.signer.map fun signer =>
      ("signature", signer (canonicalBytes document))).toList)

variable {sha256 : Vault.Bytes → String} {call call' : RenderCall} {document document' : Object}

theorem body_keys (call : RenderCall) : call.body.map Prod.fst =
    ["schema", "template", "report_type", "title", "tenant_id", "engagement_id", "period_start",
      "period_end", "as_at", "prepared_by", "sections", "claims", "limitations",
      "evidence_index"] := rfl

theorem canonicalBytes_body (call : RenderCall) :
    canonicalBytes call.body = Vault.utf8 (JsonText.dumpsAscii (.obj call.body)) := by
  have hfilter : call.body.filter (fun e => ¬ (e.1 = "document_sha256" ∨ e.1 = "signature")) =
      call.body := by
    rw [List.filter_eq_self]
    intro e he
    have hkey : e.1 ∈ call.body.map Prod.fst := List.mem_map_of_mem he
    have hother : ∀ k ∈ call.body.map Prod.fst, ¬ (k = "document_sha256" ∨ k = "signature") := by
      rw [body_keys]
      decide
    simpa using hother e.1 hkey
  unfold canonicalBytes
  rw [hfilter]

/-- **A render** has no issues, and its document is the body with its digest. -/
theorem render_eq_ok (h : render sha256 call = .ok document) :
    call.issues = [] ∧
    JsonText.get document "document_sha256" = .str (documentDigest sha256 call.body) := by
  unfold render at h
  split at h
  · cases h
  · rename_i hissues
    refine ⟨by simpa using hissues, ?_⟩
    rw [← Except.ok.inj h]
    simp [RenderCall.body, get_cons]

theorem render_of_issues (h : call.issues = []) : ∃ document, render sha256 call = .ok document := by
  unfold render
  rw [if_neg (by simp [h])]
  exact ⟨_, rfl⟩

/-! ### The citations of a document -/

variable {claim : ClaimInput} {evidence : List EvidenceView}

theorem lookup_of_checkClaim {index : List (String × EvidenceView)} {terms : Terms}
    (h : checkClaim index terms claim = []) :
    ∀ id ∈ claim.cited, ∃ record, index.lookup id = some record := by
  intro id hid
  have hunknown := (List.append_eq_nil_iff.mp h).1
  unfold unknownIssues at hunknown
  rw [List.map_eq_nil_iff, List.filter_eq_nil_iff] at hunknown
  have hfound := hunknown id hid
  rw [Option.isNone_iff_eq_none] at hfound
  exact Option.ne_none_iff_exists'.mp hfound

theorem evidenceId_of_lookup {id : String} {record : EvidenceView}
    (h : (evidenceIndex evidence).lookup id = some record) : record.evidenceId = id := by
  obtain ⟨r, -, heq⟩ := List.mem_map.mp (Dict.mem_of_lookup_ofPairs h)
  obtain ⟨hid, rfl⟩ := Prod.mk.inj heq
  exact hid

def entryId : Value → Option String
  | .obj entries => JsonText.asString (JsonText.get entries "evidence_id")
  | _ => none

def citedIds : Value → List String
  | .arr items => items.filterMap entryId
  | _ => []

theorem entryId_sorted (record : EvidenceView) :
    entryId (evidenceEntry record).sorted = some record.evidenceId := by
  unfold evidenceEntry
  rw [JsonText.sorted_obj]
  show JsonText.asString (JsonText.get (JsonText.sortedObject _) "evidence_id") = _
  rw [JsonText.get_sortedObject (by simp)]
  simp [get_cons, JsonText.asString]

theorem citedIds_sorted {ids : List String}
    (h : ∀ id ∈ ids, ∃ record, (evidenceIndex evidence).lookup id = some record) :
    citedIds (evidenceEntries (evidenceIndex evidence) ids).sorted = ids := by
  unfold evidenceEntries
  rw [JsonText.sorted_arr]
  show List.filterMap entryId _ = _
  induction ids with
  | nil => rfl
  | cons id ids ih =>
    obtain ⟨record, hrecord⟩ := h id List.mem_cons_self
    have hentry : entryId (evidenceEntry record).sorted = some id := by
      rw [entryId_sorted, evidenceId_of_lookup hrecord]
    rw [List.filterMap_cons, hrecord]
    show List.filterMap entryId ((evidenceEntry record).sorted :: _) = _
    rw [List.filterMap_cons, hentry]
    show id :: _ = _
    rw [ih fun other hother => h other (List.mem_cons_of_mem _ hother)]

def readClaim : Value → Option String × List String × List String
  | .obj entries => (JsonText.asString (JsonText.get entries "key"),
      citedIds (JsonText.get entries "supporting_evidence"),
      citedIds (JsonText.get entries "contradicting_evidence"))
  | _ => (none, [], [])

theorem readClaim_sorted
    (h : ∀ id ∈ claim.cited, ∃ record, (evidenceIndex evidence).lookup id = some record) :
    readClaim (Value.obj (claimObject (evidenceIndex evidence) claim)).sorted =
      (some claim.key, claim.supportingEvidenceIds, claim.contradictingEvidenceIds) := by
  have hkeys : ((claimObject (evidenceIndex evidence) claim).map Prod.fst).Nodup := by
    show ["key", "claim_type", "statement", "material", "confidence", "supporting_evidence",
      "contradicting_evidence", "limitations", "finding_id"].Nodup
    decide
  have hfor := citedIds_sorted fun id hid =>
    h id (List.mem_append_left _ (List.mem_append_left _ hid))
  have hagainst := citedIds_sorted fun id hid =>
    h id (List.mem_append_left _ (List.mem_append_right _ hid))
  rw [JsonText.sorted_obj]
  show (JsonText.asString (JsonText.get (JsonText.sortedObject _) "key"),
    citedIds (JsonText.get (JsonText.sortedObject _) "supporting_evidence"),
    citedIds (JsonText.get (JsonText.sortedObject _) "contradicting_evidence")) = _
  rw [JsonText.get_sortedObject hkeys, JsonText.get_sortedObject hkeys,
    JsonText.get_sortedObject hkeys]
  simp only [claimObject, get_cons]
  simp only [String.reduceEq, if_true, if_false, JsonText.sorted_str, JsonText.asString, hfor,
    hagainst]

theorem lookup_of_issues (h : call.issues = []) (hclaim : claim ∈ call.request.claims) :
    ∀ id ∈ claim.cited, ∃ record, (evidenceIndex call.evidence).lookup id = some record := by
  have hclaims := (List.append_eq_nil_iff.mp h).1
  exact lookup_of_checkClaim (List.flatMap_eq_nil_iff.mp hclaims claim hclaim)

/-- **The digest fixes the citations** for and against each claim. -/
theorem citations_of_digest (hinj : Function.Injective sha256)
    (h : render sha256 call = .ok document) (h' : render sha256 call' = .ok document')
    (hdigest : JsonText.get document "document_sha256" = JsonText.get document' "document_sha256") :
    call.request.claims.map (fun claim =>
        (claim.key, claim.supportingEvidenceIds, claim.contradictingEvidenceIds)) =
      call'.request.claims.map fun claim =>
        (claim.key, claim.supportingEvidenceIds, claim.contradictingEvidenceIds) := by
  obtain ⟨hissues, hsha⟩ := render_eq_ok h
  obtain ⟨hissues', hsha'⟩ := render_eq_ok h'
  rw [hsha, hsha'] at hdigest
  have hbytes := hinj (Value.str.inj hdigest)
  rw [canonicalBytes_body, canonicalBytes_body] at hbytes
  have hbody := JsonText.dumpsAscii_inj.mp (Vault.utf8_injective hbytes)
  have hkeys : ∀ c : RenderCall, (c.body.map Prod.fst).Nodup := by
    intro c
    rw [body_keys]
    decide
  have hclaims := get_sorted_congr (hkeys call) (hkeys call') hbody "claims"
  have hget : ∀ c : RenderCall, JsonText.get c.body "claims" =
      .arr (c.request.claims.map fun claim => .obj (claimObject c.index claim)) := fun _ => rfl
  rw [hget, hget, JsonText.sorted_arr, JsonText.sorted_arr, List.map_map, List.map_map] at hclaims
  -- what is read back from a document is what the claims cite
  have hread : ∀ c : RenderCall, c.issues = [] →
      (c.request.claims.map (Value.sorted ∘ fun claim => .obj (claimObject c.index claim))).map
          readClaim =
        c.request.claims.map fun claim =>
          (some claim.key, claim.supportingEvidenceIds, claim.contradictingEvidenceIds) := by
    intro c hc
    rw [List.map_map]
    refine List.map_congr_left fun claim hclaim => ?_
    exact readClaim_sorted (lookup_of_issues hc hclaim)
  have hsame := congrArg (List.map readClaim) (Value.arr.inj hclaims)
  rw [hread call hissues, hread call' hissues'] at hsame
  have hunwrap := congrArg (List.map fun t : Option String × List String × List String =>
    (t.1.getD "", t.2.1, t.2.2)) hsame
  rw [List.map_map, List.map_map] at hunwrap
  exact hunwrap

/-- The second terms admit what the first ones do. -/
structure Loosened (terms terms' : Terms) : Prop where
  periodStart : terms'.periodStart = terms.periodStart
  periodEnd : terms'.periodEnd = terms.periodEnd
  asAt : terms'.asAt = terms.asAt
  engagementId : terms'.engagementId = terms.engagementId
  freshness : terms.policy.freshnessDays ≤ terms'.policy.freshnessDays
  outOfPeriod : terms'.policy.allowOutOfPeriod = terms.policy.allowOutOfPeriod
  crossEngagement : terms'.policy.allowCrossEngagement = terms.policy.allowCrossEngagement
  tainted : terms'.policy.allowTaintedSoleSupport = terms.policy.allowTaintedSoleSupport
  justified : ∀ id, terms.justified id = true → terms'.justified id = true

section Loosened

variable {index : List (String × EvidenceView)} {terms terms' : Terms} {claim : ClaimInput}

theorem objection_loosened (h : Loosened terms terms') {id : String} {record : EvidenceView}
    (hnone : objection terms claim id record = none) : objection terms' claim id record = none := by
  unfold objection at *
  rw [h.periodStart, h.periodEnd, h.asAt, h.engagementId, h.outOfPeriod, h.crossEngagement]
  have hfreshness : (terms.policy.freshnessDays : ℤ) ≤ terms'.policy.freshnessDays := by
    exact_mod_cast h.freshness
  -- the four refusals in turn
  dsimp only at *
  by_cases hadmissible : ¬ record.isAdmissible
  · rw [if_pos hadmissible] at hnone
    cases hnone
  · rw [if_neg hadmissible] at hnone ⊢
    split at hnone
    · cases hnone
    · rename_i hcross
      rw [if_neg fun hall => hcross ⟨hall.1, hall.2.1, hall.2.2.1,
        fun hjustified => hall.2.2.2 (h.justified id hjustified)⟩]
      split at hnone
      · cases hnone
      · rename_i hperiod
        rw [if_neg fun hall => hperiod ⟨hall.1, hall.2.1,
          fun hjustified => hall.2.2 (h.justified id hjustified)⟩]
        split at hnone
        · cases hnone
        · rename_i hstale
          exact if_neg fun hall => hstale ⟨hfreshness.trans_lt hall.1, hall.2⟩

theorem supportIssues_eq_nil : supportIssues index terms claim = [] ↔
    ∀ e ∈ supporting index claim, objection terms claim e.1 e.2 = none := by
  unfold supportIssues
  rw [List.filterMap_eq_nil_iff]
  simp only [Option.map_eq_none_iff]

theorem admissible_eq (h : supportIssues index terms claim = []) :
    admissible index terms claim = (supporting index claim).map Prod.snd := by
  unfold admissible
  rw [List.filter_eq_self.mpr]
  intro e he
  rw [supportIssues_eq_nil.mp h e he]
  rfl

theorem checkClaim_loosened (h : Loosened terms terms') (hnone : checkClaim index terms claim = []) :
    checkClaim index terms' claim = [] := by
  unfold checkClaim at *
  obtain ⟨hunknown, hmaterial⟩ := List.append_eq_nil_iff.mp hnone
  rw [hunknown, List.nil_append]
  by_cases hclaim : claim.material = true
  · rw [if_pos hclaim] at hmaterial ⊢
    obtain ⟨hsupport, hcontradiction⟩ := List.append_eq_nil_iff.mp hmaterial
    obtain ⟨hsupport, htainted⟩ := List.append_eq_nil_iff.mp hsupport
    obtain ⟨hobjections, hunsupported⟩ := List.append_eq_nil_iff.mp hsupport
    have hobjections' : supportIssues index terms' claim = [] :=
      supportIssues_eq_nil.mpr fun e he =>
        objection_loosened h (supportIssues_eq_nil.mp hobjections e he)
    have hadmissible : admissible index terms' claim = admissible index terms claim := by
      rw [admissible_eq hobjections, admissible_eq hobjections']
    unfold unsupportedIssue taintedIssue at *
    rw [hobjections', hadmissible, h.tainted, hunsupported, htainted, hcontradiction]
    rfl
  · rw [if_neg hclaim]

end Loosened

def EvidencePolicy.extended (policy : EvidencePolicy) : EvidencePolicy :=
  { policy with
    freshnessDays := policy.freshnessDays + 1
    one_le_freshnessDays := Nat.le_add_left 1 policy.freshnessDays }

/-- The request under a longer freshness window and with one justification more. -/
def RenderCall.loosened (call : RenderCall) (item : ReuseJustification) : RenderCall :=
  { call with
    request :=
      { call.request with
        policy := call.request.policy.extended
        reuseJustifications := call.request.reuseJustifications ++ [item] } }

theorem loosened_terms (call : RenderCall) (item : ReuseJustification) :
    Loosened call.terms (call.loosened item).terms where
  periodStart := rfl
  periodEnd := rfl
  asAt := rfl
  engagementId := rfl
  freshness := Nat.le_succ _
  outOfPeriod := rfl
  crossEngagement := rfl
  tainted := rfl
  justified id h := by
    show ((call.request.reuseJustifications ++ [item]).any _) = true
    rw [List.any_append]
    exact Bool.or_eq_true _ _ |>.mpr (Or.inl h)

theorem loosened_issues {item : ReuseJustification} (h : call.issues = []) :
    (call.loosened item).issues = [] := by
  obtain ⟨hclaims, hsections⟩ := List.append_eq_nil_iff.mp h
  refine List.append_eq_nil_iff.mpr ⟨?_, hsections⟩
  refine List.flatMap_eq_nil_iff.mpr fun claim hclaim => ?_
  exact checkClaim_loosened (loosened_terms call item) (List.flatMap_eq_nil_iff.mp hclaims claim hclaim)

/-- The requests differ in their texts and levels only, not in what the gate reads of them. -/
def SameTerms (r r' : ReportRequest) : Prop :=
  r.policy = r'.policy ∧ r.reuseJustifications = r'.reuseJustifications ∧
  r.claims.map (fun claim => (claim.key, claim.supportingEvidenceIds,
      claim.contradictingEvidenceIds, claim.qualifyingEvidenceIds)) =
    r'.claims.map fun claim => (claim.key, claim.supportingEvidenceIds,
      claim.contradictingEvidenceIds, claim.qualifyingEvidenceIds)

theorem sameTerms_iff {r r' : ReportRequest}
    (h : r.claims.map (fun claim =>
        (claim.key, claim.supportingEvidenceIds, claim.contradictingEvidenceIds)) =
      r'.claims.map fun claim =>
        (claim.key, claim.supportingEvidenceIds, claim.contradictingEvidenceIds)) :
    SameTerms r r' ↔ r.policy = r'.policy ∧ r.reuseJustifications = r'.reuseJustifications ∧
      r.claims.map (·.qualifyingEvidenceIds) = r'.claims.map (·.qualifyingEvidenceIds) := by
  unfold SameTerms
  refine and_congr_right fun _ => and_congr_right fun _ => ?_
  constructor
  · intro hall
    have hqualifying := congrArg (List.map fun t : String × List String × List String ×
      List String => t.2.2.2) hall
    rw [List.map_map, List.map_map] at hqualifying
    exact hqualifying
  · intro hqualifying
    have hlength : r.claims.length = r'.claims.length := by
      simpa using congrArg List.length hqualifying
    refine List.ext_getElem (by simpa using hlength) fun n hn hn' => ?_
    have hn₁ : n < r.claims.length := by simpa using hn
    have hn₂ : n < r'.claims.length := by simpa using hn'
    have hcited := List.getElem_of_eq h (i := n) (by simpa using hn₁)
    have hqualified := List.getElem_of_eq hqualifying (i := n) (by simpa using hn₁)
    simp only [List.getElem_map, Prod.mk.injEq] at hcited hqualified ⊢
    exact ⟨hcited.1, hcited.2.1, hcited.2.2, hqualified⟩

/-- **The terms of a report.**  Two renders with one digest were made on the same terms exactly
when the policies, the justifications and the qualifying citations are the same; and no document
tells: each is also the document of a request with another policy and other justifications. -/
theorem render_terms (hinj : Function.Injective sha256) :
    (∀ call call' document document', render sha256 call = .ok document →
      render sha256 call' = .ok document' →
      JsonText.get document "document_sha256" = JsonText.get document' "document_sha256" →
      (SameTerms call.request call'.request ↔
        call.request.policy = call'.request.policy ∧
        call.request.reuseJustifications = call'.request.reuseJustifications ∧
        call.request.claims.map (·.qualifyingEvidenceIds) =
          call'.request.claims.map (·.qualifyingEvidenceIds))) ∧
    ∀ call document, render sha256 call = .ok document →
      ∃ call' document', render sha256 call' = .ok document' ∧
        JsonText.get document' "document_sha256" = JsonText.get document "document_sha256" ∧
        call'.request.policy ≠ call.request.policy ∧
        call'.request.reuseJustifications ≠ call.request.reuseJustifications := by
  constructor
  · intro call call' document document' h h' hdigest
    exact sameTerms_iff (citations_of_digest hinj h h' hdigest)
  · intro call document h
    obtain ⟨hissues, hdigest⟩ := render_eq_ok h
    have item : ReuseJustification :=
      { evidenceId := "evidence"
        rationale := "It was collected under the same scope."
        approvedBy := "reviewer"
        rationale_length := by decide
        approvedBy_length := by decide }
    have hloosened : (call.loosened item).issues = [] := loosened_issues hissues
    obtain ⟨document', h'⟩ : ∃ document', render sha256 (call.loosened item) = .ok document' :=
      render_of_issues hloosened
    refine ⟨call.loosened item, document', h', ?_, ?_, ?_⟩
    · rw [hdigest, (render_eq_ok h').2]
      rfl
    · intro heq
      have hdays : call.request.policy.freshnessDays + 1 = call.request.policy.freshnessDays :=
        congrArg EvidencePolicy.freshnessDays heq
      omega
    · intro heq
      have hlength := congrArg List.length heq
      have hlonger : (call.loosened item).request.reuseJustifications.length =
          call.request.reuseJustifications.length + 1 := List.length_append
      omega

/-! ### One document, two requests -/

theorem sampleStatement_length : 10 ≤ "All changes were approved.".length := by decide

theorem sampleKey_valid : Orchestration.validKey "changes" = true := by decide

theorem sampleMaterial : ClaimType.observation = .limitation → true = false := by
  intro h
  cases h

theorem sampleConfidence_valid : JsonText.isReal "0.5".toList := by decide

def sampleConfidence : JsonText.FloatLiteral where
  text := "0.5".toList
  valid := Or.inl sampleConfidence_valid

def sampleClaim : ClaimInput where
  key := "changes"
  claimType := .observation
  statement := "All changes were approved."
  confidence := sampleConfidence
  supportingEvidenceIds := ["evidence"]
  key_valid := sampleKey_valid
  statement_length := sampleStatement_length
  limitation_not_material := sampleMaterial

def sampleTemplate : ReportTemplate where
  templateId := "engagement"
  version := "1"
  reportType := .engagementReport
  title := "Engagement report"
  sections := [{ key := "findings", heading := "Findings", claimKeys := ["changes"] }]
  sections_ne_nil := List.cons_ne_nil _ _
  required_defined := List.forall_mem_nil _
  keys_nodup := List.nodup_singleton _

theorem sampleReferenced : ∀ s ∈ sampleTemplate.sections, ∀ key ∈ s.claimKeys,
    key ∈ [sampleClaim].map (·.key) := by
  decide

theorem samplePolicy_days : 1 ≤ 400 := by decide

def sampleRequest (allow : Bool) (reuse : List ReuseJustification) : ReportRequest where
  template := sampleTemplate
  claims := [sampleClaim]
  periodStart := 719163
  periodEnd := 719263
  asAt := 719300
  policy := { allowCrossEngagement := allow, one_le_freshnessDays := samplePolicy_days }
  reuseJustifications := reuse
  preparedBy := "auditor"
  claims_ne_nil := List.cons_ne_nil _ _
  keys_nodup := List.nodup_singleton _
  referenced_supplied := sampleReferenced

def sampleEvidence : EvidenceView where
  evidenceId := "evidence"
  engagementId := some "other"
  sourceType := "upload"
  sourceLocator := "changes.csv"
  classification := "internal"
  accepted := true
  tainted := false
  integrityStatus := "verified"
  deleted := false
  collectedAt := 0
  sourceTime := none
  contentSha256 := "content"

def sampleCall (allow : Bool) (reuse : List ReuseJustification) : RenderCall where
  request := sampleRequest allow reuse
  tenantId := "tenant"
  engagementId := "engagement"
  evidence := [sampleEvidence]

theorem sampleJustification_length :
    20 ≤ "The same system in the same period.".length ∧
      "The same system in the same period.".length ≤ 2000 := by
  decide

theorem sampleApprover_length : 1 ≤ "reviewer".length ∧ "reviewer".length ≤ 128 := by decide

def sampleJustification : ReuseJustification where
  evidenceId := "evidence"
  rationale := "The same system in the same period."
  approvedBy := "reviewer"
  rationale_length := sampleJustification_length
  approvedBy_length := sampleApprover_length

theorem sampleCall_renders (sha256 : Vault.Bytes → String) : ∃ document,
    render sha256 (sampleCall false [sampleJustification]) = .ok document := by
  have hissues : (sampleCall false [sampleJustification]).issues = [] := by decide +kernel
  exact render_of_issues hissues

/-- The report of the justified request is that of another one too. -/
theorem render_terms_sample : ∃ call' document', render Vault.spelled call' = .ok document' ∧
    call'.request.reuseJustifications ≠ [sampleJustification] := by
  obtain ⟨document, h⟩ := sampleCall_renders Vault.spelled
  obtain ⟨call', document', h', -, -, hreuse⟩ :=
    (render_terms Vault.spelled_injective).2 _ document h
  exact ⟨call', document', h', hreuse⟩

/-- Reuse that a policy allows, and reuse that was justified, in one document. -/
theorem same_document_other_terms :
    ¬ ∀ sha256 : Vault.Bytes → String, Function.Injective sha256 →
      ∀ call call' document document', render sha256 call = .ok document →
        render sha256 call' = .ok document' →
        JsonText.get document "document_sha256" = JsonText.get document' "document_sha256" →
        SameTerms call.request call'.request := by
  intro hclaim
  obtain ⟨document, h⟩ := sampleCall_renders Vault.spelled
  obtain ⟨document', h'⟩ : ∃ document', render Vault.spelled (sampleCall true []) = .ok document' :=
    render_of_issues (by decide +kernel)
  have hterms := hclaim Vault.spelled Vault.spelled_injective _ _ document document' h h' (by
    rw [(render_eq_ok h).2, (render_eq_ok h').2]
    rfl)
  have hreuse : [sampleJustification] = ([] : List ReuseJustification) := hterms.2.1
  cases hreuse

end Reporting
