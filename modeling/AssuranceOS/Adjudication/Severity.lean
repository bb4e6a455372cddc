/-
Severities.

The severity of a finding is raised by an assessment to its floor and lowered by
`override_severity`.  An override is compared with the floor of the current
assessment, which the digest of the text identifies: while that assessment carries
no override, the severity is at least its floor; once it carries one, the severity
is the overriding one.  So a second override need not lower anything
(`run_severity`).
-/
import AssuranceOS.Adjudication.Cases

namespace Adjudication

open Checked Table AdjudicationService

section Severities

variable {S : AdjudicationService} {db : Database} {call : Call} {f g : Finding} {c : Change}
  {calls : List Call} {k : CaseFile}

/-- The digest tells texts of a finding apart that differ in the severity. -/
def SeparatesSeverities (S : AdjudicationService) : Prop :=
  ∀ (f : Finding) (s : Severity), S.hashOf { f with severity := s } = S.hashOf f → s = f.severity

theorem escaped_value_injective {s t : Severity}
    (h : Json.escaped s.value = Json.escaped t.value) : s = t := by
  cases s <;> cases t <;> first | rfl | exact absurd h (by decide +kernel)

theorem separatesSeverities (h : Function.Injective S.sha256) : SeparatesSeverities S := by
  intro f s heq
  have htext := h heq
  simp only [Json.objectText, List.map_cons, List.map_nil, String.intercalate_cons_cons,
    String.intercalate_singleton, String.append_assoc, String.append_right_inj,
    String.append_left_inj] at htext
  exact escaped_value_injective htext

theorem Move.hashOf (h : Move S db call f c) (s : Severity) :
    S.hashOf { c.finding.getD f with severity := s } = S.hashOf { f with severity := s } := by
  cases h with
  | assessed request _ _ raised raise _ =>
    rw [raise, Option.getD_some, escalated]
    split <;> rfl
  | decided | overridden | reviewed | disputed | resolved | opened | ticketRefused | ticketFiled
  | submitted | retested | reopened => rfl

/-- An assessment is bound to a text whose severity is at least its floor, or the one
that overrides it. -/
def Bound (S : AdjudicationService) (f : Finding) (a : MaterialityAssessment) : Prop :=
  ∃ s, a.contentHash = S.hashOf { f with severity := s } ∧
    match a.overrideSeverity with
    | some o => s = o
    | none => severityRank a.severityFloor ≤ severityRank s

def AssessmentsBound (S : AdjudicationService) (k : CaseFile) : Prop :=
  ∀ a ∈ k.assessments, Bound S k.finding a

theorem rank_le_escalated (floor : Severity) (f : Finding) :
    severityRank floor ≤ severityRank (escalated floor f).severity ∧
      severityRank f.severity ≤ severityRank (escalated floor f).severity := by
  rw [escalated]
  split
  · exact ⟨le_rfl, le_of_lt ‹_›⟩
  · exact ⟨not_lt.mp ‹_›, le_rfl⟩

theorem Move.assessmentsBound (h : Move S db call f c)
    (hk : AssessmentsBound S (db.caseFile f)) :
    AssessmentsBound S ((db.caseFile f).apply c) := by
  have hkept : ∀ a, Bound S f a → Bound S (c.finding.getD f) a := by
    rintro a ⟨s, hs, hseverity⟩
    exact ⟨s, hs.trans (h.hashOf s).symm, hseverity⟩
  cases h with
  | assessed request _ _ raised raise _ =>
    intro a ha
    rcases List.mem_append.mp ha with hold | hnew
    · exact hkept a (hk a hold)
    · obtain rfl := List.mem_singleton.mp hnew
      refine ⟨raised.severity, rfl, ?_⟩
      show severityRank (assess request.inputs (request.policy.getD defaultPolicy)).severityFloor ≤ _
      rw [raise]
      exact (rank_le_escalated _ f).1
  | overridden request _ _ _ assessment _ _ _ =>
    intro a ha
    rcases eq_or_mem_of_mem_put ha with hrow | ⟨hold, -⟩
    · rw [hrow]
      exact ⟨request.severity, rfl, rfl⟩
    · exact hkept a (hk a hold)
  | decided | reviewed | disputed | resolved | opened | ticketRefused | ticketFiled | submitted
  | retested | reopened => exact fun a ha => hkept a (hk a ha)

theorem run_assessmentsBound (hdb : Fresh db) (hf : f ∈ (run S db calls).findings) :
    AssessmentsBound S ((run S db calls).caseFile f) := by
  refine run_caseFile_always (P := AssessmentsBound S) ?_ ?_ hdb hf
  · intro f decisions _ _ a ha
    exact absurd ha List.not_mem_nil
  · intro db call f c hmove hk
    exact hmove.assessmentsBound hk

/-- The current assessment, read back: the severity is at least the floor, or it is
the overriding one. -/
theorem Bound.severity {a : MaterialityAssessment} (h : Bound S f a) (hS : SeparatesSeverities S)
    (hcurrent : a.contentHash = S.hashOf f) :
    match a.overrideSeverity with
    | some o => f.severity = o
    | none => severityRank a.severityFloor ≤ severityRank f.severity := by
  obtain ⟨s, hs, hseverity⟩ := h
  have hsame : s = f.severity := hS f s (hs.symm.trans hcurrent)
  rw [hsame] at hseverity
  exact hseverity

/-- The call is an accepted override of `f`, and `g` is what becomes of `f`. -/
structure Overrides (S : AdjudicationService) (db : Database) (call : Call)
    (request : SeverityOverrideRequest) (f g : Finding) : Prop where
  op : call.op = .overrideSeverity f.tenantId request
  accepted : (call.exec S db).isOk
  before : f ∈ db.findings
  target : f.findingId = request.findingId
  after : g ∈ (step S db call).findings
  same : g.findingId = f.findingId

/-- The requested severity is below the one that the current assessment carries as an
override already. -/
def BelowEarlierOverride (S : AdjudicationService) (db : Database) (f : Finding)
    (request : SeverityOverrideRequest) : Prop :=
  ∀ a ∈ db.latestAssessment f.tenantId f.findingId (S.hashOf f), ∀ o ∈ a.overrideSeverity,
    severityRank request.severity < severityRank o

/-- Exactly these overrides lower a severity, and nothing but an override does. -/
structure LowersByOverride (S : AdjudicationService) (db : Database) (call : Call) : Prop where
  overrides : ∀ request f g, Overrides S db call request f g →
    (severityRank g.severity < severityRank f.severity ↔ BelowEarlierOverride S db f request)
  others : ∀ f ∈ db.findings, ∀ g ∈ (step S db call).findings, g.findingId = f.findingId →
    severityRank g.severity < severityRank f.severity → ∃ request, Overrides S db call request f g

variable {request : SeverityOverrideRequest}

/-- An override sets the severity that was requested, below the floor of the current
assessment. -/
theorem Overrides.severity (h : Overrides S db call request f g) (hw : WellFormed db) :
    g.severity = request.severity ∧
      ∃ a, db.latestAssessment f.tenantId f.findingId (S.hashOf f) = some a ∧
        severityRank request.severity < severityRank a.severityFloor := by
  obtain ⟨now, hex, op⟩ := call
  obtain ⟨hop, haccepted, hf, hid, hg, hsame⟩ := h
  obtain rfl : op = _ := hop
  cases hexec : Call.exec S db ⟨now, hex, .overrideSeverity f.tenantId request⟩ with
  | error e =>
    rw [hexec] at haccepted
    exact absurd haccepted (by simp [Except.isOk, Except.toBool])
  | ok db' =>
    rw [step, hexec] at hg
    obtain ⟨⟨db₁, r⟩, hrun, rfl⟩ := map_eq_ok.mp hexec
    obtain ⟨f₁, hf₁, -, hid₁, a, hcurrent, c, move, hfinding, hbelow, events, outbox, rfl⟩ :=
      overrideSeverity_eq_ok hrun
    obtain rfl := hw.eq_of_findingId hf₁ hf (hid₁.trans hid.symm)
    refine ⟨?_, a, hcurrent, hbelow⟩
    have hmem : g ∈ (c.apply db).findings := hg
    rcases (move.legal.mem_findings hw hf₁).mp hmem with hrow | ⟨hold, hne⟩
    · rw [hrow, hfinding]
      rfl
    · exact absurd (hw.eq_of_findingId hold hf₁ hsame) hne

theorem Overrides.lowers_iff (h : Overrides S db call request f g) (hw : WellFormed db)
    (hS : SeparatesSeverities S) (hk : AssessmentsBound S (db.caseFile f)) :
    severityRank g.severity < severityRank f.severity ↔ BelowEarlierOverride S db f request := by
  obtain ⟨hset, a, hcurrent, hbelow⟩ := h.severity hw
  obtain ⟨hmem, hdigest⟩ := latestAssessment_eq_some hcurrent
  have hseverity := (hk a hmem).severity hS hdigest
  rw [hset, BelowEarlierOverride, hcurrent]
  cases ho : a.overrideSeverity with
  | none =>
    rw [ho] at hseverity
    have hlower : severityRank request.severity < severityRank f.severity :=
      hbelow.trans_le hseverity
    simp [ho, hlower]
  | some o =>
    rw [ho] at hseverity
    have hsame : f.severity = o := hseverity
    simp [ho, hsame]

theorem Move.lowers (h : Move S db call f c)
    (hlow : severityRank (c.finding.getD f).severity < severityRank f.severity) :
    ∃ request, call.op = .overrideSeverity f.tenantId request ∧
      f.findingId = request.findingId := by
  cases h with
  | overridden request op target => exact ⟨request, op, target⟩
  | assessed request _ _ raised raise _ =>
    rw [raise] at hlow
    exact absurd hlow (not_lt.mpr (rank_le_escalated _ f).2)
  | decided | reviewed | disputed | resolved | opened | ticketRefused | ticketFiled | submitted
  | retested | reopened => exact absurd hlow (lt_irrefl _)

/-- **Severities.**  At every step of every run, an accepted override lowers the
severity of its finding exactly when the current assessment carries no override, or one
above the requested severity; no other operation lowers a severity. -/
theorem run_severity (hS : SeparatesSeverities S) (hdb : Fresh db) (calls : List Call) :
    Runs.EachStep (step S) (LowersByOverride S) db calls := by
  rw [Runs.eachStep_iff]
  intro before call after heq
  have hw : WellFormed (run S db before) := run_wellFormed hdb before
  constructor
  · intro request f g h
    exact h.lowers_iff hw hS (run_assessmentsBound hdb h.before)
  · intro f hf g hg hid hlow
    rcases step_finding hw hf hg hid with rfl | ⟨c, move, rfl⟩
    · exact absurd hlow (lt_irrefl _)
    · obtain ⟨request, hop, htarget⟩ := move.lowers hlow
      refine ⟨request, hop, ?_, hf, htarget, hg, hid⟩
      show (call.exec S (run S db before)).isOk = true
      cases hexec : call.exec S (run S db before) with
      | ok => rfl
      | error e =>
        -- a refused call leaves the finding as it is
        have hstep : step S (run S db before) call = run S db before := by rw [step, hexec]
        have hkept : c.finding.getD f ∈ (run S db before).findings := hstep ▸ hg
        have hsame := hw.eq_of_findingId hkept hf hid
        rw [hsame] at hlow
        exact absurd hlow (lt_irrefl _)

def sampleOverride (n : Nat) (severity : Severity) : Call :=
  sampleCall n (.overrideSeverity "tenant"
    { findingId := "fnd_1", severity := severity, actorId := "lead", actorId_length := lead_length
      reason := "known exposure" })

/-- A finding whose assessment has the floor `critical` is overridden to low. -/
def overriddenSample : List Call :=
  [sampleCall 1 (.propose "tenant" "engagement" sampleProposal "author" none []),
    sampleCall 2 (.assessMateriality "tenant"
      { findingId := "fnd_1", assessedBy := "analyst", assessedBy_length := analyst_length
        inputs := { sampleInputs with
          factors := [⟨.fraudIndicator, "bribe", ["e1"], by decide,
            sampleProposal.must_cite_evidence⟩]
          factors_nodup := by decide } }),
    sampleOverride 3 .low]

/-- The next override, which is below the floor again, raises the severity. -/
theorem second_override_raises :
    ¬ Runs.EachStep (step sampleService)
      (fun db call => ∀ request f g, Overrides sampleService db call request f g →
        severityRank g.severity < severityRank f.severity)
      sampleDatabase (overriddenSample ++ [sampleOverride 4 .high]) := by
  intro h
  have hraises : ∃ f ∈ (run sampleService sampleDatabase overriddenSample).findings,
      ∃ g ∈ (run sampleService sampleDatabase
        (overriddenSample ++ [sampleOverride 4 .high])).findings,
        f.owner = ("tenant", "fnd_1") ∧ g.findingId = f.findingId ∧ f.severity = .low ∧
          g.severity = .high := by decide +kernel
  have haccepted : ((sampleOverride 4 .high).exec sampleService
      (run sampleService sampleDatabase overriddenSample)).isOk := by decide +kernel
  obtain ⟨f, hf, g, hg, howner, hid, hlow, hhigh⟩ := hraises
  obtain ⟨htenant, hfinding⟩ := Prod.ext_iff.mp howner
  rw [run_concat] at hg
  have hop : (sampleOverride 4 .high).op = .overrideSeverity f.tenantId
      { findingId := "fnd_1", severity := .high, actorId := "lead"
        reason := "known exposure" } := by
    rw [show f.tenantId = "tenant" from htenant]
    rfl
  have hlower := (Runs.eachStep_append.mp h).2.1 _ f g ⟨hop, haccepted, hf, hfinding, hg, hid⟩
  rw [hlow, hhigh] at hlower
  exact absurd hlower (by decide)

theorem run_severity_overridden :
    Function.Injective sampleService.sha256 ∧
    (∃ f ∈ (run sampleService sampleDatabase overriddenSample).findings, f.severity = .low) ∧
    Runs.EachStep (step sampleService) (LowersByOverride sampleService) sampleDatabase
      overriddenSample := by
  have hinjective : Function.Injective sampleService.sha256 := Function.injective_id
  exact ⟨hinjective, by decide +kernel,
    run_severity (separatesSeverities hinjective) sampleDatabase_fresh overriddenSample⟩

end Severities

end Adjudication
