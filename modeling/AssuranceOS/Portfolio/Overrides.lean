/-
Official ratings over a run of assessments and decisions on one risk.

`Database.Sound` is what every call keeps: an assessment has an official rating exactly when the outbox
holds its override event, and the key of that event names nothing but the assessment.  So a call
succeeds exactly when it is `Ready` (`call_iff`), and `overrides_iff` carries this over a run.
-/
import AssuranceOS.Orchestration.Ledger
import AssuranceOS.Portfolio.Register
import AssuranceOS.Portfolio.ScoreLaws

namespace Portfolio

open Adjudication (newId head?_orderByDesc_iff)
open Orchestration (le_foldr_max)
open Checked Runs

variable {id id' : String}

theorem overrideKey_inj : overrideKey id = overrideKey id' ↔ id = id' :=
  ⟨fun h => String.append_right_inj _ |>.mp h, congrArg _⟩

theorem assessedKey_inj : assessedKey id = assessedKey id' ↔ id = id' :=
  ⟨fun h => String.append_right_inj _ |>.mp h, congrArg _⟩

theorem overrideKey_ne (id id' : String) : overrideKey id ≠ assessedKey id' := by
  intro h
  have hchars := congrArg String.toList h
  simp [overrideKey, assessedKey] at hchars

namespace Database

def Overridden (db : Database) (a : RiskAssessment) : Prop :=
  ∃ e ∈ db.outbox, e.tenantId = a.tenantId ∧ e.idempotencyKey = overrideKey a.assessmentId

/-- What the constraints of the tables and the two calls keep. -/
structure Sound (db : Database) : Prop where
  risk_nodup : (db.risks.map (·.riskId)).Nodup
  risk_tenant : ∀ r ∈ db.risks, r.tenantId ∈ db.tenants
  assessment_nodup : (db.assessments.map (·.assessmentId)).Nodup
  assessment_tenant : ∀ a ∈ db.assessments, ∀ r ∈ db.risks, a.riskId = r.riskId →
    a.tenantId = r.tenantId
  version_unique : ∀ a ∈ db.assessments, ∀ b ∈ db.assessments, a.riskId = b.riskId →
    a.version = b.version → a = b
  overridden : ∀ a ∈ db.assessments, db.Overridden a ↔ a.officialRating ≠ none
  known : ∀ e ∈ db.outbox, ∀ id, e.idempotencyKey = overrideKey id ∨
    e.idempotencyKey = assessedKey id → id ∈ db.assessments.map (·.assessmentId)

end Database

section Insertions

variable {db db' : Database} {ambient : Ambient} {tenantId : String}

theorem nextSequence_ne (db : Database) (tenantId streamId : String) : ∀ x ∈ db.auditEvents,
    (x.tenantId, x.streamId, x.sequenceNo) ≠
      (tenantId, streamId, db.nextSequence tenantId streamId) := by
  intro x hx heq
  simp only [Prod.mk.injEq] at heq
  obtain ⟨htenant, hstream, hsequence⟩ := heq
  have hmem : x ∈ db.auditEvents.filter fun e => e.tenantId = tenantId ∧ e.streamId = streamId :=
    List.mem_filter.mpr ⟨hx, by simp [htenant, hstream]⟩
  have hle := le_foldr_max (List.mem_map_of_mem (f := (·.sequenceNo)) hmem)
  unfold Database.nextSequence at hsequence
  omega

theorem lt_nextAssessmentVersion {a : RiskAssessment} (ha : a ∈ db.assessments) :
    a.version < db.nextAssessmentVersion a.riskId := by
  have hmem : a ∈ db.assessments.filter fun b => b.riskId = a.riskId :=
    List.mem_filter.mpr ⟨ha, by simp⟩
  have hle := le_foldr_max (List.mem_map_of_mem (f := (·.version)) hmem)
  unfold Database.nextAssessmentVersion
  omega

/-- The ids that a call draws for its two events are new. -/
structure FreshEvents (db : Database) (ambient : Ambient) : Prop where
  event : newId ambient.hex "evt" ∉ db.auditEvents.map (·.eventId)
  outbox : newId ambient.hex "obx" ∉ db.outbox.map (·.outboxId)

instance (db : Database) (ambient : Ambient) : Decidable (FreshEvents db ambient) :=
  decidable_of_iff (newId ambient.hex "evt" ∉ db.auditEvents.map (·.eventId) ∧
    newId ambient.hex "obx" ∉ db.outbox.map (·.outboxId)) ⟨fun h => ⟨h.1, h.2⟩, fun h => ⟨h.1, h.2⟩⟩

theorem appendEvent_eq_ok {e : AuditEvent} : db.appendEvent e = .ok db' ↔
    e.tenantId ∈ db.tenants ∧ (∀ x ∈ db.auditEvents,
      (x.tenantId, x.streamId, x.sequenceNo) ≠ (e.tenantId, e.streamId, e.sequenceNo)) ∧
      e.eventId ∉ db.auditEvents.map (·.eventId) ∧
      db' = { db with auditEvents := db.auditEvents ++ [e] } := by
  unfold Database.appendEvent
  simp only [require_bind_eq_ok, ofOption_bind_eq_ok, Table.insert?_eq_some]
  constructor
  · rintro ⟨htenant, hsequence, rows, ⟨hid, rfl⟩, h⟩
    cases h
    exact ⟨htenant, hsequence, hid, rfl⟩
  · rintro ⟨htenant, hsequence, hid, rfl⟩
    exact ⟨htenant, hsequence, _, ⟨hid, rfl⟩, rfl⟩

theorem addOutbox_eq_ok {e : OutboxEvent} : db.addOutbox e = .ok db' ↔
    e.tenantId ∈ db.tenants ∧ (∀ o ∈ db.outbox,
      (o.tenantId, o.idempotencyKey) ≠ (e.tenantId, e.idempotencyKey)) ∧
      e.outboxId ∉ db.outbox.map (·.outboxId) ∧ db' = { db with outbox := db.outbox ++ [e] } := by
  unfold Database.addOutbox
  simp only [require_bind_eq_ok, ofOption_bind_eq_ok, Table.insert?_eq_some]
  constructor
  · rintro ⟨htenant, hkey, rows, ⟨hid, rfl⟩, h⟩
    cases h
    exact ⟨htenant, hkey, hid, rfl⟩
  · rintro ⟨htenant, hkey, hid, rfl⟩
    exact ⟨htenant, hkey, _, ⟨hid, rfl⟩, rfl⟩

variable {aggregateType aggregateId eventType key : String} {payload : Payload}

theorem emit_eq_ok
    (h : emit db ambient tenantId aggregateType aggregateId eventType payload key = .ok db') :
    (∀ o ∈ db.outbox, ¬ (o.tenantId = tenantId ∧ o.idempotencyKey = key)) ∧
      ∃ event, ∃ e : OutboxEvent, e.tenantId = tenantId ∧ e.aggregateType = aggregateType ∧
        e.aggregateId = aggregateId ∧ e.eventType = eventType ∧ e.idempotencyKey = key ∧
        db' = { db with
          auditEvents := db.auditEvents ++ [event]
          outbox := db.outbox ++ [e] } := by
  obtain ⟨db₁, hevent, houtbox⟩ := bind_eq_ok.mp h
  obtain ⟨-, -, -, rfl⟩ := appendEvent_eq_ok.mp hevent
  obtain ⟨-, hkey, -, rfl⟩ := addOutbox_eq_ok.mp houtbox
  refine ⟨fun o ho hsame => hkey o ho (Prod.ext hsame.1 hsame.2), ?_⟩
  exact ⟨_, _, rfl, rfl, rfl, rfl, rfl, rfl⟩

theorem exists_emit (htenant : tenantId ∈ db.tenants) (hfresh : FreshEvents db ambient)
    (hkey : ∀ o ∈ db.outbox, ¬ (o.tenantId = tenantId ∧ o.idempotencyKey = key)) :
    ∃ db', emit db ambient tenantId aggregateType aggregateId eventType payload key = .ok db' := by
  refine ⟨_, bind_eq_ok.mpr ⟨_, appendEvent_eq_ok.mpr ⟨htenant, ?_, hfresh.event, rfl⟩,
    addOutbox_eq_ok.mpr ⟨htenant, ?_, hfresh.outbox, rfl⟩⟩⟩
  · exact nextSequence_ne db tenantId _
  · intro o ho hsame
    exact hkey o ho (Prod.mk.inj hsame)

end Insertions

namespace Database

/-- The code of the risk belongs to this id. -/
def Registered (db : Database) (tenantId code riskId : String) : Prop :=
  ∃ risk, db.riskByCode tenantId code = some risk ∧ risk.riskId = riskId

def officialRating (db : Database) (riskId : String) : Option String :=
  (db.latestAssessment riskId).bind (·.officialRating)

end Database

section Lookups

variable {db : Database} {tenantId code riskId : String} {risk : Risk} {a : RiskAssessment}

theorem riskByCode_eq_some (h : db.riskByCode tenantId code = some risk) :
    risk ∈ db.risks ∧ risk.tenantId = tenantId ∧ risk.code = code := by
  have hfound := List.find?_some h
  simp only [decide_eq_true_eq] at hfound
  exact ⟨List.mem_of_find?_eq_some h, hfound⟩

theorem latestAssessment_iff (hsound : db.Sound) :
    db.latestAssessment riskId = some a ↔ a ∈ db.assessments ∧ a.riskId = riskId ∧
      ∀ b ∈ db.assessments, b.riskId = riskId → b.version ≤ a.version := by
  unfold Database.latestAssessment
  rw [head?_orderByDesc_iff]
  · simp [and_assoc]
  · intro x hx y hy hversion
    simp only [List.mem_filter, decide_eq_true_eq] at hx hy
    exact hsound.version_unique x hx.1 y hy.1 (hx.2.trans hy.2.symm) hversion

theorem officialRating_of_latest (hsound : db.Sound) (ha : a ∈ db.assessments)
    (hof : a.riskId = riskId) (hmax : ∀ b ∈ db.assessments, b.riskId = riskId →
      b.version ≤ a.version) : db.officialRating riskId = a.officialRating := by
  unfold Database.officialRating
  rw [(latestAssessment_iff hsound).mpr ⟨ha, hof, hmax⟩]
  rfl

end Lookups

/-! ### Calls on one risk -/

/-- A call with everything it gets from outside; the risk is given apart. -/
inductive Op where
  | assess (ambient : Ambient) (factors : RiskFactors) (assessedBy : String) (asAt : Date)
      (policy : Option ScoringPolicy)
  | setRating (ambient : Ambient) (rating actorId reason : String)

namespace Op

/-- The official rating of the latest assessment after the call: a new assessment has none. -/
def rating : Op → Option String
  | .assess .. => none
  | .setRating _ rating _ _ => some rating

def eventType : Op → String
  | .assess .. => "risk.assessed"
  | .setRating .. => "risk.rating_overridden"

/-- A rating is set by a human. -/
def ByHuman (S : PortfolioService) : Op → Prop
  | .assess .. => True
  | .setRating _ _ actorId _ => S.isAutomated actorId = false

instance (S : PortfolioService) : DecidablePred (ByHuman S)
  | .assess .. => isTrue trivial
  | .setRating _ _ actorId _ => inferInstanceAs (Decidable (S.isAutomated actorId = false))

/-- The new ids of the call are not in use. -/
def Fresh (db : Database) : Op → Prop
  | .assess ambient .. =>
    newId ambient.hex "rsa" ∉ db.assessments.map (·.assessmentId) ∧ FreshEvents db ambient
  | .setRating ambient .. => FreshEvents db ambient

/-- The factors are scored, or the latest assessment has no official rating. -/
def Ready (riskId : String) (db : Database) : Op → Prop
  | .assess _ factors _ asAt policy =>
    (Rating.ofName (ratingFor (residual factors (policy.getD defaultPolicy) asAt)
      (policy.getD defaultPolicy))).isSome
  | .setRating .. => ∃ a ∈ db.latestAssessment riskId, a.officialRating = none

instance (db : Database) : ∀ op, Decidable (Fresh db op)
  | .assess .. => inferInstanceAs (Decidable (_ ∧ _))
  | .setRating ambient .. => inferInstanceAs (Decidable (FreshEvents db ambient))

instance (riskId : String) (db : Database) : ∀ op, Decidable (Ready riskId db op)
  | .assess .. => inferInstanceAs (Decidable (Option.isSome _ = true))
  | .setRating .. => inferInstanceAs (Decidable (∃ a ∈ db.latestAssessment riskId, _))

/-- The outbox event of the call. -/
structure Recorded (tenantId riskId : String) (op : Op) (e : OutboxEvent) : Prop where
  tenant : e.tenantId = tenantId
  aggregate : e.aggregateType = "risk" ∧ e.aggregateId = riskId
  eventType : e.eventType = op.eventType

end Op

namespace PortfolioService

variable (S : PortfolioService) (tenantId code : String)

def call (db : Database) : Op → Except PortfolioError Database
  | .assess ambient factors assessedBy asAt policy =>
    (assessRisk db ambient tenantId code factors assessedBy asAt policy).map Prod.snd
  | .setRating ambient rating actorId reason =>
    (S.setOfficialRating db ambient tenantId code rating actorId reason).map Prod.snd

/-- A call that raises changes nothing. -/
def step (db : Database) (op : Op) : Database :=
  match S.call tenantId code db op with
  | .ok db' => db'
  | .error _ => db

end PortfolioService

/-- What a call that succeeds leaves. -/
structure Effect (tenantId code riskId : String) (db : Database) (op : Op) (db' : Database) :
    Prop where
  sound : db'.Sound
  registered : db'.Registered tenantId code riskId
  official : db'.officialRating riskId = op.rating
  event : ∃ e, db'.outbox = db.outbox ++ [e] ∧ op.Recorded tenantId riskId e

section Steps

variable {S : PortfolioService} {db db' : Database} {ambient : Ambient}
  {tenantId code riskId : String} {risk : Risk}

variable {rating actorId reason : String} {a row : RiskAssessment}

theorem setOfficialRating_eq_ok {result : RiskAssessment × Database} :
    S.setOfficialRating db ambient tenantId code rating actorId reason = .ok result ↔
      S.isAutomated actorId = false ∧ ∃ risk, db.riskByCode tenantId code = some risk ∧
        ∃ a, db.latestAssessment risk.riskId = some a ∧ ∃ db',
          emit (db.putAssessment (a.setAside rating reason actorId)) ambient tenantId "risk"
            risk.riskId "risk.rating_overridden"
            (.ratingOverridden risk.riskId code a.rating rating actorId reason)
            (overrideKey a.assessmentId) = .ok db' ∧
          result = (a.setAside rating reason actorId, db') := by
  unfold PortfolioService.setOfficialRating requireRisk
  simp only [require_bind_eq_ok, ofOption_bind_eq_ok]
  refine and_congr_right fun _ => exists_congr fun risk => and_congr_right fun _ =>
    exists_congr fun a => and_congr_right fun _ => ?_
  rw [bind_eq_ok]
  refine exists_congr fun db' => and_congr_right fun _ => ?_
  constructor
  · rintro h
    cases h
    rfl
  · rintro rfl
    rfl

/-- The outbox has no event with the override key of an assessment without an official rating. -/
theorem overrideKey_free (hsound : db.Sound) (hrisk : db.riskByCode tenantId code = some risk)
    (ha : db.latestAssessment risk.riskId = some a) :
    a.officialRating = none ↔ ∀ o ∈ db.outbox,
      ¬ (o.tenantId = tenantId ∧ o.idempotencyKey = overrideKey a.assessmentId) := by
  obtain ⟨hmem, htenant, -⟩ := riskByCode_eq_some hrisk
  obtain ⟨hin, hof, -⟩ := (latestAssessment_iff hsound).mp ha
  have hoverridden := hsound.overridden a hin
  unfold Database.Overridden at hoverridden
  rw [hsound.assessment_tenant a hin risk hmem hof, htenant] at hoverridden
  rw [← not_iff_not, ← Ne, ← hoverridden]
  push Not
  rfl

theorem setOfficialRating_iff (hsound : db.Sound) (hrisk : db.riskByCode tenantId code = some risk)
    (hfresh : FreshEvents db ambient) (hhuman : S.isAutomated actorId = false) :
    (∃ result, S.setOfficialRating db ambient tenantId code rating actorId reason = .ok result) ↔
      ∃ a ∈ db.latestAssessment risk.riskId, a.officialRating = none := by
  simp only [setOfficialRating_eq_ok]
  constructor
  · rintro ⟨-, -, risk', hrisk', a, ha, db', hemit, -⟩
    rw [hrisk, Option.some_inj] at hrisk'
    subst hrisk'
    exact ⟨a, ha, (overrideKey_free hsound hrisk ha).mpr (emit_eq_ok hemit).1⟩
  · rintro ⟨a, ha, hnone⟩
    obtain ⟨hmem, htenant, -⟩ := riskByCode_eq_some hrisk
    -- writing the assessment leaves the events and the tenants as they are
    have hheld : tenantId ∈ (db.putAssessment (a.setAside rating reason actorId)).tenants :=
      htenant ▸ hsound.risk_tenant risk hmem
    have hput : FreshEvents (db.putAssessment (a.setAside rating reason actorId)) ambient :=
      ⟨hfresh.event, hfresh.outbox⟩
    have hkey : ∀ o ∈ (db.putAssessment (a.setAside rating reason actorId)).outbox,
        ¬ (o.tenantId = tenantId ∧ o.idempotencyKey = overrideKey a.assessmentId) :=
      (overrideKey_free hsound hrisk ha).mp hnone
    obtain ⟨db', hemit⟩ := exists_emit hheld hput hkey
    exact ⟨_, hhuman, risk, hrisk, a, ha, db', hemit, rfl⟩

theorem mem_setAside (hsound : db.Sound) {x : RiskAssessment} (ha : a ∈ db.assessments) :
    x ∈ Table.put RiskAssessment.assessmentId (a.setAside rating reason actorId) db.assessments ↔
      x = a.setAside rating reason actorId ∨ x ∈ db.assessments ∧ x ≠ a :=
  Table.mem_put hsound.assessment_nodup ha rfl

variable {e : OutboxEvent} {r : Risk}

theorem Database.Sound.setAside (hsound : db.Sound) (ha : a ∈ db.assessments)
    (htenant : e.tenantId = a.tenantId) (hkey : e.idempotencyKey = overrideKey a.assessmentId)
    (rating reason actorId : String) (events : List AuditEvent) :
    Database.Sound { db with
      assessments :=
        Table.put RiskAssessment.assessmentId (a.setAside rating reason actorId) db.assessments
      auditEvents := events
      outbox := db.outbox ++ [e] } where
  risk_nodup := hsound.risk_nodup
  risk_tenant := hsound.risk_tenant
  assessment_nodup := by
    rw [Table.map_put_key]
    exact hsound.assessment_nodup
  assessment_tenant x hx := by
    rcases (mem_setAside hsound ha).mp hx with rfl | ⟨hold, -⟩
    · exact hsound.assessment_tenant a ha
    · exact hsound.assessment_tenant x hold
  version_unique x hx y hy hrisk hversion := by
    rcases (mem_setAside hsound ha).mp hx with rfl | ⟨hx, hxa⟩
    · rcases (mem_setAside hsound ha).mp hy with rfl | ⟨hy, hya⟩
      · rfl
      · exact absurd (hsound.version_unique a ha y hy hrisk hversion).symm hya
    · rcases (mem_setAside hsound ha).mp hy with rfl | ⟨hy, -⟩
      · exact absurd (hsound.version_unique x hx a ha hrisk hversion) hxa
      · exact hsound.version_unique x hx y hy hrisk hversion
  overridden x hx := by
    rcases (mem_setAside hsound ha).mp hx with rfl | ⟨hold, hne⟩
    · exact iff_of_true ⟨e, by simp, htenant, hkey⟩ (by simp [RiskAssessment.setAside])
    · rw [← hsound.overridden x hold]
      constructor
      · rintro ⟨o, ho, hotenant, hokey⟩
        rcases List.mem_append.mp ho with ho | ho
        · exact ⟨o, ho, hotenant, hokey⟩
        · rw [List.mem_singleton.mp ho, hkey, overrideKey_inj] at hokey
          exact absurd (Table.eq_of_key_eq hsound.assessment_nodup hold ha hokey.symm) hne
      · rintro ⟨o, ho, hsame⟩
        exact ⟨o, List.mem_append_left _ ho, hsame⟩
  known o ho id hid := by
    rw [Table.map_put_key]
    rcases List.mem_append.mp ho with hold | hnew
    · exact hsound.known o hold id hid
    · rw [List.mem_singleton.mp hnew, hkey] at hid
      rcases hid with hsame | hother
      · rw [← overrideKey_inj.mp hsame]
        exact List.mem_map_of_mem ha
      · exact absurd hother (overrideKey_ne _ _)

theorem setOfficialRating_effect (hsound : db.Sound)
    (hregistered : db.Registered tenantId code riskId)
    (h : S.setOfficialRating db ambient tenantId code rating actorId reason = .ok (a, db')) :
    Effect tenantId code riskId db (.setRating ambient rating actorId reason) db' := by
  obtain ⟨risk, hrisk, rfl⟩ := hregistered
  obtain ⟨-, risk', hrisk', latest, hlatest, db₁, hemit, heq⟩ := setOfficialRating_eq_ok.mp h
  cases heq
  rw [hrisk, Option.some_inj] at hrisk'
  subst hrisk'
  obtain ⟨hmem, htenant, -⟩ := riskByCode_eq_some hrisk
  obtain ⟨hin, hof, hmax⟩ := (latestAssessment_iff hsound).mp hlatest
  obtain ⟨-, event, e, hetenant, htype, hid, hevent, hkey, rfl⟩ := emit_eq_ok hemit
  have hsame : e.tenantId = latest.tenantId := by
    rw [hetenant, hsound.assessment_tenant latest hin risk hmem hof, htenant]
  have hsound' := hsound.setAside hin hsame hkey rating reason actorId
    (db.auditEvents ++ [event])
  have hnew : latest.setAside rating reason actorId ∈
      Table.put RiskAssessment.assessmentId (latest.setAside rating reason actorId)
        db.assessments :=
    (mem_setAside hsound hin).mpr (Or.inl rfl)
  refine ⟨hsound', ⟨risk, hrisk, rfl⟩, ?_, e, rfl, hetenant, ⟨htype, hid⟩, hevent⟩
  refine officialRating_of_latest hsound' hnew hof fun b hb hbrisk => ?_
  rcases (mem_setAside hsound hin).mp hb with rfl | ⟨hold, -⟩
  · exact le_rfl
  · exact hmax b hold hbrisk

/-! ### An assessment -/

theorem addAssessment_eq_ok : db.addAssessment a = .ok db' ↔
    (a.tenantId ∈ db.tenants ∧ a.riskId ∈ db.risks.map (·.riskId)) ∧
      (InUnit a.confidence ∧ InUnit a.residual) ∧
      (∀ b ∈ db.assessments, (b.riskId, b.version) ≠ (a.riskId, a.version)) ∧
      a.assessmentId ∉ db.assessments.map (·.assessmentId) ∧
      db' = { db with assessments := db.assessments ++ [a] } := by
  unfold Database.addAssessment
  simp only [require_bind_eq_ok, ofOption_bind_eq_ok, Table.insert?_eq_some]
  constructor
  · rintro ⟨hkeys, hunit, hversion, rows, ⟨hid, rfl⟩, h⟩
    cases h
    exact ⟨hkeys, hunit, hversion, hid, rfl⟩
  · rintro ⟨hkeys, hunit, hversion, hid, rfl⟩
    exact ⟨hkeys, hunit, hversion, _, ⟨hid, rfl⟩, rfl⟩

theorem putRisk_eq_ok : db.putRisk r = .ok db' ↔
    InUnit r.confidence ∧ db' = { db with risks := Table.put Risk.riskId r db.risks } := by
  unfold Database.putRisk
  rw [require_bind_eq_ok]
  refine and_congr_right fun _ => ?_
  constructor
  · intro h
    cases h
    rfl
  · rintro rfl
    rfl

variable {factors : RiskFactors} {assessedBy : String} {asAt : Date} {policy : Option ScoringPolicy}

def newAssessment (db : Database) (ambient : Ambient) (tenantId : String) (risk : Risk)
    (factors : RiskFactors) (policy : Option ScoringPolicy) (result : RiskScore)
    (assessedBy : String) (asAt : Date) : RiskAssessment :=
  assessmentOf ambient tenantId risk.riskId (db.nextAssessmentVersion risk.riskId) factors
    (policy.getD defaultPolicy) result assessedBy asAt

theorem assessRisk_eq_ok :
    assessRisk db ambient tenantId code factors assessedBy asAt policy = .ok (row, db') ↔
      ∃ result, score factors (policy.getD defaultPolicy) asAt = .ok result ∧
        ∃ risk, db.riskByCode tenantId code = some risk ∧
          row = newAssessment db ambient tenantId risk factors policy result assessedBy asAt ∧
          ∃ db₁, db.addAssessment row = .ok db₁ ∧
            ∃ db₂, db₁.putRisk (risk.scored factors result) = .ok db₂ ∧
              emit db₂ ambient tenantId "risk" risk.riskId "risk.assessed"
                (.assessed risk.riskId code row.version result.inherent result.residual
                  result.rating result.confidence result.auditPriority
                  result.components.untestedControls assessedBy)
                (assessedKey row.assessmentId) = .ok db' := by
  unfold assessRisk requireRisk
  dsimp only
  rw [bind_eq_ok]
  simp only [mapError_eq_ok]
  refine exists_congr fun result => and_congr_right fun _ => ?_
  rw [ofOption_bind_eq_ok]
  refine exists_congr fun risk => and_congr_right fun _ => ?_
  simp only [bind_eq_ok]
  constructor
  · rintro ⟨db₁, hadd, db₂, hput, db₃, hemit, h⟩
    cases h
    exact ⟨rfl, db₁, hadd, db₂, hput, hemit⟩
  · rintro ⟨rfl, db₁, hadd, db₂, hput, hemit⟩
    exact ⟨db₁, hadd, db₂, hput, db', hemit, rfl⟩

theorem assessRisk_iff (hsound : db.Sound) (hrisk : db.riskByCode tenantId code = some risk)
    (hid : newId ambient.hex "rsa" ∉ db.assessments.map (·.assessmentId))
    (hfresh : FreshEvents db ambient) :
    (∃ result, assessRisk db ambient tenantId code factors assessedBy asAt policy = .ok result) ↔
      (Rating.ofName (ratingFor (residual factors (policy.getD defaultPolicy) asAt)
        (policy.getD defaultPolicy))).isSome := by
  constructor
  · rintro ⟨⟨row, db'⟩, h⟩
    obtain ⟨result, hscore, -⟩ := assessRisk_eq_ok.mp h
    rw [(score_eq_ok hscore).2.2.1]
    rfl
  · intro hname
    obtain ⟨rating, hrating⟩ := Option.isSome_iff_exists.mp hname
    obtain ⟨result, hscore⟩ := exists_score hrating
    obtain ⟨hconfidence, hresidual⟩ := score_unit hscore
    obtain ⟨hmem, htenant, -⟩ := riskByCode_eq_some hrisk
    have hheld : tenantId ∈ db.tenants := htenant ▸ hsound.risk_tenant risk hmem
    have hversion : ∀ b ∈ db.assessments,
        (b.riskId, b.version) ≠ (risk.riskId, db.nextAssessmentVersion risk.riskId) := by
      intro b hb heq
      have hlt := lt_nextAssessmentVersion hb
      simp only [Prod.mk.injEq] at heq
      rw [heq.1, heq.2] at hlt
      exact hlt.false
    obtain ⟨row, hrow⟩ : ∃ row,
      row = newAssessment db ambient tenantId risk factors policy result assessedBy asAt := ⟨_, rfl⟩
    have hadd : db.addAssessment row = .ok { db with assessments := db.assessments ++ [row] } := by
      subst hrow
      exact addAssessment_eq_ok.mpr
        ⟨⟨hheld, List.mem_map_of_mem hmem⟩, ⟨hconfidence, hresidual⟩, hversion, hid, rfl⟩
    obtain ⟨db₂, hdb₂⟩ : ∃ db₂ : Database, db₂ = { db with
      assessments := db.assessments ++ [row]
      risks := Table.put Risk.riskId (risk.scored factors result) db.risks } := ⟨_, rfl⟩
    have hput : Database.putRisk { db with assessments := db.assessments ++ [row] }
        (risk.scored factors result) = .ok db₂ :=
      putRisk_eq_ok.mpr ⟨hconfidence, hdb₂⟩
    -- neither write touches the tenants or the events
    have hheld₂ : tenantId ∈ db₂.tenants := by rwa [hdb₂]
    have hfresh₂ : FreshEvents db₂ ambient := by
      rw [hdb₂]
      exact ⟨hfresh.event, hfresh.outbox⟩
    have hkey₂ : ∀ o ∈ db₂.outbox,
        ¬ (o.tenantId = tenantId ∧ o.idempotencyKey = assessedKey row.assessmentId) := by
      rw [hdb₂]
      rintro o ho ⟨-, hkey⟩
      have hknown := hsound.known o ho _ (Or.inr hkey)
      rw [hrow] at hknown
      exact hid hknown
    obtain ⟨db', hemit⟩ := exists_emit hheld₂ hfresh₂ hkey₂
    exact ⟨_, assessRisk_eq_ok.mpr ⟨result, hscore, risk, hrisk, hrow, _, hadd, _, hput, hemit⟩⟩

/-- The database stays sound when an assessment and the numbers of its risk are written together
with the event. -/
theorem Database.Sound.assess (hsound : db.Sound) (hr : r ∈ db.risks)
    (hid : row.assessmentId ∉ db.assessments.map (·.assessmentId)) (hof : row.riskId = r.riskId)
    (htenant : row.tenantId = r.tenantId)
    (hversion : row.version = db.nextAssessmentVersion row.riskId)
    (hnone : row.officialRating = none) (hkey : e.idempotencyKey = assessedKey row.assessmentId)
    (r' : Risk) (hr' : r'.riskId = r.riskId) (htenant' : r'.tenantId = r.tenantId)
    (events : List AuditEvent) :
    Database.Sound { db with
      assessments := db.assessments ++ [row]
      risks := Table.put Risk.riskId r' db.risks
      auditEvents := events
      outbox := db.outbox ++ [e] } where
  risk_nodup := by
    rw [Table.map_put_key]
    exact hsound.risk_nodup
  risk_tenant x hx := by
    rcases (Table.mem_put hsound.risk_nodup hr hr').mp hx with rfl | ⟨hold, -⟩
    · rw [htenant']
      exact hsound.risk_tenant r hr
    · exact hsound.risk_tenant x hold
  assessment_nodup := Table.nodup_append_of_not_mem hsound.assessment_nodup hid
  assessment_tenant x hx y hy hrisk := by
    -- the rewritten risk has the id and the tenant of the old one
    obtain ⟨z, hz, hzid, hztenant⟩ :
        ∃ z ∈ db.risks, z.riskId = y.riskId ∧ z.tenantId = y.tenantId := by
      rcases (Table.mem_put hsound.risk_nodup hr hr').mp hy with rfl | ⟨hold, -⟩
      · exact ⟨r, hr, hr'.symm, htenant'.symm⟩
      · exact ⟨y, hold, rfl, rfl⟩
    rw [← hztenant]
    rcases List.mem_append.mp hx with hold | hnew
    · exact hsound.assessment_tenant x hold z hz (hrisk.trans hzid.symm)
    · rw [List.mem_singleton.mp hnew] at hrisk ⊢
      have hsame := Table.eq_of_key_eq hsound.risk_nodup hr hz
        (hof.symm.trans (hrisk.trans hzid.symm))
      rw [htenant, hsame]
  version_unique x hx y hy hrisk hsame := by
    rcases List.mem_append.mp hx with hx | hx
    · rcases List.mem_append.mp hy with hy | hy
      · exact hsound.version_unique x hx y hy hrisk hsame
      · have hlt := lt_nextAssessmentVersion hx
        rw [hrisk, hsame, List.mem_singleton.mp hy, ← hversion] at hlt
        exact absurd hlt (lt_irrefl _)
    · rcases List.mem_append.mp hy with hy | hy
      · have hlt := lt_nextAssessmentVersion hy
        rw [← hrisk, ← hsame, List.mem_singleton.mp hx, ← hversion] at hlt
        exact absurd hlt (lt_irrefl _)
      · rw [List.mem_singleton.mp hx, List.mem_singleton.mp hy]
  overridden x hx := by
    -- the new event overrides nothing
    have hold : ∀ o ∈ db.outbox ++ [e], ∀ id, o.idempotencyKey = overrideKey id →
        o ∈ db.outbox := by
      intro o ho id hoverride
      rcases List.mem_append.mp ho with ho | ho
      · exact ho
      · rw [List.mem_singleton.mp ho, hkey] at hoverride
        exact absurd hoverride.symm (overrideKey_ne _ _)
    rcases List.mem_append.mp hx with hx | hx
    · rw [← hsound.overridden x hx]
      constructor
      · rintro ⟨o, ho, hotenant, hokey⟩
        exact ⟨o, hold o ho _ hokey, hotenant, hokey⟩
      · rintro ⟨o, ho, hsame⟩
        exact ⟨o, List.mem_append_left _ ho, hsame⟩
    · rw [List.mem_singleton.mp hx]
      refine iff_of_false ?_ (not_not.mpr hnone)
      rintro ⟨o, ho, -, hokey⟩
      exact hid (hsound.known o (hold o ho _ hokey) _ (Or.inl hokey))
  known o ho id hidkey := by
    rw [List.map_append]
    rcases List.mem_append.mp ho with hold | hnew
    · exact List.mem_append_left _ (hsound.known o hold id hidkey)
    · rw [List.mem_singleton.mp hnew, hkey] at hidkey
      rcases hidkey with hother | hsame
      · exact absurd hother.symm (overrideKey_ne _ _)
      · exact List.mem_append_right _ (by simp [assessedKey_inj.mp hsame])

theorem assessRisk_effect (hsound : db.Sound) (hregistered : db.Registered tenantId code riskId)
    (h : assessRisk db ambient tenantId code factors assessedBy asAt policy = .ok (row, db')) :
    Effect tenantId code riskId db (.assess ambient factors assessedBy asAt policy) db' := by
  obtain ⟨risk, hrisk, rfl⟩ := hregistered
  obtain ⟨result, -, risk', hrisk', hrow, db₁, hadd, db₂, hput, hemit⟩ := assessRisk_eq_ok.mp h
  rw [hrisk, Option.some_inj] at hrisk'
  subst hrisk'
  obtain ⟨hmem, htenant, hcode⟩ := riskByCode_eq_some hrisk
  obtain ⟨-, -, -, hid, rfl⟩ := addAssessment_eq_ok.mp hadd
  obtain ⟨-, rfl⟩ := putRisk_eq_ok.mp hput
  obtain ⟨-, event, e, hetenant, htype, heid, hevent, hkey, rfl⟩ := emit_eq_ok hemit
  have hof : row.riskId = risk.riskId := by rw [hrow]; rfl
  have hversion : row.version = db.nextAssessmentVersion row.riskId := by rw [hrow]; rfl
  have hnone : row.officialRating = none := by rw [hrow]; rfl
  have hsame : row.tenantId = risk.tenantId := by
    rw [hrow, htenant]
    rfl
  have hsound' := hsound.assess hmem hid hof hsame hversion hnone hkey
    (risk.scored factors result) rfl rfl (db.auditEvents ++ [event])
  have hfound := Table.find?_put hsound.risk_nodup hrisk (r := risk.scored factors result) rfl
    (decide_eq_true ⟨htenant, hcode⟩)
  refine ⟨hsound', ⟨_, hfound, rfl⟩, ?_, e, rfl, hetenant, ⟨htype, heid⟩, hevent⟩
  have hnew : row ∈ db.assessments ++ [row] := List.mem_append_right _ (List.mem_singleton_self row)
  have hlatest := officialRating_of_latest hsound' hnew hof fun b hb hbrisk => ?_
  · rw [hlatest, hnone]
    rfl
  · rcases List.mem_append.mp hb with hold | hnew
    · have hlt := lt_nextAssessmentVersion hold
      rw [hbrisk, ← hof, ← hversion] at hlt
      exact hlt.le
    · rw [List.mem_singleton.mp hnew]

variable {op : Op}

theorem call_iff (hsound : db.Sound) (hregistered : db.Registered tenantId code riskId)
    (hfresh : op.Fresh db) (hhuman : op.ByHuman S) :
    (∃ db', S.call tenantId code db op = .ok db') ↔ op.Ready riskId db := by
  obtain ⟨risk, hrisk, rfl⟩ := hregistered
  cases op with
  | assess ambient factors assessedBy asAt policy =>
    have hiff : (∃ result, assessRisk db ambient tenantId code factors assessedBy asAt policy =
        .ok result) ↔ _ := assessRisk_iff hsound hrisk hfresh.1 hfresh.2
    rw [Op.Ready, ← hiff]
    simp only [PortfolioService.call, map_eq_ok, Prod.exists, exists_eq_right]
    exact exists_comm
  | setRating ambient rating actorId reason =>
    have hiff : (∃ result, S.setOfficialRating db ambient tenantId code rating actorId reason =
        .ok result) ↔ _ := setOfficialRating_iff hsound hrisk hfresh hhuman
    rw [Op.Ready, ← hiff]
    simp only [PortfolioService.call, map_eq_ok, Prod.exists, exists_eq_right]
    exact exists_comm

theorem call_effect (hsound : db.Sound) (hregistered : db.Registered tenantId code riskId)
    (h : S.call tenantId code db op = .ok db') : Effect tenantId code riskId db op db' := by
  cases op with
  | assess ambient factors assessedBy asAt policy =>
    obtain ⟨⟨row, db₁⟩, hcall, rfl⟩ := map_eq_ok.mp h
    exact assessRisk_effect hsound hregistered hcall
  | setRating ambient rating actorId reason =>
    obtain ⟨⟨a, db₁⟩, hcall, rfl⟩ := map_eq_ok.mp h
    exact setOfficialRating_effect hsound hregistered hcall

theorem step_of_ok (h : S.call tenantId code db op = .ok db') :
    S.step tenantId code db op = db' := by
  unfold PortfolioService.step
  rw [h]

theorem step_of_not_ok (h : ¬ ∃ db', S.call tenantId code db op = .ok db') :
    S.step tenantId code db op = db := by
  unfold PortfolioService.step
  split
  · rename_i db' hcall
    exact absurd ⟨db', hcall⟩ h
  · rfl

theorem step_keeps (S : PortfolioService) (op : Op) (hsound : db.Sound)
    (hregistered : db.Registered tenantId code riskId) :
    (S.step tenantId code db op).Sound ∧
      (S.step tenantId code db op).Registered tenantId code riskId := by
  by_cases hok : ∃ db', S.call tenantId code db op = .ok db'
  · obtain ⟨db', hcall⟩ := hok
    rw [step_of_ok hcall]
    exact ⟨(call_effect hsound hregistered hcall).sound,
      (call_effect hsound hregistered hcall).registered⟩
  · rw [step_of_not_ok hok]
    exact ⟨hsound, hregistered⟩

theorem step_events (S : PortfolioService) (op : Op) (hsound : db.Sound)
    (hregistered : db.Registered tenantId code riskId) :
    (S.step tenantId code db op).outbox.length ≤ db.outbox.length + 1 ∧
      ((S.step tenantId code db op).outbox.length = db.outbox.length + 1 ↔
        ∃ db', S.call tenantId code db op = .ok db') := by
  by_cases hok : ∃ db', S.call tenantId code db op = .ok db'
  · obtain ⟨db', hcall⟩ := hok
    obtain ⟨e, he, -⟩ := (call_effect hsound hregistered hcall).event
    rw [step_of_ok hcall, he]
    simp [hcall]
  · rw [step_of_not_ok hok]
    simp [hok]

end Steps

section Runs

variable {S : PortfolioService} {tenantId code riskId : String}

/-- What is asked of a run: every rating that is set is accepted, the latest assessment has the
rating that was last set on it, and the outbox has one more event for each call. -/
structure Kept (S : PortfolioService) (tenantId code riskId : String) (db : Database)
    (ops : List Op) : Prop where
  accepted : EachStep (S.step tenantId code)
    (fun db op => op.rating ≠ none → ∃ db', S.call tenantId code db op = .ok db') db ops
  official : (ops.foldl (S.step tenantId code) db).officialRating riskId =
    ops.foldl (fun _ op => op.rating) (db.officialRating riskId)
  events : ∃ events, (ops.foldl (S.step tenantId code) db).outbox = db.outbox ++ events ∧
    List.Forall₂ (Op.Recorded tenantId riskId) ops events

variable {db : Database} {ops : List Op}

theorem kept_of_ready (hsound : db.Sound) (hregistered : db.Registered tenantId code riskId)
    (hfresh : EachStep (S.step tenantId code) Op.Fresh db ops) (hhuman : ∀ op ∈ ops, op.ByHuman S)
    (hready : EachStep (S.step tenantId code) (Op.Ready riskId) db ops) :
    Kept S tenantId code riskId db ops := by
  induction ops generalizing db with
  | nil => exact ⟨trivial, rfl, [], (List.append_nil _).symm, .nil⟩
  | cons op ops ih =>
    have hop := hhuman op List.mem_cons_self
    obtain ⟨db', hcall⟩ := (call_iff hsound hregistered hfresh.1 hop).mpr hready.1
    have heffect := call_effect hsound hregistered hcall
    have hstep := step_of_ok hcall
    obtain ⟨-, hfresh⟩ := hfresh
    obtain ⟨-, hready⟩ := hready
    rw [hstep] at hfresh hready
    have hrest := ih heffect.sound heffect.registered hfresh
      (fun op hop => hhuman op (List.mem_cons_of_mem _ hop)) hready
    obtain ⟨e, he, hrecorded⟩ := heffect.event
    obtain ⟨events, hevents, hall⟩ := hrest.events
    refine ⟨⟨fun _ => ⟨db', hcall⟩, ?_⟩, ?_, e :: events, ?_, .cons hrecorded hall⟩
    · rw [hstep]
      exact hrest.accepted
    · rw [List.foldl_cons, List.foldl_cons, hstep, hrest.official, heffect.official]
    · rw [List.foldl_cons, hstep, hevents, he, List.append_assoc]
      rfl

/-- A run adds at most one event for each call, and as many as there are calls only if every call
is ready. -/
theorem ready_of_events (hsound : db.Sound) (hregistered : db.Registered tenantId code riskId)
    (hfresh : EachStep (S.step tenantId code) Op.Fresh db ops) (hhuman : ∀ op ∈ ops, op.ByHuman S) :
    (ops.foldl (S.step tenantId code) db).outbox.length ≤ db.outbox.length + ops.length ∧
      ((ops.foldl (S.step tenantId code) db).outbox.length = db.outbox.length + ops.length →
        EachStep (S.step tenantId code) (Op.Ready riskId) db ops) := by
  induction ops generalizing db with
  | nil => exact ⟨le_rfl, fun _ => trivial⟩
  | cons op ops ih =>
    obtain ⟨hle, hone⟩ := step_events S op hsound hregistered
    obtain ⟨hsound', hregistered'⟩ := step_keeps S op hsound hregistered
    obtain ⟨hrest, hready⟩ := ih hsound' hregistered' hfresh.2
      fun op hop => hhuman op (List.mem_cons_of_mem _ hop)
    rw [List.foldl_cons, List.length_cons]
    refine ⟨by omega, fun hall => ⟨?_, hready (by omega)⟩⟩
    -- the calls after this one add at most one event each, so this one adds one
    rw [← call_iff hsound hregistered hfresh.1 (hhuman op List.mem_cons_self), ← hone]
    omega

/-- **Official ratings over a run**: on a sound database, what is asked of the run holds in every
state it reaches exactly when every call is ready where it is made, a decision thus only once for
each assessment. -/
theorem overrides_iff {db : Database} {ops : List Op} (hsound : db.Sound)
    (hregistered : db.Registered tenantId code riskId)
    (hfresh : EachStep (S.step tenantId code) Op.Fresh db ops)
    (hhuman : ∀ op ∈ ops, op.ByHuman S) :
    (∀ made left, ops = made ++ left → Kept S tenantId code riskId db made) ↔
      EachStep (S.step tenantId code) (Op.Ready riskId) db ops := by
  constructor
  · intro hkept
    obtain ⟨events, hevents, hall⟩ := (hkept ops [] (List.append_nil _).symm).events
    refine (ready_of_events hsound hregistered hfresh hhuman).2 ?_
    rw [hevents, List.length_append, hall.length_eq]
  · rintro hready made left rfl
    exact kept_of_ready hsound hregistered (eachStep_append.mp hfresh).1
      (fun op hop => hhuman op (List.mem_append_left _ hop)) (eachStep_append.mp hready).1

end Runs

def sampleService : PortfolioService := { unicode := PyString.asciiData }

def sampleRegister : Database where
  tenants := ["asteria"]
  risks := [{ riskId := "rsk_1", tenantId := "asteria", code := "AST-R-01" }]

/-- The three calls draw the ids `rsa_a`, `obx_b` and so on. -/
def ambientOf (hex : String) : Ambient := { now := 0, hex := fun _ => hex }

def assessCall : Op :=
  .assess (ambientOf "a") { impact := 1, likelihood := 1 } "agent:risk-portfolio" 0 none

def mediumCall : Op :=
  .setRating (ambientOf "b") "medium" "dana" "contractual protection is not modelled"

def lowCall : Op :=
  .setRating (ambientOf "c") "low" "dana" "the supplier has been replaced since"

theorem sampleRegister_sound : sampleRegister.Sound where
  risk_nodup := by decide
  risk_tenant := by decide
  assessment_nodup := by decide
  assessment_tenant := by simp [sampleRegister]
  version_unique := by simp [sampleRegister]
  overridden := by simp [sampleRegister]
  known := by simp [sampleRegister]

theorem sampleRegister_registered : sampleRegister.Registered "asteria" "AST-R-01" "rsk_1" :=
  ⟨_, rfl, rfl⟩

/-- The second decision on the same assessment raises, and the first one stays. -/
theorem second_decision_raises :
    EachStep (sampleService.step "asteria" "AST-R-01") Op.Fresh sampleRegister
        [assessCall, mediumCall, lowCall] ∧
      (∀ op ∈ [assessCall, mediumCall, lowCall], op.ByHuman sampleService) ∧
      sampleService.call "asteria" "AST-R-01" ([assessCall, mediumCall].foldl
        (sampleService.step "asteria" "AST-R-01") sampleRegister) lowCall =
          .error .integrityError ∧
      ¬ Kept sampleService "asteria" "AST-R-01" "rsk_1" sampleRegister
        [assessCall, mediumCall, lowCall] := by
  have hraises : sampleService.call "asteria" "AST-R-01" ([assessCall, mediumCall].foldl
      (sampleService.step "asteria" "AST-R-01") sampleRegister) lowCall =
        .error .integrityError := by
    with_unfolding_all rfl
  refine ⟨by decide +kernel, by decide +kernel, hraises, fun hkept => ?_⟩
  obtain ⟨-, -, hlow, -⟩ := hkept.accepted
  obtain ⟨db', hok⟩ := hlow (by decide)
  exact absurd (hraises.symm.trans hok) (by simp)

/-- One decision on the assessment is kept. -/
theorem kept_once :
    Kept sampleService "asteria" "AST-R-01" "rsk_1" sampleRegister [assessCall, mediumCall] := by
  refine (overrides_iff sampleRegister_sound sampleRegister_registered ?_ ?_).mpr ?_ _ []
    (List.append_nil _).symm
  · decide +kernel
  · decide +kernel
  · decide +kernel

end Portfolio
