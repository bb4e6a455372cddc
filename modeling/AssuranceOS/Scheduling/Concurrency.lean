/-
How many engagements of a template are active at once.

The preflight counts the active engagements of the template and compares their periods; the
engagement is added later, by the transaction that begins the launch.  `Quota` is what the
two checks are for.  Every transaction of `evaluate_due` keeps it, beside whatever other
workers, if the launch still finds what the preflight found (`Clear`): an engagement becomes
active only by being added (`Quieter`).
-/
import AssuranceOS.Orchestration.Compilation
import AssuranceOS.Scheduling.Approval

namespace Scheduling

open Orchestration (Timestamp)
open Checked

variable {env : Environment}

/-- The orchestrator has worked on the tables, and made no engagement active. -/
structure Quieter (db db' : Orchestration.Database) : Prop where
  wellFormed : Orchestration.WellFormed db'
  planned : ∀ e' ∈ db'.engagements, ∃ e ∈ db.engagements,
    e.engagementId = e'.engagementId ∧ (e.status = e'.status ∨ e.status = .planned)

variable {db db' : Orchestration.Database} {now : Timestamp} {t : String}
  {s : Orchestration.EngagementSnapshot}

theorem compileWorkflow_quieter
    {e : String} {workflow : Orchestration.WorkflowDefinition} {taskIds : String → String}
    {createdAt : String → Timestamp}
    (hwf : Orchestration.WellFormed db)
    (h : Orchestration.Orchestrator.compileWorkflow db now t e workflow taskIds createdAt =
      .ok (db', s)) : Quieter db db' := by
  obtain ⟨rows, deps, hcompiled⟩ := Orchestration.compileWorkflow_compiled h
  refine ⟨hcompiled.wellFormed hwf, fun e' he' => ?_⟩
  rw [hcompiled.engagements] at he'
  exact ⟨e', he', rfl, Or.inl rfl⟩

theorem startEngagement_quieter {id : String} (hwf : Orchestration.WellFormed db)
    (h : Orchestration.Orchestrator.startEngagement db now t id = .ok (db', s)) :
    Quieter db db' := by
  obtain ⟨e, e₁, db₁, -, hmove, hplanned, -, -, -, hreconciled⟩ :=
    Orchestration.startEngagement_moves hwf h
  have hwf₁ := hmove.wellFormed hwf
  refine ⟨hreconciled.wellFormed hwf₁, fun e' he' => ?_⟩
  by_cases hid : e'.engagementId = e.engagementId
  · exact ⟨e, hmove.mem, hid.symm, Or.inr hplanned⟩
  · have hne : e'.engagementId ≠ e₁.engagementId := by
      rw [hmove.engagementId]
      exact hid
    rcases (hmove.mem_engagements hwf).mp ((hreconciled.mem_engagements_of_ne hwf₁ hne).mp he')
      with rfl | ⟨hmem, -⟩
    · exact absurd rfl hne
    · exact ⟨e', hmem, rfl, Or.inl rfl⟩

/-! ### Active engagements -/

section Active

variable {db db' : Database}
variable {e : EngagementDetails} {now : Timestamp}

theorem isActive_of_quieter (hwf : Orchestration.WellFormed db.orchestration)
    (h : Quieter db.orchestration db'.orchestration) (hactive : db'.isActive e = true) :
    db.isActive e = true := by
  unfold Database.isActive Database.engagementStatus at hactive ⊢
  rcases hget : Table.get? Orchestration.Engagement.engagementId e.engagementId
    db'.orchestration.engagements with _ | e'
  · rw [hget] at hactive
    cases hactive
  · rw [hget] at hactive
    obtain ⟨e₀, he₀, hid, hcase⟩ := h.planned e' (Table.mem_of_get? hget)
    have hget₀ : Table.get? Orchestration.Engagement.engagementId e.engagementId
        db.orchestration.engagements = some e₀ :=
      (Table.get?_eq_some hwf.engagementKeys).mpr
        ⟨he₀, hid.trans (Table.key_of_get? hget)⟩
    rw [hget₀]
    rcases hcase with hsame | hplanned
    · simpa [hsame] using hactive
    · simp [hplanned, Database.activeEngagementStatuses]

theorem activeEngagements_sublist (hwf : Orchestration.WellFormed db.orchestration)
    (h : Quieter db.orchestration db'.orchestration) (hrows : db'.engagements = db.engagements)
    (t tpl : String) : (db'.activeEngagements t tpl).Sublist (db.activeEngagements t tpl) := by
  unfold Database.activeEngagements
  rw [hrows]
  refine List.monotone_filter_right _ fun e he => ?_
  simp only [decide_eq_true_eq] at he ⊢
  exact ⟨he.1, he.2.1, isActive_of_quieter hwf h he.2.2⟩

def Database.withEngagement (db : Database) (e : EngagementDetails) (now : Timestamp) : Database :=
  { db with
    engagements := db.engagements ++ [e]
    orchestration := { db.orchestration with
      engagements := db.orchestration.engagements ++
        [{ engagementId := e.engagementId, tenantId := e.tenantId, createdAt := now }] } }

theorem addEngagement_eq_ok (h : db.addEngagement e now = .ok db') :
    e.engagementId ∉ db.engagements.map EngagementDetails.engagementId ∧
      e.engagementId ∉ db.orchestration.engagements.map Orchestration.Engagement.engagementId ∧
      db' = db.withEngagement e now := by
  unfold Database.addEngagement at h
  obtain ⟨-, h⟩ := require_bind_eq_ok.mp h
  obtain ⟨rows, hrows, h⟩ := ofOption_bind_eq_ok.mp h
  obtain ⟨statuses, hstatuses, h⟩ := ofOption_bind_eq_ok.mp h
  obtain ⟨hnew, rfl⟩ := Table.insert?_eq_some.mp hrows
  obtain ⟨hnew', rfl⟩ := Table.insert?_eq_some.mp hstatuses
  exact ⟨hnew, hnew', (Except.ok.inj h).symm⟩

theorem withEngagement_wellFormed (now : Timestamp)
    (hwf : Orchestration.WellFormed db.orchestration)
    (hnew : e.engagementId ∉
      db.orchestration.engagements.map Orchestration.Engagement.engagementId) :
    Orchestration.WellFormed (db.withEngagement e now).orchestration :=
  { hwf with
    engagementKeys := Table.nodup_append_of_not_mem hwf.engagementKeys hnew
    taskEngagement := by
      intro t ht
      obtain ⟨f, hf, hkeys⟩ := hwf.taskEngagement t ht
      exact ⟨f, List.mem_append_left _ hf, hkeys⟩ }

theorem isActive_withEngagement {x : EngagementDetails} (h : x.engagementId ≠ e.engagementId) :
    (db.withEngagement e now).isActive x = db.isActive x := by
  have hget : Table.get? Orchestration.Engagement.engagementId x.engagementId
      (db.withEngagement e now).orchestration.engagements =
      Table.get? Orchestration.Engagement.engagementId x.engagementId
        db.orchestration.engagements := by
    unfold Table.get? Database.withEngagement
    rw [List.find?_append]
    simp [h.symm]
  rw [Database.isActive, Database.engagementStatus, hget]
  rfl

theorem isActive_withEngagement_self (hnew : e.engagementId ∉
      db.orchestration.engagements.map Orchestration.Engagement.engagementId) :
    (db.withEngagement e now).isActive e = true := by
  have hnone : db.orchestration.engagements.find? (fun f => f.engagementId = e.engagementId) =
      none := by
    rw [List.find?_eq_none]
    intro f hf heq
    exact hnew (List.mem_map.mpr ⟨f, hf, of_decide_eq_true heq⟩)
  unfold Database.isActive Database.engagementStatus Table.get? Database.withEngagement
  dsimp only
  rw [List.find?_append, hnone]
  simp [Database.activeEngagementStatuses]

theorem activeEngagements_withEngagement (now : Timestamp)
    (hnew : e.engagementId ∉ db.engagements.map EngagementDetails.engagementId)
    (hnew' : e.engagementId ∉
      db.orchestration.engagements.map Orchestration.Engagement.engagementId) (t tpl : String) :
    (db.withEngagement e now).activeEngagements t tpl = db.activeEngagements t tpl ++
      if e.tenantId = t ∧ e.templateId = some tpl then [e] else [] := by
  unfold Database.activeEngagements
  rw [show (db.withEngagement e now).engagements = db.engagements ++ [e] from rfl,
    List.filter_append]
  congr 1
  · refine List.filter_congr fun x hx => ?_
    have hne : x.engagementId ≠ e.engagementId := fun heq =>
      hnew (heq ▸ List.mem_map_of_mem hx)
    rw [isActive_withEngagement hne]
  · rw [List.filter_singleton, isActive_withEngagement_self hnew']
    simp

end Active

section Step

def Op.launches : Op → Bool
  | .beginLaunch .. | .compileWorkflow .. | .startEngagement .. => true
  | _ => false

variable {w : World} {op : Op}

theorem Evaluation.frame {db db' : Database} (h : Evaluation db db') :
    (db'.schedules = db.schedules ∧ db'.templates = db.templates) ∧
      db'.engagements = db.engagements ∧ db'.orchestration = db.orchestration := by
  rw [h.eq]
  exact ⟨⟨rfl, rfl⟩, rfl, rfl⟩

variable (env w) in
theorem exec_configuration (ha : op.isAuthoring = false) :
    (exec env op w).2.db.schedules = w.db.schedules ∧
      (exec env op w).2.db.templates = w.db.templates := by
  by_cases hm : op.isMaterialization = false
  · have heffect : Effect env op w.db (exec env op w).2.db := exec_effect ha hm
    rcases heffect with ⟨_, _, heq⟩ | ⟨_, _, _, _, -, -, -, heq⟩
    · rw [heq]
      exact ⟨rfl, rfl⟩
    · rw [heq]
      exact ⟨rfl, rfl⟩
  · cases op with
    | materializeDueOccurrences t i now worker lease =>
      rcases commit_db (w := w) (materializeDueOccurrences env w.db t i now worker lease) with
        heq | ⟨result, h⟩
      · exact ⟨congrArg Database.schedules heq, congrArg Database.templates heq⟩
      · obtain ⟨-, -, heval, -⟩ := materialize_eq_ok h
        exact heval.frame.1
    | _ => exact absurd rfl hm

variable (env w) in
theorem exec_engagements (ha : op.isAuthoring = false) (hl : op.launches = false) :
    (exec env op w).2.db.engagements = w.db.engagements ∧
      (exec env op w).2.db.orchestration = w.db.orchestration := by
  have hsame : (exec env op w).2.db = w.db → (exec env op w).2.db.engagements = w.db.engagements ∧
      (exec env op w).2.db.orchestration = w.db.orchestration := by
    intro heq
    rw [heq]
    exact ⟨rfl, rfl⟩
  have hwrite : ∀ r, (exec env op w).2.db = w.db.putOccurrence r →
      (exec env op w).2.db.engagements = w.db.engagements ∧
      (exec env op w).2.db.orchestration = w.db.orchestration := by
    intro r heq
    rw [heq]
    exact ⟨rfl, rfl⟩
  cases op with
  | clock => exact hsame rfl
  | listSchedules => exact hsame rfl
  | materializeDueOccurrences t i now worker lease =>
    rcases commit_db (w := w) (materializeDueOccurrences env w.db t i now worker lease) with
      heq | ⟨result, h⟩
    · exact hsame heq
    · obtain ⟨-, -, heval, -⟩ := materialize_eq_ok h
      exact heval.frame.2
  | listRetryableOccurrences => exact hsame rfl
  | readOccurrence => exact hsame rfl
  | markWaitingApproval t i =>
    rcases markWaitingApproval_spec env rfl with heq | ⟨o, r, -, heq, -⟩
    · exact hsame heq
    · exact hwrite r heq
  | runPreflight t i context now granted =>
    rcases commit_db (w := w) (runPreflight w.db t i context now granted) with heq | ⟨out, h⟩
    · exact hsame heq
    · obtain ⟨o, r, -, heq, -⟩ := runPreflight_eq_ok env h
      exact hwrite r heq
  | beginLaunch => cases hl
  | readEngagement => exact hsame rfl
  | compileWorkflow => cases hl
  | startEngagement => cases hl
  | completeLaunch t i now =>
    rcases commitUnit_db (w := w) (completeLaunch w.db t i now) with heq | h
    · exact hsame heq
    · obtain ⟨o, -, ⟨-, heq⟩ | ⟨r, heq, -⟩⟩ := completeLaunch_eq_ok env h
      · exact hsame heq
      · exact hwrite r heq
  | failLaunch t i error now =>
    rcases commitUnit_db (w := w) (failLaunch w.db t i error now) with heq | h
    · exact hsame heq
    · rcases failLaunch_eq_ok env h with ⟨-, heq⟩ | ⟨o, r, -, heq, -⟩
      · exact hsame heq
      · exact hwrite r heq
  | recordApproval t i decision =>
    rcases commit_db (w := w) (recordApproval w.db t i decision) with heq | ⟨found, h⟩
    · exact hsame heq
    · obtain ⟨o, -, ⟨-, -, heq⟩ | ⟨-, r, heq, -⟩⟩ := recordApproval_eq_ok env h
      · exact hsame heq
      · exact hwrite r heq
  | cancelOccurrence t i decision =>
    rcases commit_db (w := w) (cancelOccurrence w.db t i decision) with heq | ⟨r, h⟩
    · exact hsame heq
    · obtain ⟨o, -, heq, -⟩ := cancelOccurrence_eq_ok env h
      exact hwrite r heq
  | getOccurrence => exact hsame rfl
  | validateDefinition => exact hsame rfl
  | createDraft => cases ha
  | revisedDraft => exact hsame rfl
  | approveSchedule => cases ha
  | disableSchedule => cases ha

end Step

/-! ### The quota of a template -/

section Quota

variable {t tpl : String} {limit : ℕ} {db db' : Database} {w : World} {op : Op}

/-- The schedule launches the template for the tenant. -/
def Launches (t tpl : String) (s : AuditSchedule) : Prop := s.tenantId = t ∧ s.templateId = tpl

instance (t tpl : String) (s : AuditSchedule) : Decidable (Launches t tpl s) :=
  inferInstanceAs (Decidable (_ ∧ _))

/-- At most `limit` engagements of the template are active, and none of their periods
overlap when its schedules prevent that. -/
structure Quota (t tpl : String) (limit : ℕ) (db : Database) : Prop where
  active_le : (db.activeEngagements t tpl).length ≤ limit
  disjoint : (∀ s ∈ db.schedules, Launches t tpl s → s.overlapPolicy = .prevent) →
    (db.activeEngagements t tpl).Pairwise fun a b => ¬ a.period.Overlaps b.period

/-- What a launch relies on beside the checks. -/
structure Keeping (t tpl : String) (limit : ℕ) (db : Database) : Prop where
  wellFormed : Orchestration.WellFormed db.orchestration
  engagementIds : ∀ o ∈ db.occurrences, o.engagementId ≠ some ""
  limit_le : ∀ s ∈ db.schedules, Launches t tpl s → s.maxConcurrentEngagements ≤ limit
  quota : Quota t tpl limit db

def Op.begins : Op → Option (String × String)
  | .beginLaunch t i _ => some (t, i)
  | _ => none

/-- A launch that adds an engagement finds the two checks of the preflight passed. -/
def Clear (env : Environment) (w : World) (op : Op) : Prop :=
  ∀ key ∈ op.begins, ∀ o ∈ w.db.getOccurrence key.1 key.2,
    ∀ found ∈ scheduleAndTemplate w.db key.1 o.scheduleId,
      engagementIdOf env o ∉ w.db.engagements.map EngagementDetails.engagementId →
      (PreflightEvaluator.concurrencyCheck w.db found.1 o).passed = true ∧
        (PreflightEvaluator.overlapCheck w.db found.1 o).passed = true

instance (env : Environment) (w : World) (op : Op) : Decidable (Clear env w op) :=
  inferInstanceAs (Decidable (∀ key ∈ op.begins, ∀ o ∈ w.db.getOccurrence key.1 key.2,
    ∀ found ∈ scheduleAndTemplate w.db key.1 o.scheduleId,
      engagementIdOf env o ∉ w.db.engagements.map EngagementDetails.engagementId →
      (PreflightEvaluator.concurrencyCheck w.db found.1 o).passed = true ∧
        (PreflightEvaluator.overlapCheck w.db found.1 o).passed = true))

theorem Quota.sublist (h : Quota t tpl limit db) (hschedules : db'.schedules = db.schedules)
    (hsub : (db'.activeEngagements t tpl).Sublist (db.activeEngagements t tpl)) :
    Quota t tpl limit db' where
  active_le := hsub.length_le.trans h.active_le
  disjoint := by
    intro hprevent
    rw [hschedules] at hprevent
    exact (h.disjoint hprevent).sublist hsub

theorem getTemplate_eq_some {i : String} {template : EngagementTemplate}
    (h : db.getTemplate t i = some template) : template.tenantId = t ∧ template.templateId = i := by
  have hprop := List.find?_some h
  simpa only [Bool.decide_and, Bool.and_eq_true, decide_eq_true_eq] using hprop

variable {o : ScheduleOccurrence}
variable {schedule : AuditSchedule}

theorem otherActive_eq (hid : o.engagementId ≠ some "")
    (hnew : engagementIdOf env o ∉ db.engagements.map EngagementDetails.engagementId) :
    PreflightEvaluator.otherActive db schedule o =
      db.activeEngagements schedule.tenantId schedule.templateId := by
  unfold PreflightEvaluator.otherActive
  rw [List.filter_eq_self]
  intro e he
  rw [decide_eq_true_eq]
  intro heq
  have htruthy : PyString.truthy o.engagementId = true := by
    have hne : e.engagementId ≠ "" := fun hempty => hid (by rw [heq, hempty])
    simp [heq, PyString.truthy, hne]
  refine hnew ?_
  rw [engagementIdOf, if_pos htruthy, heq]
  exact List.mem_map_of_mem (List.mem_of_mem_filter he)

/-- **Adding an engagement** under the two checks keeps the quota. -/
theorem Quota.withEngagement {e : EngagementDetails} (h : Quota t tpl limit db) (now : Timestamp)
    (hschedule : schedule ∈ db.schedules)
    (hlimit : Launches t tpl schedule → schedule.maxConcurrentEngagements ≤ limit)
    (hother : PreflightEvaluator.otherActive db schedule o =
      db.activeEngagements schedule.tenantId schedule.templateId)
    (htenant : e.tenantId = schedule.tenantId) (htemplate : e.templateId = some schedule.templateId)
    (hperiod : e.period = o.period)
    (hnew : e.engagementId ∉ db.engagements.map EngagementDetails.engagementId)
    (hnew' : e.engagementId ∉
      db.orchestration.engagements.map Orchestration.Engagement.engagementId)
    (hconcurrency : (PreflightEvaluator.concurrencyCheck db schedule o).passed = true)
    (hoverlap : (PreflightEvaluator.overlapCheck db schedule o).passed = true) :
    Quota t tpl limit (db.withEngagement e now) := by
  have hactive := activeEngagements_withEngagement now hnew hnew' t tpl
  by_cases hmatch : Launches t tpl schedule
  · obtain ⟨rfl, rfl⟩ := hmatch
    rw [if_pos ⟨htenant, htemplate⟩] at hactive
    refine ⟨?_, fun hprevent => ?_⟩
    · have hlt : (db.activeEngagements schedule.tenantId schedule.templateId).length <
          schedule.maxConcurrentEngagements := by
        rw [← hother]
        exact of_decide_eq_true hconcurrency
      rw [hactive, List.length_append, List.length_singleton]
      exact hlt.trans_le (hlimit ⟨rfl, rfl⟩)
    · have hnone : ∀ x ∈ db.activeEngagements schedule.tenantId schedule.templateId,
          ¬ x.period.Overlaps e.period := by
        unfold PreflightEvaluator.overlapCheck at hoverlap
        rw [hprevent schedule hschedule ⟨rfl, rfl⟩, hother] at hoverlap
        simp only [Option.isNone_iff_eq_none, List.find?_eq_none, decide_eq_true_eq] at hoverlap
        rw [hperiod]
        exact hoverlap
      rw [hactive, List.pairwise_append]
      refine ⟨h.disjoint hprevent, List.pairwise_singleton _ _, ?_⟩
      intro x hx y hy
      rw [List.mem_singleton.mp hy]
      exact hnone x hx
  · have hno : ¬ (e.tenantId = t ∧ e.templateId = some tpl) := by
      rintro ⟨ht, htpl⟩
      rw [htemplate] at htpl
      exact hmatch ⟨htenant.symm.trans ht, Option.some.inj htpl⟩
    rw [if_neg hno, List.append_nil] at hactive
    exact h.sublist rfl (by rw [hactive])

theorem engagementIdOf_ne_empty (env : Environment) (o : ScheduleOccurrence) :
    engagementIdOf env o ≠ "" := by
  unfold engagementIdOf
  split
  · rename_i htruthy
    cases hid : o.engagementId with
    | none => simp [hid, PyString.truthy] at htruthy
    | some id => simpa [hid, PyString.truthy] using htruthy
  · unfold Environment.engagementId
    simp

theorem Written.engagementId_ne {r : ScheduleOccurrence} (h : Written env db op o r)
    (ho : o.engagementId ≠ some "") : r.engagementId ≠ some "" := by
  cases h with
  | begun _ _ _ _ hengagement =>
    rw [hengagement]
    intro heq
    exact engagementIdOf_ne_empty env o (Option.some.inj heq)
  | marked | blocked | waiting | passed | completed | failed | approved | cancelled =>
    simp_all

theorem exec_engagementIds (env : Environment) (ha : op.isAuthoring = false)
    (h : ∀ o ∈ w.db.occurrences, o.engagementId ≠ some "") :
    ∀ o ∈ (exec env op w).2.db.occurrences, o.engagementId ≠ some "" := by
  by_cases hm : op.isMaterialization = false
  · intro x hx
    have heffect : Effect env op w.db (exec env op w).2.db := exec_effect ha hm
    rcases heffect with ⟨_, _, heq⟩ | ⟨o, r, _, _, hmem, -, hwritten, heq⟩
    · rw [heq] at hx
      exact h x hx
    · rw [heq] at hx
      rcases Table.eq_or_mem_of_mem_put hx with rfl | ⟨hx, -⟩
      · exact hwritten.engagementId_ne (h o hmem)
      · exact h x hx
  · cases op with
    | materializeDueOccurrences t i now worker lease =>
      rcases commit_db (w := w) (materializeDueOccurrences env w.db t i now worker lease) with
        heq | ⟨result, hrun⟩
      · rw [show (exec env (.materializeDueOccurrences t i now worker lease) w).2.db = w.db from heq]
        exact h
      · intro x hx
        obtain ⟨schedule, -, -, ⟨hrefused, -⟩ | ⟨dues, added, hev⟩⟩ := materialize_eq_ok hrun
        · exact h x (hrefused.occurrences ▸ hx)
        · rcases List.mem_append.mp (hev.occurrences ▸ hx) with hx | hx
          · exact h x hx
          · rw [(hev.new x hx).engagementId]
            exact Option.some_ne_none "" |>.symm
    | _ => exact absurd rfl hm

/-- **One transaction** of a worker keeps the quota, if a launch is clear. -/
theorem exec_keeping (ha : op.isAuthoring = false) (hclear : Clear env w op)
    (h : Keeping t tpl limit w.db) : Keeping t tpl limit (exec env op w).2.db := by
  obtain ⟨hschedules, htemplates⟩ := exec_configuration env w ha
  have hids := exec_engagementIds env ha h.engagementIds
  have hlimit : ∀ s ∈ (exec env op w).2.db.schedules, Launches t tpl s →
      s.maxConcurrentEngagements ≤ limit := by
    rw [hschedules]
    exact h.limit_le
  -- the orchestrator makes no engagement active
  have hquieter : (exec env op w).2.db.engagements = w.db.engagements →
      Quieter w.db.orchestration (exec env op w).2.db.orchestration →
      Keeping t tpl limit (exec env op w).2.db := fun hrows hq =>
    ⟨hq.wellFormed, hids, hlimit, h.quota.sublist hschedules
      (activeEngagements_sublist h.wellFormed hq hrows t tpl)⟩
  have hrefl : Quieter w.db.orchestration w.db.orchestration :=
    ⟨h.wellFormed, fun e he => ⟨e, he, rfl, Or.inl rfl⟩⟩
  have hsame : (exec env op w).2.db = w.db → Keeping t tpl limit (exec env op w).2.db := by
    intro heq
    rw [heq]
    exact h
  by_cases hl : op.launches = false
  · obtain ⟨hrows, horchestration⟩ := exec_engagements env w ha hl
    exact hquieter hrows (by rw [horchestration]; exact hrefl)
  · cases op with
    | beginLaunch t' i now =>
      rcases commit_db (w := w) (beginLaunch env w.db t' i now) with heq | ⟨start, hrun⟩
      · exact hsame heq
      · obtain ⟨o, ho, ⟨-, -, heq⟩ | ⟨r, schedule, template, workflow, db₁, heq, hwritten, hfound,
          -, hensure, -⟩⟩ := beginLaunch_eq_ok hrun
        · exact hsame heq
        · unfold ensureEngagement at hensure
          dsimp only at hensure
          split at hensure
          · cases hensure
            have hdb : (exec env (.beginLaunch t' i now) w).2.db = w.db.putOccurrence r := heq
            rw [hdb] at hquieter ⊢
            exact hquieter rfl hrefl
          · obtain ⟨hnew, hnew', rfl⟩ := addEngagement_eq_ok hensure
            obtain ⟨hmem, rfl, rfl⟩ := getOccurrence_eq_some ho
            obtain ⟨hschedule, htemplate⟩ := scheduleAndTemplate_eq_some hfound
            obtain ⟨hsmem, hst, -⟩ := getSchedule_eq_some hschedule
            obtain ⟨-, htpl⟩ := getTemplate_eq_some htemplate
            obtain ⟨hconcurrency, hoverlap⟩ :=
              hclear (o.tenantId, o.occurrenceId) rfl o ho (schedule, template) hfound hnew
            have hquota := h.quota.withEngagement now hsmem (h.limit_le schedule hsmem)
              (otherActive_eq (h.engagementIds o hmem) hnew) hst.symm (congrArg some htpl) rfl
              hnew hnew' hconcurrency hoverlap
            have hwf := withEngagement_wellFormed now h.wellFormed hnew'
            refine ⟨?_, hids, hlimit, ?_⟩
            · rw [show (exec env (.beginLaunch o.tenantId o.occurrenceId now) w).2.db = _ from heq]
              exact hwf
            · rw [show (exec env (.beginLaunch o.tenantId o.occurrenceId now) w).2.db = _ from heq]
              -- the write to the occurrence touches no engagement
              exact ⟨hquota.active_le, hquota.disjoint⟩
    | compileWorkflow t' e workflow now =>
      rcases orchestrate_db (w := w) (Orchestration.Orchestrator.compileWorkflow w.db.orchestration
        now t' e workflow (env.taskIds w.ticks) (env.createdAt w.ticks)) with heq | ⟨r, hr, heq⟩
      · exact hsame heq
      · have hdb : (exec env (.compileWorkflow t' e workflow now) w).2.db =
            { w.db with orchestration := r.1 } := heq
        rw [hdb] at hquieter ⊢
        exact hquieter rfl (compileWorkflow_quieter h.wellFormed hr)
    | startEngagement t' e now =>
      rcases orchestrate_db (w := w)
        (Orchestration.Orchestrator.startEngagement w.db.orchestration now t' e) with
        heq | ⟨r, hr, heq⟩
      · exact hsame heq
      · have hdb : (exec env (.startEngagement t' e now) w).2.db =
            { w.db with orchestration := r.1 } := heq
        rw [hdb] at hquieter ⊢
        exact hquieter rfl (startEngagement_quieter h.wellFormed hr)
    | _ => exact absurd rfl hl

end Quota

/-! ### Workers beside each other -/

section Workers

variable {t tpl : String} {limit : ℕ}

/-- An evaluation as a task of a crew. -/
def evaluateTask (request : EvaluateDue) : Method Unit := (Call.evaluateDue request).program

theorem evaluateTask_calls (request : EvaluateDue) :
    (evaluateTask request).Calls fun op => op.isAuthoring = false := by
  have hoperations : ∀ now op, EvaluatesAt now op → op.isAuthoring = false := by
    intro now op h
    cases op with
    | materializeDueOccurrences => rfl
    | _ => exact h
  refine Program.Calls.bind (Program.Calls.bind (Program.calls_perform.mpr rfl) fun now => ?_)
    fun _ => trivial
  exact (evaluateDueAt_calls request now).mono (hoperations now)

/-- A template none of whose engagements is active, and schedules without occurrences. -/
structure Unlaunched (t tpl : String) (db : Database) : Prop where
  wellFormed : Orchestration.WellFormed db.orchestration
  occurrences : db.occurrences = []
  active : db.activeEngagements t tpl = []

theorem Unlaunched.keeping {db : Database} (h : Unlaunched t tpl db)
    (hlimit : ∀ s ∈ db.schedules, Launches t tpl s → s.maxConcurrentEngagements ≤ limit) :
    Keeping t tpl limit db where
  wellFormed := h.wellFormed
  engagementIds := by simp [h.occurrences]
  limit_le := hlimit
  quota := by
    refine ⟨?_, fun _ => ?_⟩
    · rw [h.active]
      exact Nat.zero_le limit
    · rw [h.active]
      exact List.Pairwise.nil

/-- **Concurrent evaluations.**  However the transactions of any number of workers are
interleaved, the active engagements of a template stay within the limit of its schedules,
and do not overlap where these prevent it, as long as each launch that adds an engagement
finds the checks of the preflight still passed. -/
theorem crew_quota {crew : Crew Op.Result SchedulingError World} {turns : List (Turn EvaluateDue)}
    (hidle : ∀ i, crew.workers i = pure ()) (hstart : Unlaunched t tpl crew.state.db)
    (hlimit : ∀ s ∈ crew.state.db.schedules, Launches t tpl s →
      s.maxConcurrentEngagements ≤ limit)
    (hclear : Runs.EachStep (Crew.step (exec env) evaluateTask) (Crew.CallOk (Clear env)) crew
      turns) :
    Quota t tpl limit (turns.foldl (Crew.step (exec env) evaluateTask) crew).state.db := by
  refine (Crew.crew_invariant (I := fun w : World => Keeping t tpl limit w.db) evaluateTask_calls
    (fun op w ha hok h => exec_keeping ha hok h) (fun i => ?_) (hstart.keeping hlimit) hclear).quota
  rw [hidle i]
  exact trivial

/-! #### Two schedules of one template -/

def rivalSchedule : AuditSchedule :=
  { sampleSchedule with scheduleId := "sch_2", name := "SCM rival", overlapPolicy := .prevent }

/-- Two schedules of the template `tpl_1`, both with the limit one. -/
def rivalCrew : Crew Op.Result SchedulingError World where
  state := { db := sampleDatabase [{ sampleSchedule with overlapPolicy := .prevent },
    rivalSchedule] }

def rivalRequest (scheduleId : String) : EvaluateDue :=
  { tenantId := "tnt_a", scheduleId := some scheduleId }

/-- The second worker starts when the first has begun to launch. -/
def orderlyTurns : List (Turn EvaluateDue) :=
  .start 0 (rivalRequest "sch_1") :: List.replicate 8 (.advance 0) ++
    .start 1 (rivalRequest "sch_2") :: List.replicate 6 (.advance 1)

theorem rivalCrew_unlaunched : Unlaunched "tnt_a" "tpl_1" rivalCrew.state.db where
  wellFormed := Orchestration.Fresh.wellFormed ⟨List.nodup_nil, by simp [rivalCrew, sampleDatabase], rfl,
    rfl, rfl, rfl⟩
  occurrences := rfl
  active := rfl

theorem crew_quota_sample :
    Quota "tnt_a" "tpl_1" 1
      (orderlyTurns.foldl (Crew.step (exec tenEnvironment) evaluateTask) rivalCrew).state.db :=
  crew_quota (fun _ => rfl) rivalCrew_unlaunched (by decide) (by decide +kernel)

/-- Both workers run their preflights before either of them launches. -/
def rivalTurns : List (Turn EvaluateDue) :=
  .start 0 (rivalRequest "sch_1") :: .start 1 (rivalRequest "sch_2") ::
    (List.replicate 6 (.advance 0) ++ List.replicate 6 (.advance 1) ++
      List.replicate 2 (.advance 0) ++ List.replicate 2 (.advance 1))

theorem crew_quota_exceeded :
    ¬ (((rivalTurns.foldl (Crew.step (exec tenEnvironment) evaluateTask)
        rivalCrew).state.db.activeEngagements "tnt_a" "tpl_1").length ≤ 1) ∧
    ¬ ((rivalTurns.foldl (Crew.step (exec tenEnvironment) evaluateTask)
        rivalCrew).state.db.activeEngagements "tnt_a" "tpl_1").Pairwise
          fun a b => ¬ a.period.Overlaps b.period := by
  decide +kernel

end Workers

end Scheduling
