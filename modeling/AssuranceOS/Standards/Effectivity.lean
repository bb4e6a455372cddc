/-
What stands behind a compiled engagement.

Every compilation of a run is made under an approved registration of the very package
(`UsesApprovedPack`) and is the first of its engagement (`FirstCompilation`).  That the criteria
and the standard are in force over the engagement's own period (`PeriodCovered`) is not checked:
the period that is checked comes with the request, and the window of the standard is never
read.  `compilations_lawful` says that the runs whose requests agree with their engagements
(`PeriodAgrees`) keep it; `unrelated_period_compiles` is a run that does not.
-/
import AssuranceOS.Standards.Pinning
import AssuranceOS.Standards.Service

namespace Standards

open Checked

variable {db db' start : Database} {call : Call} {request : CompileRequest}
  {reply : CompilationReply} {calls : List Call}

/-- The registration of the pack at the digest that is compiled. -/
def UsesApprovedPack (db : Database) (call : Call) (request : CompileRequest)
    (reply : CompilationReply) : Prop :=
  ∃ pack registration, call.service.getPack request.packId request.version = .ok pack ∧
    registration ∈ db.registrations ∧ registration.packId = request.packId ∧
    registration.version = request.version ∧ registration.status = .approved ∧
    registration.packageSha256 = pack.packageSha256 ∧
    reply.pins.packageSha256 = pack.packageSha256

def Compiles (db : Database) (call : Call) (engagementId : String) : Prop :=
  ∃ request r, call.op = .compileEngagement request ∧ request.engagementId = engagementId ∧
    call.compileEngagement db request = .ok r

/-- No earlier call has compiled for the engagement. -/
def FirstCompilation (start : Database) (before : List Call) (engagementId : String) : Prop :=
  Runs.EachSplit (fun earlier call => ¬ Compiles (run start earlier) call engagementId) before

/-- The standard and the criteria are in force over the engagement's own period. -/
def PeriodCovered (db : Database) (call : Call) (request : CompileRequest) : Prop :=
  ∃ pack engagement, call.service.getPack request.packId request.version = .ok pack ∧
    db.getEngagement request.engagementId = some engagement ∧
    pack.manifest.standard.effective.Covers engagement.periodStart engagement.periodEnd ∧
    ∀ criterion ∈ pack.manifest.criteria,
      criterion.effective.Covers engagement.periodStart engagement.periodEnd

/-- The period of a request spans the engagement's own, and the standard is in force over it. -/
def PeriodAgrees (db : Database) (call : Call) : Prop :=
  ∀ request, call.op = .compileEngagement request →
    ∀ engagement ∈ db.getEngagement request.engagementId,
      request.context.periodStart ≤ engagement.periodStart ∧
      engagement.periodEnd ≤ request.context.periodEnd ∧
      ∀ pack, call.service.getPack request.packId request.version = .ok pack →
        pack.manifest.standard.effective.Covers engagement.periodStart engagement.periodEnd

theorem admittedRegistration_eq_ok {pack : LoadedAuditPack} {r : AuditPackRegistration}
    (h : Call.admittedRegistration db request pack = .ok r) :
    r ∈ db.registrations ∧ r.packId = request.packId ∧ r.version = request.version ∧
      r.status = .approved ∧ r.packageSha256 = pack.packageSha256 := by
  unfold Call.admittedRegistration at h
  obtain ⟨r', hr, hstatus⟩ := ofOption_bind_eq_ok.mp h
  obtain ⟨happroved, hdigest⟩ := require_bind_eq_ok.mp hstatus
  obtain ⟨hsame, hreturn⟩ := require_bind_eq_ok.mp hdigest
  cases hreturn
  have hkey := List.find?_some hr
  rw [decide_eq_true_eq] at hkey
  exact ⟨List.mem_of_find?_eq_some hr, hkey.1, hkey.2, happroved, hsame⟩

theorem uncompiledEngagement_eq_ok {e : Engagement}
    (h : Call.uncompiledEngagement db request = .ok e) :
    db.getEngagement request.engagementId = some e ∧ e.tenantId = request.context.tenantId := by
  unfold Call.uncompiledEngagement at h
  obtain ⟨e', he, htenant⟩ := ofOption_bind_eq_ok.mp h
  obtain ⟨heq, hnone⟩ := require_bind_eq_ok.mp htenant
  obtain ⟨-, hreturn⟩ := require_bind_eq_ok.mp hnone
  cases hreturn
  exact ⟨he, heq⟩

/-- **One compilation**: the pack, the registration and the engagement it has found, the pins of
the pack, and the row it leaves. -/
theorem compileEngagement_eq_ok (h : call.compileEngagement db request = .ok (db', reply)) :
    ∃ pack registration engagement workflow row,
      call.service.getPack request.packId request.version = .ok pack ∧
      Call.admittedRegistration db request pack = .ok registration ∧
      Call.uncompiledEngagement db request = .ok engagement ∧
      call.service.compiler.compile pack request.context = .ok (workflow, reply.pins) ∧
      row.engagementId = request.engagementId ∧
      (∀ c ∈ db.compilations, c.engagementId ≠ request.engagementId) ∧
      db'.compilations = db.compilations ++ [row] := by
  unfold Call.compileEngagement at h
  obtain ⟨pack, hpack, hadmitted⟩ := bind_eq_ok.mp h
  obtain ⟨registration, hregistration, hengagement⟩ := bind_eq_ok.mp hadmitted
  obtain ⟨engagement, huncompiled, hcompile⟩ := bind_eq_ok.mp hengagement
  obtain ⟨⟨workflow, pins⟩, hcompiled, horchestration⟩ := bind_eq_ok.mp hcompile
  obtain ⟨⟨orchestration, rows⟩, -, hadd⟩ := bind_eq_ok.mp horchestration
  obtain ⟨added, hadded, hreturn⟩ := bind_eq_ok.mp hadd
  obtain ⟨rfl, rfl⟩ := Prod.mk.inj (Except.ok.inj hreturn)
  obtain ⟨hunique, hrows⟩ := require_bind_eq_ok.mp hadded
  cases hrows
  exact ⟨pack, registration, engagement, workflow, _, hpack, hregistration, huncompiled, hcompiled,
    rfl, fun c hc => (hunique c hc).2, rfl⟩

theorem usesApprovedPack (h : call.compileEngagement db request = .ok (db', reply)) :
    UsesApprovedPack db call request reply := by
  obtain ⟨pack, registration, -, workflow, -, hpack, hregistration, -, hcompiled, -⟩ :=
    compileEngagement_eq_ok h
  obtain ⟨hmem, hid, hversion, hstatus, hdigest⟩ := admittedRegistration_eq_ok hregistration
  obtain ⟨-, -, -, -, -, roles, -, hpins⟩ := AuditPackCompiler.compile_eq_ok.mp hcompiled
  exact ⟨pack, registration, hpack, hmem, hid, hversion, hstatus, hdigest, by rw [← hpins]; rfl⟩

theorem periodCovered (hop : call.op = .compileEngagement request) (hagrees : PeriodAgrees db call)
    (h : call.compileEngagement db request = .ok (db', reply)) :
    PeriodCovered db call request := by
  obtain ⟨pack, -, engagement, workflow, -, hpack, -, hengagement, hcompiled, -⟩ :=
    compileEngagement_eq_ok h
  have hfound := (uncompiledEngagement_eq_ok hengagement).1
  obtain ⟨hstart, hstop, hstandard⟩ := hagrees request hop engagement hfound
  have hcriteria := checkEffectivity_eq_ok.mp (AuditPackCompiler.compile_eq_ok.mp hcompiled).2.2.1
  exact ⟨pack, engagement, hpack, hfound, hstandard pack hpack,
    fun criterion hcriterion => (hcriteria criterion hcriterion).mono hstart hstop⟩

theorem addCriterion_compilations {rows : List Criterion} :
    ∀ {db db' : Database}, rows.foldlM Database.addCriterion db = .ok db' →
      db'.compilations = db.compilations := by
  induction rows with
  | nil =>
    intro db db' h
    cases h
    rfl
  | cons row rows ih =>
    intro db db' h
    rw [List.foldlM_cons] at h
    obtain ⟨added, hadded, hrest⟩ := bind_eq_ok.mp h
    obtain ⟨-, hrow⟩ := require_bind_eq_ok.mp hadded
    cases hrow
    have hkept := ih hrest
    exact hkept

theorem exec_keeps (h : call.exec db = .ok db') : ∀ c ∈ db.compilations, c ∈ db'.compilations := by
  have hsame : db'.compilations = db.compilations →
      ∀ c ∈ db.compilations, c ∈ db'.compilations := fun heq c hc => heq ▸ hc
  unfold Call.exec at h
  rcases hop : call.op with ⟨standard, criteria, tenantId⟩ |
      ⟨source, target, relation, rationale, assertedBy⟩ |
      ⟨name, targetType, targetRef, coverage, rationale, tenantId⟩ |
      ⟨tenantId, standardCode, licenceRef, grantedBy, expiresOn⟩ | ⟨pack, registeredBy⟩ |
      ⟨packId, version, approvedBy, reason⟩ | request
  all_goals rw [hop] at h
  · obtain ⟨-, hnew⟩ := require_bind_eq_ok.mp h
    obtain ⟨added, hadded, hcriteria⟩ := bind_eq_ok.mp hnew
    obtain ⟨-, hrow⟩ := require_bind_eq_ok.mp hadded
    cases hrow
    have hkept := addCriterion_compilations hcriteria
    exact hsame hkept
  · obtain ⟨sourceRow, -, htarget⟩ := bind_eq_ok.mp h
    obtain ⟨targetRow, -, hadd⟩ := bind_eq_ok.mp htarget
    obtain ⟨-, hrow⟩ := require_bind_eq_ok.mp hadd
    cases hrow
    exact hsame rfl
  · obtain ⟨-, hcriterion⟩ := require_bind_eq_ok.mp h
    obtain ⟨criterion, -, hadd⟩ := bind_eq_ok.mp hcriterion
    obtain ⟨-, hrow⟩ := require_bind_eq_ok.mp hadd
    cases hrow
    exact hsame rfl
  · obtain ⟨-, hrow⟩ := require_bind_eq_ok.mp h
    cases hrow
    exact hsame rfl
  · have hregister : call.registerPack db pack registeredBy = .ok db' := h
    unfold Call.registerPack at hregister
    split at hregister
    · split at hregister
      · cases hregister
      · cases hregister
        exact hsame rfl
    · obtain ⟨-, hrow⟩ := require_bind_eq_ok.mp hregister
      cases hrow
      exact hsame rfl
  · obtain ⟨record, -, hput⟩ := ofOption_bind_eq_ok.mp h
    have hdb := Except.ok.inj hput
    refine hsame ?_
    rw [← hdb]
    split
    · rfl
    · rfl
  · obtain ⟨⟨compiled, reply⟩, hcompile, rfl⟩ := map_eq_ok.mp h
    obtain ⟨-, -, -, -, row, -, -, -, -, -, -, hrows⟩ := compileEngagement_eq_ok hcompile
    rw [hrows]
    exact fun c hc => List.mem_append_left _ hc

theorem step_keeps (db : Database) (call : Call) :
    ∀ c ∈ db.compilations, c ∈ (step db call).compilations := by
  unfold step
  split
  · rename_i db' h
    exact exec_keeps h
  · exact fun c hc => hc

def Compiled (db : Database) (engagementId : String) : Prop :=
  ∃ c ∈ db.compilations, c.engagementId = engagementId

variable {engagementId : String}

theorem compiled_step (h : Compiled db engagementId) (call : Call) :
    Compiled (step db call) engagementId := by
  obtain ⟨c, hc, hid⟩ := h
  exact ⟨c, step_keeps db call c hc, hid⟩

theorem Compiles.compiled {engagementId : String} (h : Compiles db call engagementId) :
    Compiled (step db call) engagementId := by
  obtain ⟨request, ⟨compiled, reply⟩, hop, rfl, hcompile⟩ := h
  have hexec : call.exec db = .ok compiled := by
    unfold Call.exec
    rw [hop]
    exact map_eq_ok.mpr ⟨_, hcompile, rfl⟩
  obtain ⟨-, -, -, -, row, -, -, -, -, hid, -, hrows⟩ := compileEngagement_eq_ok hcompile
  unfold step
  rw [hexec]
  refine ⟨row, ?_, hid⟩
  show row ∈ compiled.compilations
  rw [hrows]
  exact List.mem_append_right _ List.mem_cons_self

theorem firstCompilation (h : ¬ Compiled (run start calls) engagementId) :
    FirstCompilation start calls engagementId := by
  intro earlier call later heq hcompiles
  refine h ?_
  rw [heq, run, List.foldl_append, List.foldl_cons]
  exact Runs.run_invariant_always (I := fun db => Compiled db engagementId)
    (fun db call hdb => compiled_step hdb call) hcompiles.compiled later

/-- **Compiled engagements.**  In every run each compilation uses an approved pack of the same
digest and is the first of its engagement; and in a run whose requests agree with their
engagements it covers the engagement's own period. -/
theorem compilations_lawful (start : Database) (calls : List Call) :
    Runs.EachSplit (fun before call => ∀ request db' reply, call.op = .compileEngagement request →
      call.compileEngagement (run start before) request = .ok (db', reply) →
      UsesApprovedPack (run start before) call request reply ∧
      FirstCompilation start before request.engagementId) calls ∧
    (Runs.EachStep step PeriodAgrees start calls →
      Runs.EachSplit (fun before call => ∀ request db' reply,
        call.op = .compileEngagement request →
        call.compileEngagement (run start before) request = .ok (db', reply) →
        PeriodCovered (run start before) call request) calls) := by
  constructor
  · intro before call after heq request db' reply hop h
    refine ⟨usesApprovedPack h, firstCompilation ?_⟩
    obtain ⟨-, -, -, -, -, -, -, -, -, -, hnone, -⟩ := compileEngagement_eq_ok h
    rintro ⟨c, hc, hid⟩
    exact hnone c hc hid
  · intro hagrees before call after heq request db' reply hop h
    exact periodCovered hop (Runs.eachStep_iff.mp hagrees before call after heq) h

/-! ### A period that is not the engagement's -/

theorem dated_ordered : Window.Ordered ⟨some 738000, none⟩ := by
  intro start _ stop hstop
  cases hstop

def datedCriterion : PackCriterion where
  criteriaId := "CHG-1"
  text := "Every change is approved."
  citation := "Section 1"
  effective := ⟨some 738000, none⟩
  effective_ordered := dated_ordered

theorem datedControls_cite : ∀ control ∈ (sampleManifest []).controls,
    ∀ code ∈ control.criteriaRefs, code ∈ [datedCriterion].map (·.criteriaId) := by
  decide

def datedManifest : PackManifest :=
  { sampleManifest [] with
    criteria := [datedCriterion]
    criteria_ne_nil := List.cons_ne_nil _ _
    criteriaIds_nodup := List.nodup_singleton _
    controls_cite_criteria := datedControls_cite }

def datedPack : LoadedAuditPack where
  packDirName := "change"
  manifest := datedManifest
  packageSha256 := "package"

theorem samplePeriod_ordered (first : ℤ) : first ≤ first + 100 := by
  omega

def sampleEngagement (first : ℤ) : Engagement where
  engagementId := "engagement"
  tenantId := "tenant"
  auditPackRef := ""
  periodStart := first
  periodEnd := first + 100
  period_ordered := samplePeriod_ordered first

def sampleDatabase (first : ℤ) : Database where
  engagements := [sampleEngagement first]
  orchestration := { engagements := [], uuid := fun _ => "event" }

def sampleService : StandardsService where
  registry := some [datedPack]
  compiler := samplePlatform []
  sha256 _ := "digest"

/-- For the period of `sampleContext`. -/
def sampleRequest : CompileRequest where
  packId := "change"
  version := "1.0.0"
  context := sampleContext
  engagementId := "engagement"
  compiledBy := "auditor"

def sampleCall (op : Op) : Call where
  service := sampleService
  newId n := if n = 0 then "row" else "task"
  now := 0
  op := op

def sampleApproval : List Call :=
  [sampleCall (.registerPack datedPack "librarian"),
    sampleCall (.approvePack "change" "1.0.0" "reviewer" "reviewed")]

def sampleCompilation : Call := sampleCall (.compileEngagement sampleRequest)

theorem sampleCompilation_isOk (first : ℤ) (hfirst : first = 738000 ∨ first = 730000) :
    ∃ r, sampleCompilation.compileEngagement (run (sampleDatabase first) sampleApproval)
      sampleRequest = .ok r := by
  have hok : (sampleCompilation.compileEngagement (run (sampleDatabase first) sampleApproval)
      sampleRequest).isOk = true := by
    rcases hfirst with rfl | rfl
    · decide +kernel
    · decide +kernel
  rcases hcompile : sampleCompilation.compileEngagement
      (run (sampleDatabase first) sampleApproval) sampleRequest with e | r
  · rw [hcompile] at hok
    cases hok
  · exact ⟨r, rfl⟩

theorem getEngagement_sample (first : ℤ) :
    (run (sampleDatabase first) sampleApproval).getEngagement "engagement" =
      some (sampleEngagement first) := by
  rfl

theorem getPack_sample : sampleService.getPack "change" "1.0.0" = .ok datedPack := by
  rfl

theorem sample_agrees : Runs.EachStep step PeriodAgrees (sampleDatabase 738000)
    (sampleApproval ++ [sampleCompilation]) := by
  refine Runs.eachStep_append.mpr ⟨⟨?_, ?_, trivial⟩, ?_, trivial⟩
  · intro request hop
    cases hop
  · intro request hop
    cases hop
  · intro request hop engagement hengagement
    cases hop
    have hfound := getEngagement_sample 738000
    cases hfound.symm.trans hengagement
    refine ⟨le_rfl, le_rfl, ?_⟩
    intro pack hpack
    cases getPack_sample.symm.trans hpack
    exact ⟨fun d hd => (by cases hd), fun d hd => (by cases hd)⟩

/-- The criteria are in force over the period of the engagement. -/
theorem compilations_lawful_sample :
    PeriodCovered (run (sampleDatabase 738000) sampleApproval) sampleCompilation sampleRequest := by
  obtain ⟨⟨db', reply⟩, h⟩ := sampleCompilation_isOk 738000 (.inl rfl)
  exact (compilations_lawful (sampleDatabase 738000) (sampleApproval ++ [sampleCompilation])).2
    sample_agrees sampleApproval sampleCompilation [] rfl sampleRequest db' reply rfl h

/-- An engagement of a period in which its criterion is not in force, compiled for another. -/
theorem unrelated_period_compiles :
    ¬ ∀ start calls, Runs.EachSplit (fun before call => ∀ request db' reply,
      call.op = .compileEngagement request →
      call.compileEngagement (run start before) request = .ok (db', reply) →
      PeriodCovered (run start before) call request) calls := by
  intro hclaim
  obtain ⟨⟨db', reply⟩, h⟩ := sampleCompilation_isOk 730000 (.inr rfl)
  obtain ⟨pack, engagement, hpack, hengagement, -, hcriteria⟩ :=
    hclaim (sampleDatabase 730000) (sampleApproval ++ [sampleCompilation]) sampleApproval
      sampleCompilation [] rfl sampleRequest db' reply rfl h
  cases getPack_sample.symm.trans hpack
  have hfound := getEngagement_sample 730000
  cases hfound.symm.trans hengagement
  have hstart := (hcriteria datedCriterion List.mem_cons_self).1 738000 rfl
  revert hstart
  decide

end Standards
