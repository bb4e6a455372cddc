/-
The canonical profile through a run (`OnboardingService`).

`approve` looks at the facts once and makes the profile canonical; the other
operations do not ask whether it is.

* `Edit` — a write to the rows of one profile: its own row, its workflow or its facts.
* `Accepted` — what an accepted call did: it started a profile, or it edited one under
  the checks that it passed.
* `run_canonical` — in a run in which no source is captured for a canonical profile and
  no fact is proposed to one, its workflow stays approved, none of its facts waits for
  review, and its identity and accepted facts stay as they are.
-/
import AssuranceOS.Lib.Runs
import AssuranceOS.Onboarding.Service

namespace Onboarding

open Checked Table OnboardingService

variable {S : OnboardingService} {db db' : Database} {call : Call} {q : String}

/-- Each profile has one workflow, and workflows and facts belong to profiles. -/
structure WellFormed (db : Database) : Prop where
  profileId_nodup : (db.profiles.map OrganizationProfile.profileId).Nodup
  workflowId_nodup : (db.workflows.map OnboardingWorkflow.workflowId).Nodup
  factId_nodup : (db.facts.map OrganizationFact.factId).Nodup
  /-- The workflows and the profiles are in bijection. -/
  profile_of_workflow :
    db.workflows.map OnboardingWorkflow.profileId = db.profiles.map OrganizationProfile.profileId
  profile_of_fact : ∀ f ∈ db.facts, f.profileId ∈ db.profiles.map OrganizationProfile.profileId

theorem Fresh.wellFormed (h : Fresh db) : WellFormed db where
  profileId_nodup := by simp [h.profiles]
  workflowId_nodup := by simp [h.workflows]
  factId_nodup := by simp [h.facts]
  profile_of_workflow := by simp [h.workflows, h.profiles]
  profile_of_fact := by simp [h.facts]

variable {w : OnboardingWorkflow} {tenantId workflowId : String} {f : OrganizationFact}
  {hex : String → Nat → String} {now : Nat}

theorem WellFormed.eq_of_profileId (hw : WellFormed db) {w' : OnboardingWorkflow}
    (hmem : w ∈ db.workflows) (hmem' : w' ∈ db.workflows) (h : w.profileId = w'.profileId) :
    w = w' :=
  eq_of_key_eq (hw.profile_of_workflow ▸ hw.profileId_nodup) hmem hmem' h

def Database.factsOf (db : Database) (profileId : String) : List OrganizationFact :=
  ownedBy OrganizationFact.profileId profileId db.facts

/-- A write to the rows of the profile `q`, or to a table beside them. -/
inductive Edit (q : String) (db : Database) : Database → Prop
  | workflow {w : OnboardingWorkflow} (w' : OnboardingWorkflow) (mem : w ∈ db.workflows)
      (id : w'.workflowId = w.workflowId) (owned : w.profileId = q) (owned' : w'.profileId = q) :
      Edit q db (db.putWorkflow w')
  | profile {p : OrganizationProfile} (p' : OrganizationProfile) (mem : p ∈ db.profiles)
      (id : p.profileId = q) (id' : p'.profileId = q) : Edit q db (db.putProfile p')
  | newFact (f : OrganizationFact) (owned : f.profileId = q)
      (listed : q ∈ db.profiles.map OrganizationProfile.profileId)
      (unique : f.factId ∉ db.facts.map OrganizationFact.factId) :
      Edit q db { db with facts := db.facts ++ [f] }
  | fact {f : OrganizationFact} (f' : OrganizationFact) (mem : f ∈ db.facts)
      (id : f'.factId = f.factId) (owned : f.profileId = q) (owned' : f'.profileId = q) :
      Edit q db { db with facts := Table.put OrganizationFact.factId f' db.facts }
  | beside (snapshots : List PublicSourceSnapshot) (decisions : List OrganizationFactDecision) :
      Edit q db { db with snapshots := snapshots, decisions := decisions }

/-- The rows of the other profiles are as they were. -/
structure Touches (q : String) (db db' : Database) : Prop where
  profiles : ∀ p : OrganizationProfile, p.profileId ≠ q → (p ∈ db'.profiles ↔ p ∈ db.profiles)
  workflows : ∀ w : OnboardingWorkflow, w.profileId ≠ q → (w ∈ db'.workflows ↔ w ∈ db.workflows)
  facts : ∀ r, r ≠ q → db'.factsOf r = db.factsOf r

theorem Touches.refl (q : String) (db : Database) : Touches q db db :=
  ⟨fun _ _ => .rfl, fun _ _ => .rfl, fun _ _ => rfl⟩

variable {db₁ db₂ db₃ : Database} {data : FactDecisionInput} {approvedBy : String}
  {p : OrganizationProfile}

theorem Touches.trans (h : Touches q db₁ db₂) (h' : Touches q db₂ db₃) :
    Touches q db₁ db₃ :=
  ⟨fun p hp => (h'.profiles p hp).trans (h.profiles p hp),
    fun w hw => (h'.workflows w hw).trans (h.workflows w hw),
    fun r hr => (h'.facts r hr).trans (h.facts r hr)⟩

theorem mem_put_of_owner {α : Type} {key owner : α → String} {rows : List α} {r₀ r x : α}
    (hn : (rows.map key).Nodup) (hr₀ : r₀ ∈ rows) (hk : key r = key r₀) (ho : owner r₀ = q)
    (ho' : owner r = q) (hx : owner x ≠ q) : x ∈ put key r rows ↔ x ∈ rows := by
  rw [mem_put hn hr₀ hk]
  constructor
  · rintro (rfl | ⟨hmem, -⟩)
    · exact absurd ho' hx
    · exact hmem
  · intro hmem
    refine Or.inr ⟨hmem, fun heq => hx ?_⟩
    rw [heq, ho]

theorem Edit.touches (h : Edit q db db') (hw : WellFormed db) : Touches q db db' := by
  cases h with
  | workflow w' mem id owned owned' =>
    exact ⟨fun _ _ => .rfl,
      fun w hne => mem_put_of_owner hw.workflowId_nodup mem id owned owned' hne, fun _ _ => rfl⟩
  | profile p' mem id id' =>
    exact ⟨fun p hne => mem_put_of_owner hw.profileId_nodup mem (id'.trans id.symm) id id' hne,
      fun _ _ => .rfl, fun _ _ => rfl⟩
  | newFact f owned listed unique =>
    refine ⟨fun _ _ => .rfl, fun _ _ => .rfl, fun r hr => ?_⟩
    exact ownedBy_append_of_ne fun heq => hr (heq.symm.trans owned)
  | fact f' mem id owned owned' =>
    refine ⟨fun _ _ => .rfl, fun _ _ => .rfl, fun r hr => ?_⟩
    have howner : ∀ g ∈ db.facts, g.factId = f'.factId → g.profileId = f'.profileId := by
      intro g hg heq
      rw [eq_of_key_eq hw.factId_nodup hg mem (heq.trans id), owned, owned']
    show ownedBy OrganizationFact.profileId r (put OrganizationFact.factId f' db.facts) = _
    rw [ownedBy_put howner, put_eq_self fun g hg heq => ?_]
    · rfl
    · obtain ⟨hg, hr'⟩ := mem_ownedBy.mp hg
      exact hr (hr'.symm.trans ((howner g hg heq).trans owned'))
  | beside => exact ⟨fun _ _ => .rfl, fun _ _ => .rfl, fun _ _ => rfl⟩

theorem Edit.wellFormed (h : Edit q db db') (hw : WellFormed db) : WellFormed db' := by
  cases h with
  | workflow w' mem id owned owned' =>
    refine ⟨hw.profileId_nodup, ?_, hw.factId_nodup, ?_, hw.profile_of_fact⟩
    · show ((put OnboardingWorkflow.workflowId w' db.workflows).map _).Nodup
      rw [map_put_key]
      exact hw.workflowId_nodup
    · show (put OnboardingWorkflow.workflowId w' db.workflows).map _ = _
      rw [map_put fun w hmem heq => ?_]
      · exact hw.profile_of_workflow
      · rw [eq_of_key_eq hw.workflowId_nodup hmem mem (heq.trans id), owned, owned']
  | profile p' mem id id' =>
    have hids : (put OrganizationProfile.profileId p' db.profiles).map
        OrganizationProfile.profileId = db.profiles.map OrganizationProfile.profileId :=
      map_put_key _ _
    refine ⟨?_, hw.workflowId_nodup, hw.factId_nodup, ?_, ?_⟩
    · exact hids ▸ hw.profileId_nodup
    · exact hids ▸ hw.profile_of_workflow
    · exact hids ▸ hw.profile_of_fact
  | newFact f owned listed unique =>
    refine ⟨hw.profileId_nodup, hw.workflowId_nodup,
      nodup_append_of_not_mem hw.factId_nodup unique, hw.profile_of_workflow, fun g hg => ?_⟩
    rcases List.mem_append.mp hg with hg | hg
    · exact hw.profile_of_fact g hg
    · rw [List.mem_singleton.mp hg, owned]
      exact listed
  | fact f' mem id owned owned' =>
    refine ⟨hw.profileId_nodup, hw.workflowId_nodup, ?_, hw.profile_of_workflow, fun g hg => ?_⟩
    · show ((put OrganizationFact.factId f' db.facts).map _).Nodup
      rw [map_put_key]
      exact hw.factId_nodup
    · rcases eq_or_mem_of_mem_put hg with rfl | ⟨hg, -⟩
      · rw [owned', ← owned]
        exact hw.profile_of_fact _ mem
      · exact hw.profile_of_fact g hg
  | beside =>
    exact ⟨hw.profileId_nodup, hw.workflowId_nodup, hw.factId_nodup, hw.profile_of_workflow,
      hw.profile_of_fact⟩

abbrev Edits (q : String) : Database → Database → Prop :=
  Relation.ReflTransGen (Edit q)

theorem Edits.wellFormed (h : Edits q db db') (hw : WellFormed db) : WellFormed db' := by
  induction h with
  | refl => exact hw
  | tail _ hedit ih => exact hedit.wellFormed ih

theorem Edits.touches (h : Edits q db db') (hw : WellFormed db) : Touches q db db' := by
  induction h with
  | refl => exact .refl q db
  | tail hedits hedit ih => exact ih.trans (hedit.touches (Edits.wellFormed hedits hw))

theorem getWorkflow_eq_some (h : db.getWorkflow tenantId workflowId = some w) : w ∈ db.workflows :=
  List.mem_of_find?_eq_some h

theorem addFact_eq_ok (h : db.addFact f = .ok db') :
    f.factId ∉ db.facts.map OrganizationFact.factId ∧
      db' = { db with facts := db.facts ++ [f] } := by
  obtain ⟨-, h⟩ := require_bind_eq_ok.mp h
  obtain ⟨rows, hrows, h⟩ := ofOption_bind_eq_ok.mp h
  obtain ⟨hunique, rfl⟩ := insert?_eq_some.mp hrows
  exact ⟨hunique, (Except.ok.inj h).symm⟩

theorem putFact_eq_ok (h : db.putFact f = .ok db') :
    db' = { db with facts := Table.put OrganizationFact.factId f db.facts } := by
  obtain ⟨-, h⟩ := require_bind_eq_ok.mp h
  exact (Except.ok.inj h).symm

theorem captureSource_edits {data : PublicSourceInput} {vault : Except Vault.VaultError String}
    (h : S.captureSource db hex tenantId workflowId data vault = .ok db') :
    ∃ w, db.getWorkflow tenantId workflowId = some w ∧ vault.toOption.isSome = true ∧
      db'.profiles = db.profiles ∧ Edits w.profileId db db' := by
  obtain ⟨w, hw, h⟩ := ofOption_bind_eq_ok.mp h
  obtain ⟨evidenceId, hvault, h⟩ := bind_eq_ok.mp h
  obtain ⟨db₁, h₁, h⟩ := bind_eq_ok.mp h
  have hbeside : ∃ snapshots, db₁ = { db with snapshots := snapshots } := by
    unfold keepSnapshot at h₁
    split at h₁
    · exact ⟨db.snapshots, (Except.ok.inj h₁).symm⟩
    · obtain ⟨rows, -, h₁⟩ := ofOption_bind_eq_ok.mp h₁
      exact ⟨rows, (Except.ok.inj h₁).symm⟩
  obtain ⟨snapshots, rfl⟩ := hbeside
  obtain rfl := Except.ok.inj h
  refine ⟨w, hw, ?_, rfl, .tail (.single (.beside snapshots db.decisions))
    (.workflow _ (getWorkflow_eq_some hw) rfl rfl rfl)⟩
  cases vault with
  | ok e => rfl
  | error e => cases hvault

theorem proposeFact_edits (hwf : WellFormed db) {data : FactProposalInput}
    (h : proposeFact db now hex tenantId workflowId data = .ok db') :
    ∃ w snapshot, reviewProposal db tenantId workflowId data = .ok (w, snapshot) ∧
      db'.profiles = db.profiles ∧ Edits w.profileId db db' := by
  obtain ⟨⟨w, snapshot⟩, hreview, h⟩ := bind_eq_ok.mp h
  obtain ⟨db₁, h₁, h⟩ := bind_eq_ok.mp h
  obtain ⟨hunique, rfl⟩ := addFact_eq_ok h₁
  obtain rfl := Except.ok.inj h
  have hmem : w ∈ db.workflows := by
    obtain ⟨-, hreview⟩ := require_bind_eq_ok.mp hreview
    obtain ⟨w₁, hw₁, hreview⟩ := ofOption_bind_eq_ok.mp hreview
    obtain ⟨snapshot₁, -, hreview⟩ := bind_eq_ok.mp hreview
    obtain ⟨-, hreview⟩ := require_bind_eq_ok.mp hreview
    obtain ⟨rfl, -⟩ := Prod.mk.inj (Except.ok.inj hreview)
    exact getWorkflow_eq_some hw₁
  have hlisted : w.profileId ∈ db.profiles.map OrganizationProfile.profileId :=
    hwf.profile_of_workflow ▸ List.mem_map_of_mem hmem
  exact ⟨w, snapshot, hreview, rfl, .tail (.single (.newFact _ rfl hlisted hunique))
    (.workflow _ hmem rfl rfl rfl)⟩

theorem promoteToProfile_edits (db : Database) (w : OnboardingWorkflow) (f : OrganizationFact) :
    Edits w.profileId db (promoteToProfile db w f) ∧
      ∀ p' ∈ (promoteToProfile db w f).profiles, ∃ p ∈ db.profiles,
        p.profileId = p'.profileId ∧ p.status = p'.status := by
  have hsame : Edits w.profileId db db ∧ ∀ p' ∈ db.profiles, ∃ p ∈ db.profiles,
      p.profileId = p'.profileId ∧ p.status = p'.status :=
    ⟨.refl, fun p' hp' => ⟨p', hp', rfl, rfl⟩⟩
  unfold promoteToProfile
  split
  next column value profile hcolumn hvalue hprofile =>
    split
    · have hmem := mem_of_get? hprofile
      have hid : profile.profileId = w.profileId := key_of_get? hprofile
      have hset : ∀ (p : OrganizationProfile) (text : String),
          (p.set column text).profileId = p.profileId ∧ (p.set column text).status = p.status := by
        intro p text
        cases column <;> exact ⟨rfl, rfl⟩
      refine ⟨.single (.profile _ hmem hid ((hset _ _).1.trans hid)), fun p' hp' => ?_⟩
      rcases eq_or_mem_of_mem_put hp' with rfl | ⟨hp', -⟩
      · exact ⟨profile, hmem, (hset _ _).1.symm, (hset _ _).2.symm⟩
      · exact ⟨p', hp', rfl, rfl⟩
    · exact hsame
  next => exact hsame

theorem reviewFact_edits (hwf : WellFormed db) {reviewed : Reviewed} (hw : w ∈ db.workflows)
    (hf : f ∈ db.facts) (hfw : f.profileId = w.profileId)
    (h : reviewFact db now hex tenantId w f data = .ok reviewed) :
    Edits w.profileId db reviewed.db ∧ reviewed.db.profiles = db.profiles ∧
      reviewed.db.workflows = db.workflows := by
  unfold reviewFact at h
  split at h
  · obtain ⟨written, hwritten, h⟩ := bind_eq_ok.mp h
    obtain rfl := putFact_eq_ok hwritten
    cases h
    exact ⟨.single (.fact _ hf rfl hfw hfw), rfl, rfl⟩
  · obtain ⟨written, hwritten, h⟩ := bind_eq_ok.mp h
    obtain rfl := putFact_eq_ok hwritten
    cases h
    exact ⟨.single (.fact _ hf rfl hfw hfw), rfl, rfl⟩
  · obtain ⟨written, hwritten, h⟩ := bind_eq_ok.mp h
    obtain rfl := putFact_eq_ok hwritten
    obtain ⟨added, hadded, h⟩ := bind_eq_ok.mp h
    obtain ⟨hunique, rfl⟩ := addFact_eq_ok hadded
    cases h
    have hlisted : w.profileId ∈ db.profiles.map OrganizationProfile.profileId :=
      hwf.profile_of_workflow ▸ List.mem_map_of_mem hw
    refine ⟨.tail (.single ?_) (.newFact _ rfl hlisted hunique), rfl, rfl⟩
    exact .fact _ hf rfl hfw hfw

theorem decideFact_edits (hwf : WellFormed db) {factId : String}
    (h : decideFact db now hex tenantId workflowId factId data = .ok db') :
    ∃ w ∈ db.workflows, (∃ f ∈ db.facts, f.profileId = w.profileId ∧ f.status = .proposed) ∧
      Edits w.profileId db db' ∧ ∀ p' ∈ db'.profiles, ∃ p ∈ db.profiles,
        p.profileId = p'.profileId ∧ p.status = p'.status := by
  obtain ⟨w, hw, h⟩ := ofOption_bind_eq_ok.mp h
  obtain ⟨f, hf, h⟩ := ofOption_bind_eq_ok.mp h
  obtain ⟨hproposed, h⟩ := require_bind_eq_ok.mp h
  obtain ⟨reviewed, hreview, h⟩ := bind_eq_ok.mp h
  obtain ⟨db₁, h₁, h⟩ := bind_eq_ok.mp h
  obtain ⟨rows, -, h₁⟩ := ofOption_bind_eq_ok.mp h₁
  obtain rfl := Except.ok.inj h₁
  obtain rfl := Except.ok.inj h
  have hw := getWorkflow_eq_some hw
  have hfmem := List.mem_of_find?_eq_some hf
  have hfound := List.find?_some hf
  simp only [decide_eq_true_eq] at hfound
  have hfw : f.profileId = w.profileId := hfound.2.1
  obtain ⟨hedits, hprofiles, hworkflows⟩ := reviewFact_edits hwf hw hfmem hfw hreview
  set decided := { reviewed.db with decisions := rows }.putWorkflow
    { w with
      status := if reviewed.remaining = 0 then .ready else .profileReview
      stateVersion := w.stateVersion + 1 }
  have hdecided : Edits w.profileId db decided := by
    refine .tail (.tail hedits (.beside reviewed.db.snapshots rows))
      (.workflow (w := w) _ ?_ rfl rfl rfl)
    show w ∈ reviewed.db.workflows
    rw [hworkflows]
    exact hw
  obtain ⟨hpromoted, hstatus⟩ :=
    promoteToProfile_edits decided w (reviewed.correction.getD reviewed.fact)
  refine ⟨w, hw, ⟨f, hfmem, hfw, hproposed⟩, hdecided.trans hpromoted, fun p' hp' => ?_⟩
  obtain ⟨p, hp, hboth⟩ := hstatus p' hp'
  have hsame : decided.profiles = db.profiles := hprofiles
  exact ⟨p, hsame ▸ hp, hboth⟩

theorem approve_edits (h : approve db now tenantId workflowId approvedBy = .ok db') :
    ∃ w ∈ db.workflows, ∃ p ∈ db.profiles, p.profileId = w.profileId ∧
      (∀ f ∈ db.facts, f.profileId = p.profileId → f.status ≠ .proposed) ∧
      ∃ w' : OnboardingWorkflow, w'.workflowId = w.workflowId ∧ w'.profileId = w.profileId ∧
        w'.status = .approved ∧
        db' = (db.putProfile { p with status := .canonical, canonicalAt := some now }).putWorkflow
          w' := by
  obtain ⟨w, hw, h⟩ := ofOption_bind_eq_ok.mp h
  obtain ⟨hpending, h⟩ := require_bind_eq_ok.mp h
  obtain ⟨p, hp, h⟩ := ofOption_bind_eq_ok.mp h
  obtain ⟨-, h⟩ := require_bind_eq_ok.mp h
  have hid : p.profileId = w.profileId := key_of_get? hp
  refine ⟨w, getWorkflow_eq_some hw, p, mem_of_get? hp, hid, fun f hf hfp hproposed => ?_,
    _, ?_, ?_, ?_, (Except.ok.inj h).symm⟩
  · -- a fact under review would have been counted
    have hnone := List.length_eq_zero_iff.mp hpending
    have hmem : f ∈ db.facts.filter fun f => f.profileId = w.profileId ∧ f.status = .proposed := by
      simpa using ⟨hf, hfp.trans hid, hproposed⟩
    rw [hnone] at hmem
    exact List.not_mem_nil hmem
  all_goals rfl

theorem addStated_edits {stated : List (String × String)} : ∀ {n : Nat} {db db' : Database},
    addStated now hex w n stated db = .ok db' →
    w.profileId ∈ db.profiles.map OrganizationProfile.profileId →
    Edits w.profileId db db' ∧ db'.profiles = db.profiles := by
  induction stated with
  | nil =>
    intro n db db' h _
    obtain rfl := Except.ok.inj h
    exact ⟨.refl, rfl⟩
  | cons entry rest ih =>
    intro n db db' h hlisted
    obtain ⟨db₁, h₁, h⟩ := bind_eq_ok.mp h
    obtain ⟨hunique, rfl⟩ := addFact_eq_ok h₁
    obtain ⟨hedits, hprofiles⟩ := ih h hlisted
    refine ⟨.head ?_ hedits, hprofiles⟩
    exact .newFact _ rfl hlisted hunique

theorem start_eq_ok {data : OnboardingStartInput} (h : start db now hex tenantId data = .ok db') :
    db' = db ∨ ∃ (p : OrganizationProfile) (w : OnboardingWorkflow),
      p.status = .draft ∧ w.profileId = p.profileId ∧
      p.profileId ∉ db.profiles.map OrganizationProfile.profileId ∧
      w.workflowId ∉ db.workflows.map OnboardingWorkflow.workflowId ∧
      db'.profiles = db.profiles ++ [p] ∧
      Edits p.profileId
        { db with profiles := db.profiles ++ [p], workflows := db.workflows ++ [w] } db' := by
  obtain ⟨-, h⟩ := require_bind_eq_ok.mp h
  split at h
  · exact Or.inl (Except.ok.inj h).symm
  · obtain ⟨db₁, h₁, h⟩ := bind_eq_ok.mp h
    obtain ⟨profiles, hprofiles, h₁⟩ := ofOption_bind_eq_ok.mp h₁
    obtain ⟨hprofile, rfl⟩ := insert?_eq_some.mp hprofiles
    obtain rfl := Except.ok.inj h₁
    obtain ⟨db₂, h₂, h⟩ := bind_eq_ok.mp h
    obtain ⟨workflows, hworkflows, h₂⟩ := ofOption_bind_eq_ok.mp h₂
    obtain ⟨hworkflow, rfl⟩ := insert?_eq_some.mp hworkflows
    obtain rfl := Except.ok.inj h₂
    obtain ⟨hedits, hsame⟩ := addStated_edits h (by simp)
    exact Or.inr ⟨_, _, rfl, rfl, hprofile, hworkflow, hsame, hedits⟩

/-! ### The canonical profile -/

def Database.IsCanonical (db : Database) (profileId : String) : Prop :=
  ∃ p ∈ db.profiles, p.profileId = profileId ∧ p.status = .canonical

def Database.acceptedFacts (db : Database) (profileId : String) : List OrganizationFact :=
  (db.factsOf profileId).filter fun f => f.status = .accepted

/-- A canonical profile has a workflow, which is approved, and no fact under review. -/
def Settled (db : Database) : Prop :=
  ∀ p ∈ db.profiles, p.status = .canonical →
    (∃ w ∈ db.workflows, w.profileId = p.profileId) ∧
    (∀ w ∈ db.workflows, w.profileId = p.profileId → w.status = .approved) ∧
    ∀ f ∈ db.facts, f.profileId = p.profileId → f.status ≠ .proposed

/-- A canonical profile stays canonical, with its identity and its accepted facts. -/
def KeepsCanonical (S : OnboardingService) (db : Database) (call : Call) : Prop :=
  ∀ p ∈ db.profiles, p.status = .canonical →
    ∃ p' ∈ (step S db call).profiles, p'.profileId = p.profileId ∧ p'.status = .canonical ∧
      p'.legalName = p.legalName ∧ p'.headquartersCountry = p.headquartersCountry ∧
      p'.industry = p.industry ∧
      (step S db call).acceptedFacts p.profileId = db.acceptedFacts p.profileId

/-- The call does not capture a source for a canonical profile, nor does it pass the
checks for a proposal to one. -/
def LeavesCanonical (db : Database) (call : Call) : Prop :=
  match call.op with
  | .captureSource tenantId workflowId _ vault =>
    vault.toOption.isSome = true → ∀ w, db.getWorkflow tenantId workflowId = some w →
      ¬ db.IsCanonical w.profileId
  | .proposeFact tenantId workflowId data =>
    ∀ w snapshot, reviewProposal db tenantId workflowId data = .ok (w, snapshot) →
      ¬ db.IsCanonical w.profileId
  | _ => True

/-- The canonical profiles of `db'` that are not `q` are as they were in `db`. -/
theorem Touches.keeps (h : Touches q db db') (p : OrganizationProfile) (hne : p.profileId ≠ q)
    (hp : p ∈ db.profiles) :
    p ∈ db'.profiles ∧ db'.acceptedFacts p.profileId = db.acceptedFacts p.profileId := by
  refine ⟨(h.profiles p hne).mpr hp, ?_⟩
  rw [Database.acceptedFacts, Database.acceptedFacts, h.facts _ hne]

theorem Touches.settled_at (h : Touches q db db') (hs : Settled db) (hne : p.profileId ≠ q)
    (hp : p ∈ db'.profiles) (hcanonical : p.status = .canonical) :
    (∃ w ∈ db'.workflows, w.profileId = p.profileId) ∧
    (∀ w ∈ db'.workflows, w.profileId = p.profileId → w.status = .approved) ∧
    ∀ f ∈ db'.facts, f.profileId = p.profileId → f.status ≠ .proposed := by
  obtain ⟨⟨w, hw, hwp⟩, happroved, hfacts⟩ := hs p ((h.profiles p hne).mp hp) hcanonical
  refine ⟨⟨w, (h.workflows w (hwp ▸ hne)).mpr hw, hwp⟩, fun w' hw' hwp' => ?_,
    fun f hf hfp => ?_⟩
  · exact happroved w' ((h.workflows w' (hwp' ▸ hne)).mp hw') hwp'
  · have hmem : f ∈ db'.factsOf p.profileId := mem_ownedBy.mpr ⟨hf, hfp⟩
    rw [h.facts _ hne] at hmem
    exact hfacts f (mem_ownedBy.mp hmem).1 hfp

/-- What holds of a step to `db'`. -/
structure Good (db db' : Database) : Prop where
  wellFormed : WellFormed db'
  settled : Settled db'
  keeps : ∀ p ∈ db.profiles, p.status = .canonical →
    ∃ p' ∈ db'.profiles, p'.profileId = p.profileId ∧ p'.status = .canonical ∧
      p'.legalName = p.legalName ∧ p'.headquartersCountry = p.headquartersCountry ∧
      p'.industry = p.industry ∧ db'.acceptedFacts p.profileId = db.acceptedFacts p.profileId

theorem Good.refl (hw : WellFormed db) (hs : Settled db) : Good db db :=
  ⟨hw, hs, fun p hp hcanonical => ⟨p, hp, rfl, hcanonical, rfl, rfl, rfl, rfl⟩⟩

theorem Edits.good (h : Edits q db db') (hw : WellFormed db) (hs : Settled db)
    (hnot : ¬ db.IsCanonical q)
    (hstatus : ∀ p' ∈ db'.profiles, ∃ p ∈ db.profiles,
      p.profileId = p'.profileId ∧ p.status = p'.status) : Good db db' := by
  have htouches := h.touches hw
  refine ⟨h.wellFormed hw, fun p hp hcanonical => ?_, fun p hp hcanonical => ?_⟩
  · refine htouches.settled_at hs (fun heq => hnot ?_) hp hcanonical
    obtain ⟨p₀, hp₀, hid, hsame⟩ := hstatus p hp
    exact ⟨p₀, hp₀, hid.trans heq, hsame.trans hcanonical⟩
  · have hne : p.profileId ≠ q := fun heq => hnot ⟨p, hp, heq, hcanonical⟩
    obtain ⟨hmem, hfacts⟩ := htouches.keeps p hne hp
    exact ⟨p, hmem, rfl, hcanonical, rfl, rfl, rfl, hfacts⟩

theorem Good.trans (h : Good db₁ db₂) (h' : Good db₂ db₃) :
    Good db₁ db₃ := by
  refine ⟨h'.wellFormed, h'.settled, fun p hp hcanonical => ?_⟩
  obtain ⟨p₂, hp₂, hid, hstill, hname, hcountry, hindustry, hfacts⟩ := h.keeps p hp hcanonical
  obtain ⟨p₃, hp₃, hid', hstill', hname', hcountry', hindustry', hfacts'⟩ :=
    h'.keeps p₂ hp₂ hstill
  rw [hid] at hfacts'
  exact ⟨p₃, hp₃, hid'.trans hid, hstill', hname'.trans hname, hcountry'.trans hcountry,
    hindustry'.trans hindustry, hfacts'.trans hfacts⟩

theorem new_good (hw : WellFormed db) (hs : Settled db) (hdraft : p.status = .draft)
    (howned : w.profileId = p.profileId)
    (hprofile : p.profileId ∉ db.profiles.map OrganizationProfile.profileId)
    (hworkflow : w.workflowId ∉ db.workflows.map OnboardingWorkflow.workflowId) :
    Good db { db with profiles := db.profiles ++ [p], workflows := db.workflows ++ [w] } := by
  refine ⟨⟨nodup_append_of_not_mem hw.profileId_nodup hprofile,
    nodup_append_of_not_mem hw.workflowId_nodup hworkflow, hw.factId_nodup, ?_, ?_⟩, ?_, ?_⟩
  · show (db.workflows ++ [w]).map _ = (db.profiles ++ [p]).map _
    rw [List.map_append, List.map_append, hw.profile_of_workflow]
    simp [howned]
  · intro f hf
    show f.profileId ∈ (db.profiles ++ [p]).map _
    rw [List.map_append]
    exact List.mem_append_left _ (hw.profile_of_fact f hf)
  · intro p' hp' hcanonical
    rcases List.mem_append.mp hp' with hp' | hp'
    · obtain ⟨⟨w', hw', hwp⟩, happroved, hfacts⟩ := hs p' hp' hcanonical
      refine ⟨⟨w', List.mem_append_left _ hw', hwp⟩, fun w₁ hw₁ hwp₁ => ?_, hfacts⟩
      rcases List.mem_append.mp hw₁ with hw₁ | hw₁
      · exact happroved w₁ hw₁ hwp₁
      · -- the new workflow belongs to the new profile
        rw [List.mem_singleton.mp hw₁, howned] at hwp₁
        exact absurd (hwp₁ ▸ List.mem_map_of_mem hp') hprofile
    · rw [List.mem_singleton.mp hp', hdraft] at hcanonical
      exact absurd hcanonical nofun
  · intro p' hp' hcanonical
    exact ⟨p', List.mem_append_left _ hp', rfl, hcanonical, rfl, rfl, rfl, rfl⟩

theorem start_good (hw : WellFormed db) (hs : Settled db) {data : OnboardingStartInput}
    (h : start db now hex tenantId data = .ok db') : Good db db' := by
  rcases start_eq_ok h with
    rfl | ⟨p, w, hdraft, howned, hprofile, hworkflow, hprofiles, hedits⟩
  · exact .refl hw hs
  · have hnew := new_good hw hs hdraft howned hprofile hworkflow
    refine hnew.trans (hedits.good hnew.wellFormed hnew.settled ?_ fun p' hp' => ?_)
    · rintro ⟨p₁, hp₁, hid, hcanonical⟩
      rcases List.mem_append.mp hp₁ with hp₁ | hp₁
      · exact hprofile (hid ▸ List.mem_map_of_mem hp₁)
      · rw [List.mem_singleton.mp hp₁, hdraft] at hcanonical
        exact absurd hcanonical nofun
    · exact ⟨p', hprofiles ▸ hp', rfl, rfl⟩

theorem approve_good (hw : WellFormed db) (hs : Settled db)
    (h : approve db now tenantId workflowId approvedBy = .ok db') : Good db db' := by
  obtain ⟨w, hmem, p, hp, hid, hpending, w', hwid, hwp, happroved, rfl⟩ := approve_edits h
  set approved := db.putProfile { p with status := .canonical, canonicalAt := some now }
  have hprofile : Edit p.profileId db approved := .profile _ hp rfl rfl
  have hworkflow : Edit p.profileId approved (approved.putWorkflow w') :=
    .workflow (w := w) w' hmem hwid hid.symm (hwp.trans hid.symm)
  have hedits : Edits p.profileId db (approved.putWorkflow w') := .tail (.single hprofile) hworkflow
  have htouches := hedits.touches hw
  refine ⟨hedits.wellFormed hw, fun p' hp' hcanonical => ?_, fun p' hp' hcanonical => ?_⟩
  · by_cases hsame : p'.profileId = p.profileId
    · have hw' : w' ∈ put OnboardingWorkflow.workflowId w' db.workflows := mem_put_self hmem hwid
      refine ⟨⟨w', hw', (hwp.trans hid.symm).trans hsame.symm⟩, fun w₁ hw₁ hwp₁ => ?_,
        fun f hf hfp => hpending f hf (hfp.trans hsame)⟩
      rcases eq_or_mem_of_mem_put hw₁ with rfl | ⟨hw₁, hne⟩
      · exact happroved
      · -- the profile has one workflow
        have heq : w₁ = w := hw.eq_of_profileId hw₁ hmem (hwp₁.trans (hsame.trans hid))
        exact absurd (heq ▸ hwid.symm) hne
    · exact htouches.settled_at hs hsame hp' hcanonical
  · by_cases hsame : p'.profileId = p.profileId
    · obtain rfl := eq_of_key_eq hw.profileId_nodup hp' hp hsame
      exact ⟨_, mem_put_self hp rfl, rfl, rfl, rfl, rfl, rfl, rfl⟩
    · obtain ⟨hmem', hfacts⟩ := htouches.keeps p' hsame hp'
      exact ⟨p', hmem', rfl, hcanonical, rfl, rfl, rfl, hfacts⟩

theorem step_good (hok : LeavesCanonical db call) (hw : WellFormed db) (hs : Settled db) :
    Good db (step S db call) := by
  unfold step
  split
  next db' h =>
    obtain ⟨now, hex, op⟩ := call
    cases op with
    | start tenantId data => exact start_good hw hs h
    | captureSource tenantId workflowId data vault =>
      obtain ⟨w, hfound, hvault, hprofiles, hedits⟩ := captureSource_edits h
      refine hedits.good hw hs (hok hvault w hfound) fun p hp => ?_
      exact ⟨p, hprofiles ▸ hp, rfl, rfl⟩
    | proposeFact tenantId workflowId data =>
      obtain ⟨w, snapshot, hreview, hprofiles, hedits⟩ := proposeFact_edits hw h
      refine hedits.good hw hs (hok w snapshot hreview) fun p hp => ?_
      exact ⟨p, hprofiles ▸ hp, rfl, rfl⟩
    | decideFact tenantId workflowId factId data =>
      obtain ⟨w, hmem, ⟨f, hf, hfw, hproposed⟩, hedits, hstatus⟩ := decideFact_edits hw h
      refine hedits.good hw hs ?_ hstatus
      -- a canonical profile has no fact to decide on
      rintro ⟨p, hp, hid, hcanonical⟩
      exact (hs p hp hcanonical).2.2 f hf (hfw.trans hid.symm) hproposed
    | approve tenantId workflowId approvedBy => exact approve_good hw hs h
  next => exact .refl hw hs

theorem Fresh.settled (h : Fresh db) : Settled db := by
  intro p hp
  rw [h.profiles] at hp
  exact absurd hp List.not_mem_nil

/-- **The canonical profile.**  In every run in which no source is captured for a
canonical profile and no fact is proposed to one, the workflow of a canonical profile is
approved, none of its facts is under review, and every step leaves its identity and its
accepted facts as they are. -/
theorem run_canonical (hdb : Fresh db) {calls : List Call}
    (hok : Runs.EachStep (step S) LeavesCanonical db calls) :
    Settled (run S db calls) ∧ Runs.EachStep (step S) (KeepsCanonical S) db calls := by
  have hstep : ∀ db call, LeavesCanonical db call → WellFormed db ∧ Settled db →
      WellFormed (step S db call) ∧ Settled (step S db call) := by
    rintro db call hleaves ⟨hw, hs⟩
    have hgood : Good db (step S db call) := step_good hleaves hw hs
    exact ⟨hgood.wellFormed, hgood.settled⟩
  have hfresh : WellFormed db ∧ Settled db := ⟨hdb.wellFormed, hdb.settled⟩
  refine ⟨(Runs.run_invariant (I := fun db => WellFormed db ∧ Settled db) hstep hfresh hok).2, ?_⟩
  refine Runs.EachStep.of_invariant (I := fun db => WellFormed db ∧ Settled db) hstep ?_ hfresh hok
  rintro db call hleaves ⟨hw, hs⟩
  exact (step_good hleaves hw hs).keeps

/-! ### Concrete runs -/

def sampleService : OnboardingService where
  sha256 := id

def sampleDatabase : Database where
  tenants := ["tenant"]

theorem sampleDatabase_fresh : Fresh sampleDatabase :=
  ⟨rfl, rfl, rfl⟩

/-- The call number `n`, which numbers the ids it creates. -/
def sampleCall (n : Nat) (op : Op) : Call where
  now := n
  hex _ i := n.repr ++ "." ++ i.repr
  op := op

def approvedSample : List Call :=
  [sampleCall 1 (.start "tenant" { workflowKey := "first", companyName := "Asteria" }),
    sampleCall 2 (.approve "tenant" "onb_1.0" "owner")]

def sampleCapture (n : Nat) : Call :=
  sampleCall n (.captureSource "tenant" "onb_1.0"
    { sourceUrl := "https://asteria.example/", publisher := "Asteria", sourceQuality := .official
      content := "About us", retrievedAt := 3 } (.ok "ev"))

def sampleProposal (n : Nat) : Call :=
  sampleCall n (.proposeFact "tenant" "onb_1.0"
    { factKey := "public.legal_entity_name", value := .str "Other Ltd", claimType := .unknown
      evidence_for_positive_claims := fun h => absurd rfl h })

def sampleAcceptance (n : Nat) : Call :=
  sampleCall n (.decideFact "tenant" "onb_1.0" "fact_3.0"
    { decision := .accept, decidedBy := "reviewer", reason := "checked" })

/-- After the approval a captured page takes the workflow back to review, a proposal
waits under the canonical profile, and its acceptance renames the company. -/
theorem canonical_profile_rewritten :
    ¬ Settled (run sampleService sampleDatabase (approvedSample ++ [sampleCapture 3])) ∧
    ¬ Settled (run sampleService sampleDatabase (approvedSample ++ [sampleProposal 3])) ∧
    ¬ Runs.EachStep (step sampleService) (KeepsCanonical sampleService) sampleDatabase
      (approvedSample ++ [sampleProposal 3] ++ [sampleAcceptance 4]) := by
  refine ⟨fun h => ?_, fun h => ?_, Runs.not_eachStep_of_last fun h => ?_⟩
  · obtain ⟨p, hp, hcanonical, w, hw, hwp, hreview⟩ :
        ∃ p ∈ (run sampleService sampleDatabase (approvedSample ++ [sampleCapture 3])).profiles,
          p.status = .canonical ∧
          ∃ w ∈ (run sampleService sampleDatabase (approvedSample ++ [sampleCapture 3])).workflows,
            w.profileId = p.profileId ∧ w.status ≠ .approved := by decide +kernel
    exact hreview ((h p hp hcanonical).2.1 w hw hwp)
  · obtain ⟨p, hp, hcanonical, f, hf, hfp, hproposed⟩ :
        ∃ p ∈ (run sampleService sampleDatabase (approvedSample ++ [sampleProposal 3])).profiles,
          p.status = .canonical ∧
          ∃ f ∈ (run sampleService sampleDatabase (approvedSample ++ [sampleProposal 3])).facts,
            f.profileId = p.profileId ∧ f.status = .proposed := by decide +kernel
    exact (h p hp hcanonical).2.2 f hf hfp hproposed
  · obtain ⟨p, hp, hcanonical, hname⟩ :
        ∃ p ∈ (run sampleService sampleDatabase (approvedSample ++ [sampleProposal 3])).profiles,
          p.status = .canonical ∧ p.legalName = "Asteria" := by decide +kernel
    obtain ⟨p', hp', -, -, hname', -⟩ := h p hp hcanonical
    have hrenamed : ∀ p' ∈ (step sampleService
        (run sampleService sampleDatabase (approvedSample ++ [sampleProposal 3]))
        (sampleAcceptance 4)).profiles, p'.legalName = "Other Ltd" := by decide +kernel
    have hboth := (hrenamed p' hp').symm.trans (hname'.trans hname)
    exact absurd hboth (by decide)

theorem leavesCanonical_of_draft (h : ∀ p ∈ db.profiles, p.status ≠ .canonical) (call : Call) :
    LeavesCanonical db call := by
  have hnot : ∀ q, ¬ db.IsCanonical q := fun q ⟨p, hp, _, hcanonical⟩ => h p hp hcanonical
  unfold LeavesCanonical
  split
  · exact fun _ w _ => hnot w.profileId
  · exact fun w _ _ => hnot w.profileId
  · trivial

/-- The review comes before the approval, and an acceptance after it is refused. -/
def reviewedSample : List Call :=
  [sampleCall 1 (.start "tenant" { workflowKey := "first", companyName := "Asteria" }),
    sampleCapture 2, sampleProposal 3, sampleAcceptance 4,
    sampleCall 5 (.approve "tenant" "onb_1.0" "owner"), sampleAcceptance 6]

theorem run_canonical_sample :
    (∃ p ∈ (run sampleService sampleDatabase reviewedSample).profiles,
      p.status = .canonical ∧ p.legalName = "Other Ltd") ∧
    Settled (run sampleService sampleDatabase reviewedSample) ∧
    Runs.EachStep (step sampleService) (KeepsCanonical sampleService) sampleDatabase
      reviewedSample := by
  refine ⟨by decide +kernel, run_canonical sampleDatabase_fresh ?_⟩
  refine ⟨trivial, leavesCanonical_of_draft (by decide +kernel) _,
    leavesCanonical_of_draft (by decide +kernel) _, trivial, trivial, trivial, trivial⟩

end Onboarding
