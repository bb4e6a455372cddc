/-
What is left of the credentials of a workspace when it is deleted
(`EvaluatorSandbox.connect`, `delete_workspace` and `_sweep_expired`).

A deletion destroys the credentials that the rows of the workspace's instances lead to, under the
spelling of the id that it gets.  A connection puts its credential under the spelling that it gets,
before it has a row.

* `Held` — every credential belongs to a workspace that there is;
* `Covered` — it also has the row of an instance, and the name that a deletion makes of the row;
* `Consistent` — what a call must not do: change the spelling, or lose a registration;
* `credentials_held` — `Held` after every run of consistent calls.
-/
import AssuranceOS.Sandbox.Workspaces

namespace Sandbox

open JsonText Vault Checked Connectors

/-- Every secret in the store belongs to a tenant that exists. -/
def Held (w : World) : Prop :=
  ∀ secret ∈ w.store, ∃ tenant ∈ w.tenants, tenant.tenantId = secret.tenantId

instance (w : World) : Decidable (Held w) :=
  inferInstanceAs (Decidable (∀ secret ∈ w.store, ∃ tenant ∈ w.tenants, _))

/-- Every credential has a workspace and an instance, and is named after the two; `spelling` is
the spelling of the id of each workspace. -/
structure Covered (spelling : String → String) (w : World) : Prop where
  held : Held w
  named : ∀ secret ∈ w.store, ∃ row ∈ w.db.instances, row.tenantId = secret.tenantId ∧
    hasCredential row ∧ secret.name = secretName (spelling secret.tenantId) row.connectorKey

def Gone (tenantId : String) (w : World) : Prop :=
  ∀ secret ∈ w.store, secret.tenantId ≠ tenantId

section Operations

variable {env : Environment} {spelling : String → String} {w : World}

theorem exec_cases (env : Environment) (op : Op) (w : World) :
    (env.exec op w).2 = { w with ticks := w.ticks + 1 } ∨
      (env.exec op w).2 = { (env.effect w op).2 with ticks := w.ticks + 1 } := by
  unfold Environment.exec
  split
  · exact .inl rfl
  · exact .inr rfl
  · exact .inr rfl

variable {op : Op} {w' : World} {α : Type} {tenantId : String} {db : Connectors.Database}

theorem perform_eq_ok {x : op.Answer}
    (h : (Program.perform op : Method op.Answer).run env.exec w = (.ok x, w')) :
    (env.effect w op).1 = .ok x ∧ w' = { (env.effect w op).2 with ticks := w.ticks + 1 } := by
  change env.exec op w = (.ok x, w') at h
  unfold Environment.exec at h
  split at h
  · cases h
  · cases h
  · obtain ⟨hx, hw⟩ := Prod.mk.inj h
    exact ⟨hx, hw.symm⟩

theorem lift_eq_ok {x : Except Failure α} {a : α} (h : (lift x).run env.exec w = (.ok a, w')) :
    x = .ok a ∧ w' = w := by
  obtain ⟨hx, hw⟩ := Prod.mk.inj h
  exact ⟨hx, hw.symm⟩

theorem registered_eq_ok {data : ConnectorInstanceInput} {row : ConnectorInstance}
    (h : env.registered w tenantId data = .ok (row, db)) :
    db = { w.db with instances := w.db.instances ++ [row] } ∧ row.tenantId = tenantId ∧
      row.connectorKey = data.connectorKey ∧ row.credentialRef = data.credentialRef := by
  unfold Environment.registered registerInstance at h
  obtain ⟨-, h⟩ := require_bind_eq_ok.mp h
  obtain ⟨db', hdb, h⟩ := bind_eq_ok.mp h
  cases h
  unfold Database.addInstance at hdb
  obtain ⟨-, hdb⟩ := require_bind_eq_ok.mp hdb
  cases hdb
  exact ⟨rfl, rfl, rfl, rfl⟩

variable {grantId : String} {now : Timestamp} {r : CollectionGrant × Connectors.Database}
  {p : Method α}

theorem createGrant_instances {connectorInstanceId : String} {data : CollectionGrantInput}
    (h : createGrant db grantId tenantId connectorInstanceId data now = .ok r) :
    r.2.instances = db.instances := by
  unfold createGrant at h
  obtain ⟨-, h⟩ := require_bind_eq_ok.mp h
  obtain ⟨-, -, h⟩ := bind_eq_ok.mp h
  obtain ⟨db', hdb, h⟩ := bind_eq_ok.mp h
  cases h
  unfold Database.addGrant at hdb
  obtain ⟨-, hdb⟩ := require_bind_eq_ok.mp hdb
  cases hdb
  rfl

theorem revokeGrant_instances {actorId reason : String}
    (h : revokeGrant db tenantId grantId actorId reason now = .ok r) :
    r.2.instances = db.instances := by
  unfold revokeGrant at h
  obtain ⟨row, -, h⟩ := bind_eq_ok.mp h
  split at h
  · cases h
    rfl
  · cases h
    rfl

/-- What an operation does to the tenants, to the instances and to the store: it takes nothing
from the first two and adds nothing to the third.  All do but `put` and `deleteTenant`. -/
structure Extends (w w' : World) : Prop where
  tenants : ∀ tenant ∈ w.tenants, tenant ∈ w'.tenants
  instances : ∀ row ∈ w.db.instances, row ∈ w'.db.instances
  store : ∀ secret ∈ w'.store, secret ∈ w.store

theorem Extends.refl (w : World) : Extends w w :=
  ⟨fun _ h => h, fun _ h => h, fun _ h => h⟩

theorem Extends.trans {w₁ w₂ : World} (h : Extends w w₁) (h' : Extends w₁ w₂) : Extends w w₂ :=
  ⟨fun t ht => h'.tenants t (h.tenants t ht), fun r hr => h'.instances r (h.instances r hr),
    fun s hs => h.store s (h'.store s hs)⟩

theorem Extends.covered (h : Extends w w') (hw : Covered spelling w) :
    Covered spelling w' := by
  constructor
  · intro secret hsecret
    obtain ⟨tenant, htenant, heq⟩ := hw.held secret (h.store secret hsecret)
    exact ⟨tenant, h.tenants tenant htenant, heq⟩
  · intro secret hsecret
    obtain ⟨row, hrow, hnamed⟩ := hw.named secret (h.store secret hsecret)
    exact ⟨row, h.instances row hrow, hnamed⟩

theorem Extends.gone (h : Extends w w') (hw : Gone tenantId w) :
    Gone tenantId w' :=
  fun secret hsecret => hw secret (h.store secret hsecret)

/-- Neither `put` nor `deleteTenant`. -/
def Op.isTame : Op → Prop
  | .put _ _ _ | .deleteTenant _ => False
  | _ => True

theorem transact_extends {result : Except ConnectorError (α × Connectors.Database)}
    (h : ∀ r, result = .ok r → ∀ row ∈ w.db.instances, row ∈ r.2.instances) :
    Extends w (Environment.transact w result).2 := by
  unfold Environment.transact
  rcases result with e | r
  · exact .refl w
  · exact ⟨fun _ ht => ht, h r rfl, fun _ hs => hs⟩

theorem effect_extends (env : Environment) (h : op.isTame) : Extends w (env.effect w op).2 := by
  cases op with
  | put name headers tenantId => exact absurd h id
  | deleteTenant tenantId => exact absurd h id
  | clock => exact .refl w
  | tokenHex => exact .refl w
  | getTenant tenantId => exact .refl w
  | listWorkspaces => exact .refl w
  | listInstances tenantId => exact .refl w
  | listGrants tenantId => exact .refl w
  | delete name => exact ⟨fun _ ht => ht, fun _ hr => hr, fun _ hs => List.mem_of_mem_filter hs⟩
  | addTenant tenant =>
    rcases hadd : w.addTenant tenant with e | w'
    · have heffect : env.effect w (.addTenant tenant) = (.error e, w) := by
        simp only [Environment.effect, hadd]
      rw [heffect]
      exact .refl w
    · have heffect : env.effect w (.addTenant tenant) = (.ok (), w') := by
        simp only [Environment.effect, hadd]
      rw [heffect]
      obtain ⟨-, hw⟩ := require_bind_eq_ok.mp hadd
      cases hw
      exact ⟨fun _ ht => List.mem_append_left _ ht, fun _ hr => hr, fun _ hs => hs⟩
  | registerInstance tenantId data =>
    refine transact_extends fun r hr row hrow => ?_
    obtain ⟨registered, db⟩ := r
    rw [(registered_eq_ok hr).1]
    exact List.mem_append_left _ hrow
  | createGrant tenantId connectorInstanceId data =>
    refine transact_extends fun r hr row hrow => ?_
    rwa [createGrant_instances hr]
  | revokeGrant tenantId grantId actorId reason =>
    refine transact_extends fun r hr row hrow => ?_
    rwa [revokeGrant_instances hr]

theorem exec_extends (h : op.isTame) : Extends w (env.exec op w).2 := by
  have heffect : Extends w (env.effect w op).2 := effect_extends env h
  rcases exec_cases env op w with heq | heq
  · rw [heq]
    exact ⟨fun _ ht => ht, fun _ hr => hr, fun _ hs => hs⟩
  · rw [heq]
    exact ⟨heffect.tenants, heffect.instances, heffect.store⟩

theorem covered_of_tame (op : Op) (h : op.isTame) (hw : Covered spelling w) :
    Covered spelling (env.exec op w).2 :=
  (exec_extends h).covered hw

theorem run_extends (hp : p.Calls Op.isTame) {r : Except Failure α}
    (hrun : p.run env.exec w = (r, w')) : Extends w w' := by
  have hextends : Extends w (p.run env.exec w).2 :=
    hp.run_keeps (fun _ hop _ hs => hs.trans (exec_extends hop)) (.refl w)
  rwa [hrun] at hextends

theorem keeps_covered (hp : p.Calls Op.isTame) (hw : Covered spelling w) :
    p.Keeps env.exec (Covered spelling) w := by
  have hop : ∀ op s, op.isTame → Covered spelling s → Covered spelling (env.exec op s).2 :=
    fun op s hop hs => covered_of_tame op hop hs
  exact hp.keeps hop hw

end Operations

/-! ### Deleting a workspace -/

section Delete

variable {env : Environment} {spelling : String → String} {w : World}

theorem destroySecret_tame (workspaceId : String) (count : ℕ) (row : ConnectorInstance) :
    (destroySecret workspaceId count row).Calls Op.isTame := by
  unfold destroySecret
  split
  · exact Program.Calls.bind (Program.calls_perform.mpr trivial) fun _ => trivial
  · exact trivial

theorem destroySecrets_tame (workspaceId : String) (rows : List ConnectorInstance) :
    (Program.forEach (destroySecret workspaceId) rows 0).Calls Op.isTame :=
  Program.Calls.forEach (fun row _ count => destroySecret_tame workspaceId count row) 0

theorem revokeActive_tame (tenantId : String) (grant : CollectionGrant) :
    (revokeActive tenantId grant).Calls Op.isTame := by
  unfold revokeActive
  split
  · exact Program.Calls.bind (Program.calls_perform.mpr trivial) fun _ => trivial
  · exact trivial

def Destroyed (workspaceId : String) (row : ConnectorInstance) (w : World) : Prop :=
  ∀ secret ∈ w.store, secret.name ≠ secretName workspaceId row.connectorKey

variable {workspaceId tenantId : String}
variable {w' : World}

theorem destroyed_of_run {instances : List ConnectorInstance} {n : ℕ}
    (hrun : (Program.forEach (destroySecret workspaceId) instances 0).run env.exec w =
      (.ok n, w')) :
    ∀ row ∈ instances, hasCredential row → Destroyed workspaceId row w' := by
  intro row hrow hcredential
  refine Program.run_forEach_visits (I := fun _ => True) (J := Destroyed workspaceId row) hrow
    (fun _ _ _ _ _ => trivial) ?_ ?_ trivial hrun
  · intro other _ count s _ hs
    have hop : ∀ op, op.isTame → ∀ s, Destroyed workspaceId row s →
        Destroyed workspaceId row (env.exec op s).2 := by
      intro op htame s hs secret hsecret
      exact hs secret ((exec_extends htame).store secret hsecret)
    exact (destroySecret_tame workspaceId count other).run_keeps hop hs
  · intro count s count' s' _ hvisit
    unfold destroySecret at hvisit
    rw [if_pos hcredential] at hvisit
    obtain ⟨u, s₁, hdelete, hrest⟩ := Program.run_bind_eq_ok.mp hvisit
    cases hrest
    obtain ⟨-, rfl⟩ := perform_eq_ok hdelete
    intro secret hsecret
    exact of_decide_eq_true (List.mem_filter.mp hsecret).2

/-- The spelling of the id is that under which the workspace has its credentials, if it has any. -/
def Spelt (env : Environment) (spelling : String → String) (w : World) (workspaceId : String) :
    Prop :=
  ∀ tenantId, env.tenantFor workspaceId = .ok tenantId →
    (∃ secret ∈ w.store, secret.tenantId = tenantId) → workspaceId = spelling tenantId

theorem mem_listInstances {db : Connectors.Database} {row : ConnectorInstance} :
    row ∈ db.listInstances tenantId ↔ row ∈ db.instances ∧ row.tenantId = tenantId := by
  unfold Database.listInstances
  rw [List.mem_insertionSort, List.mem_filter, decide_eq_true_eq]

theorem deleteTenant_covered (hw : Covered spelling w) (hgone : Gone tenantId w) :
    Covered spelling (w.deleteTenant tenantId) := by
  constructor
  · intro secret hsecret
    obtain ⟨tenant, htenant, heq⟩ := hw.held secret hsecret
    refine ⟨tenant, List.mem_filter.mpr ⟨htenant, decide_eq_true ?_⟩, heq⟩
    rw [heq]
    exact hgone secret hsecret
  · intro secret hsecret
    obtain ⟨row, hrow, heq, hnamed⟩ := hw.named secret hsecret
    refine ⟨row, List.mem_filter.mpr ⟨hrow, decide_eq_true ?_⟩, heq, hnamed⟩
    rw [heq]
    exact hgone secret hsecret

theorem gone_of_destroyed (hw : Covered spelling w)
    (htenant : env.tenantFor workspaceId = .ok tenantId) (hspelt : Spelt env spelling w workspaceId)
    (hextends : Extends w w')
    (hdestroyed : ∀ row ∈ w.db.listInstances tenantId, hasCredential row →
      Destroyed workspaceId row w') : Gone tenantId w' := by
  intro secret hsecret heq
  have hold : secret ∈ w.store := hextends.store secret hsecret
  obtain ⟨row, hrow, howner, hcredential, hname⟩ := hw.named secret hold
  have hlisted : row ∈ w.db.listInstances tenantId :=
    mem_listInstances.mpr ⟨hrow, howner.trans heq⟩
  have hsame : workspaceId = spelling tenantId := hspelt tenantId htenant ⟨secret, hold, heq⟩
  refine hdestroyed row hlisted hcredential secret hsecret ?_
  rw [hname, heq, hsame]

theorem deleteWorkspace_covered (hw : Covered spelling w)
    (hspelt : Spelt env spelling w workspaceId) :
    (deleteWorkspace env workspaceId).Keeps env.exec (Covered spelling) w := by
  unfold deleteWorkspace
  rcases htenant : env.tenantFor workspaceId with e | tenantId
  · exact Program.keeps_done hw
  refine Program.Keeps.bind (Program.keeps_done hw) fun _ w₀ hlift _ => ?_
  cases hlift
  refine Program.Keeps.bind (keeps_covered (Program.calls_perform.mpr trivial) hw)
    fun found w₁ hget hw₁ => ?_
  obtain ⟨-, rfl⟩ := perform_eq_ok hget
  rcases found with _ | tenant
  · exact Program.keeps_done hw₁
  refine Program.Keeps.bind (keeps_covered (Program.calls_perform.mpr trivial) hw₁)
    fun instances w₂ hlist hw₂ => ?_
  obtain ⟨hinstances, rfl⟩ := perform_eq_ok hlist
  cases hinstances
  have hdestroys := destroySecrets_tame workspaceId (w.db.listInstances tenantId)
  refine Program.Keeps.bind (keeps_covered hdestroys hw₂) fun destroyed w₃ hdestroy hw₃ => ?_
  -- from here on the workspace has no credential
  have hextends : Extends w w₃ := by
    refine Extends.trans ?_ (run_extends hdestroys hdestroy)
    exact ⟨fun _ ht => ht, fun _ hr => hr, fun _ hs => hs⟩
  have hgone : Gone tenantId w₃ :=
    gone_of_destroyed hw htenant hspelt hextends (destroyed_of_run hdestroy)
  have hlists : (Program.perform (Op.listGrants tenantId) : Method _).Calls Op.isTame :=
    Program.calls_perform.mpr trivial
  refine Program.Keeps.bind (keeps_covered hlists hw₃) fun grants w₄ hgrants hw₄ => ?_
  have hgone₄ : Gone tenantId w₄ := (run_extends hlists hgrants).gone hgone
  have hrevokes : (Program.forEach (fun _ grant => revokeActive tenantId grant) grants ()).Calls
      Op.isTame := Program.Calls.forEach (fun grant _ _ => revokeActive_tame tenantId grant) ()
  refine Program.Keeps.bind (keeps_covered hrevokes hw₄) fun _ w₅ hrevoke hw₅ => ?_
  have hgone₅ : Gone tenantId w₅ := (run_extends hrevokes hrevoke).gone hgone₄
  refine Program.Keeps.bind (Program.keeps_perform hw₅ ?_) fun _ w₆ _ hw₆ => Program.keeps_done hw₆
  have hdeleted := deleteTenant_covered hw₅ hgone₅
  rcases exec_cases env (.deleteTenant tenantId) w₅ with heq | heq
  · rw [heq]
    exact ⟨hw₅.held, hw₅.named⟩
  · rw [heq]
    exact ⟨hdeleted.held, hdeleted.named⟩

end Delete

section Create

variable {env : Environment} {spelling : String → String} {w : World}

/-- No `put`. -/
def Op.putsNothing : Op → Prop
  | .put _ _ _ => False
  | _ => True

variable {op : Op}

theorem putsNothing_of_tame (h : op.isTame) : op.putsNothing := by
  cases op with
  | put name headers tenantId => exact absurd h id
  | _ => exact trivial

theorem exec_store (h : op.putsNothing) : ∀ secret ∈ (env.exec op w).2.store,
    secret ∈ w.store := by
  by_cases htame : op.isTame
  · exact (exec_extends htame).store
  cases op with
  | put name headers tenantId => exact absurd h id
  | deleteTenant tenantId =>
    intro secret hsecret
    rcases exec_cases env (.deleteTenant tenantId) w with heq | heq
    · rwa [heq] at hsecret
    · rwa [heq] at hsecret
  | _ => exact absurd trivial htame

theorem deleteWorkspace_putsNothing (workspaceId : String) :
    (deleteWorkspace env workspaceId).Calls Op.putsNothing := by
  unfold deleteWorkspace
  generalize env.tenantFor workspaceId = tenant
  refine Program.Calls.bind (lift_calls _) fun tenantId => ?_
  refine Program.Calls.bind (Program.calls_perform.mpr trivial) fun found => ?_
  rcases found with _ | tenant
  · exact trivial
  refine Program.Calls.bind (Program.calls_perform.mpr trivial) fun instances => ?_
  refine Program.Calls.bind ?_ fun destroyed => ?_
  · exact (destroySecrets_tame workspaceId instances).mono fun _ h => putsNothing_of_tame h
  refine Program.Calls.bind (Program.calls_perform.mpr trivial) fun grants => ?_
  refine Program.Calls.bind ?_ fun _ => ?_
  · exact Program.Calls.forEach
      (fun grant _ _ => (revokeActive_tame tenantId grant).mono fun _ h => putsNothing_of_tame h) ()
  · exact Program.Calls.bind (Program.calls_perform.mpr trivial) fun _ => trivial

theorem Spelt.mono {w' : World} {workspaceId : String} (h : Spelt env spelling w workspaceId)
    (hstore : ∀ secret ∈ w'.store, secret ∈ w.store) : Spelt env spelling w' workspaceId := by
  rintro tenantId htenant ⟨secret, hsecret, heq⟩
  exact h tenantId htenant ⟨secret, hstore secret hsecret, heq⟩

theorem run_sweepOne (row : Tenant) (s : World) :
    ((sweepOne env row).run env.exec s).2 =
      ((deleteWorkspace env (workspaceIdOf row.tenantId)).run env.exec s).2 := by
  unfold sweepOne
  rw [Program.run_handle]
  rcases hrun : (deleteWorkspace env (workspaceIdOf row.tenantId)).run env.exec s with ⟨e | n, s'⟩
  · rw [Program.run_bind_of_error hrun]
    dsimp only
    split
    · rfl
    · rfl
  · rw [Program.run_bind_of_ok hrun]
    rfl

theorem sweep_covered {rows : List Tenant} (hw : Covered spelling w)
    (hspelt : ∀ row ∈ rows, Spelt env spelling w (workspaceIdOf row.tenantId)) :
    Covered spelling ((Program.forEach (fun _ row => sweepOne env row) rows ()).run env.exec w).2 := by
  -- they keep what is covered, and add no credential
  refine (Program.run_forEach_keeps
    (I := fun s : World => Covered spelling s ∧ ∀ secret ∈ s.store, secret ∈ w.store) ?_
    ⟨hw, fun _ hs => hs⟩).1
  rintro row hrow _ s ⟨hs, hstore⟩
  rw [run_sweepOne]
  refine ⟨(deleteWorkspace_covered hs ((hspelt row hrow).mono hstore)).2, ?_⟩
  refine (deleteWorkspace_putsNothing (workspaceIdOf row.tenantId)).run_keeps
    (I := fun s : World => ∀ secret ∈ s.store, secret ∈ w.store) ?_ hstore
  intro op hop s hs secret hsecret
  exact hs secret (exec_store hop secret hsecret)

theorem sweepExpired_covered (hw : Covered spelling w)
    (hspelt : ∀ row ∈ stale (env.clock w.ticks - hours env.limits.ttlHours) w.listWorkspaces,
      Spelt env spelling w (workspaceIdOf row.tenantId)) :
    Covered spelling ((sweepExpired env).run env.exec w).2 := by
  unfold sweepExpired
  refine Program.run_bind_keeps (covered_of_tame .clock trivial hw)
    fun now w₁ hclock hw₁ => ?_
  obtain ⟨hnow, rfl⟩ := perform_eq_ok hclock
  cases hnow
  refine Program.run_bind_keeps (covered_of_tame .listWorkspaces trivial hw₁)
    fun workspaces w₂ hlist hw₂ => ?_
  obtain ⟨hworkspaces, rfl⟩ := perform_eq_ok hlist
  cases hworkspaces
  refine Program.run_bind_keeps ?_ fun _ w₃ _ hw₃ => hw₃
  exact sweep_covered hw₂ hspelt

theorem createWorkspace_covered {companyName : String} {primaryDomain : Option String}
    (hw : Covered spelling w)
    (hspelt : ∀ row ∈ stale (env.clock w.ticks - hours env.limits.ttlHours) w.listWorkspaces,
      Spelt env spelling w (workspaceIdOf row.tenantId)) :
    Covered spelling ((createWorkspace env companyName primaryDomain).run env.exec w).2 := by
  unfold createWorkspace
  refine Program.run_bind_keeps hw fun _ w₀ hname _ => ?_
  obtain ⟨-, rfl⟩ := lift_eq_ok hname
  refine Program.run_bind_keeps hw fun _ w₀ hlength _ => ?_
  obtain ⟨-, rfl⟩ := lift_eq_ok hlength
  refine Program.run_bind_keeps (sweepExpired_covered hw hspelt) fun _ w₁ _ hw₁ => ?_
  refine Program.run_bind_keeps (covered_of_tame .clock trivial hw₁) fun now w₂ _ hw₂ => ?_
  refine Program.run_bind_keeps (covered_of_tame .listWorkspaces trivial hw₂) fun live w₃ _ hw₃ => ?_
  refine Program.run_bind_keeps hw₃ fun _ w₄ _ hw₄ => ?_
  refine Program.run_bind_keeps (covered_of_tame .tokenHex trivial hw₄) fun workspaceId w₅ _ hw₅ => ?_
  exact Program.run_bind_keeps (covered_of_tame (.addTenant _) trivial hw₅) fun _ w₆ _ hw₆ => hw₆

end Create

/-! ### Attaching a provider -/

section Connect

variable {env : Environment} {spelling : String → String} {w : World}

def Stores (calls : List (Op × World)) : Prop :=
  ∃ c ∈ calls, ∃ name headers tenantId, c.1 = .put name headers tenantId

/-- Some call registers an instance, and the registration goes through: the database does not fail
before it, and the row has an id and a key of its own. -/
def Registers (env : Environment) (calls : List (Op × World)) : Prop :=
  ∃ c ∈ calls, ∃ tenantId data, c.1 = .registerInstance tenantId data ∧
    (∀ text, env.fault c.2.ticks ≠ some (.before text)) ∧
    ∃ r, env.registered c.2 tenantId data = .ok r

def Op.registersNothing : Op → Prop
  | .registerInstance _ _ => False
  | _ => True

variable {α β : Type} {before : List (Op × World)} {r : ConnectorInstance × Connectors.Database}
  {w' : World}

/-- A registration among the calls of a sequence is one of its middle part, if the parts around it
register nothing. -/
theorem Registers.of_middle {p : Method α} {f : α → Method β}
    (h : Registers env (before ++ (p >>= f).trace env.exec w))
    (hbefore : ∀ c ∈ before, c.1.registersNothing) (hf : ∀ a, (f a).Calls Op.registersNothing) :
    Registers env (p.trace env.exec w) := by
  obtain ⟨c, hc, tenantId, data, hop, hgoes⟩ := h
  have hnot : ¬ c.1.registersNothing := by
    rw [hop]
    exact id
  rcases List.mem_append.mp hc with hc | hc
  · exact absurd (hbefore c hc) hnot
  rcases Program.mem_trace_bind.mp hc with hc | ⟨a, w', -, hc⟩
  · exact ⟨c, hc, tenantId, data, hop, hgoes⟩
  · exact absurd ((hf a).of_mem_trace hc) hnot

theorem Stores.middle {p : Method α} {f : α → Method β} (h : Stores (p.trace env.exec w)) :
    Stores (before ++ (p >>= f).trace env.exec w) := by
  obtain ⟨c, hc, hput⟩ := h
  exact ⟨c, List.mem_append_right _ (Program.mem_trace_bind.mpr (.inl hc)), hput⟩

variable {tenantId workspaceId connectorKey : String} {data : ConnectorInstanceInput}
  {profile : ProviderProfile} {call : Attachment}

theorem exec_registers (hfault : ∀ text, env.fault w.ticks ≠ some (.before text))
    (hregistered : env.registered w tenantId data = .ok r) :
    (env.exec (.registerInstance tenantId data) w).2 =
      { w with db := r.2, ticks := w.ticks + 1 } := by
  have heffect : (env.effect w (.registerInstance tenantId data)).2 = { w with db := r.2 } := by
    show (Environment.transact w (env.registered w tenantId data)).2 = _
    rw [hregistered]
    rfl
  unfold Environment.exec
  rw [show (Op.registerInstance tenantId data).isDatabase = true from rfl, if_pos rfl]
  split
  · rename_i text heq
    exact absurd heq (hfault text)
  · rw [heffect]
  · rw [heffect]

theorem covered_of_registered {headers : Headers}
    (hw : Covered spelling w) (htenant : ∃ tenant ∈ w.tenants, tenant.tenantId = tenantId)
    (hspelt : workspaceId = spelling tenantId)
    (hput : w' = { w.putSecret
      { name := secretName workspaceId connectorKey, headers := headers, tenantId := tenantId } with
      ticks := w'.ticks })
    (hregistered : env.registered w' tenantId data = .ok r)
    (hkey : data.connectorKey = connectorKey) (href : PyString.truthy data.credentialRef) :
    Covered spelling { w' with db := r.2, ticks := w'.ticks + 1 } := by
  obtain ⟨row, db⟩ := r
  obtain ⟨hdb, howner, hrowkey, hrowref⟩ := registered_eq_ok hregistered
  rw [hput] at hdb ⊢
  subst hdb
  constructor
  · intro secret hsecret
    rcases List.mem_append.mp hsecret with hold | hnew
    · exact hw.held secret (List.mem_of_mem_filter hold)
    · rw [List.mem_singleton.mp hnew]
      exact htenant
  · intro secret hsecret
    rcases List.mem_append.mp hsecret with hold | hnew
    · obtain ⟨old, hrow, hnamed⟩ := hw.named secret (List.mem_of_mem_filter hold)
      exact ⟨old, List.mem_append_left _ hrow, hnamed⟩
    · rw [List.mem_singleton.mp hnew]
      refine ⟨row, List.mem_append_right _ (List.mem_singleton_self row), howner, ?_, ?_⟩
      · unfold hasCredential
        rw [hrowref]
        exact href
      · rw [hrowkey, hkey, hspelt]

theorem storeCredential_tame :
    (storeCredential workspaceId tenantId connectorKey profile []).Calls Op.isTame := by
  unfold storeCredential
  rw [if_neg (by simp)]
  split
  · exact lift_calls _
  · exact trivial

theorem instanceInput_eq_ok {credentialRef : Option String}
    (h : instanceInput connectorKey profile call credentialRef = .ok data) :
    data.connectorKey = connectorKey ∧ data.credentialRef = credentialRef := by
  unfold instanceInput at h
  obtain ⟨-, h⟩ := require_bind_eq_ok.mp h
  obtain ⟨-, h⟩ := require_bind_eq_ok.mp h
  obtain ⟨-, h⟩ := require_bind_eq_ok.mp h
  cases h
  exact ⟨rfl, rfl⟩

theorem memoryScheme_append_ne (name : String) : memoryScheme ++ name ≠ "" := by
  intro h
  have hlength := congrArg String.length h
  rw [String.length_append] at hlength
  have hscheme : memoryScheme.length = 17 := rfl
  have hempty : "".length = 0 := rfl
  omega

/-- A registration behind which a credential stands is covered if it is spelt as the workspace is
and goes through. -/
theorem register_covered (hw : Covered spelling w)
    (htenant : ∃ tenant ∈ w.tenants, tenant.tenantId = tenantId)
    (hstores : Stores ((register workspaceId tenantId profile call).trace env.exec w) →
      workspaceId = spelling tenantId ∧
        Registers env ((register workspaceId tenantId profile call).trace env.exec w)) :
    Covered spelling ((register workspaceId tenantId profile call).run env.exec w).2 := by
  unfold register at hstores ⊢
  have htoken : (Program.perform Op.tokenHex : Method String).run env.exec w =
      (.ok (env.hex w.ticks), { w with ticks := w.ticks + 1 }) := rfl
  rw [Program.trace_bind_of_ok htoken] at hstores
  rw [Program.run_bind_of_ok htoken]
  generalize profile.connectorType ++ "-" ++ env.hex w.ticks = connectorKey at hstores ⊢
  dsimp only at hstores ⊢
  have hw₁ : Covered spelling { w with ticks := w.ticks + 1 } := ⟨hw.held, hw.named⟩
  rcases hsupplied : call.supplied with _ | ⟨value, values⟩
  · -- nothing is stored
    refine Program.run_bind_keeps (keeps_covered storeCredential_tame hw₁).2
      fun credentialRef w₂ _ hw₂ => ?_
    refine Program.run_bind_keeps hw₂ fun data w₃ _ hw₃ => ?_
    exact covered_of_tame (.registerInstance tenantId data) trivial hw₃
  rw [hsupplied] at hstores
  rcases hheaders : profile.headers (value :: values) with e | headers
  · -- nothing is stored yet
    have hrefused : (storeCredential workspaceId tenantId connectorKey profile (value :: values)).run
        env.exec { w with ticks := w.ticks + 1 } = (.error e, { w with ticks := w.ticks + 1 }) := by
      unfold storeCredential
      rw [if_pos (List.cons_ne_nil _ _), hheaders]
      rfl
    rw [Program.run_bind_of_error hrefused]
    exact hw₁
  -- the credential is in the store, and the workspace is not covered until the registration
  let name := secretName workspaceId connectorKey
  let w₂ : World := { w.putSecret { name := name, headers := headers, tenantId := tenantId } with
    ticks := w.ticks + 1 + 1 }
  have hunfold : storeCredential workspaceId tenantId connectorKey profile (value :: values) =
      (Program.perform (Op.put name headers tenantId) >>= fun credentialRef =>
        pure (some credentialRef)) := by
    unfold storeCredential
    rw [if_pos (List.cons_ne_nil _ _), hheaders]
    rfl
  have hput : (storeCredential workspaceId tenantId connectorKey profile (value :: values)).run
      env.exec { w with ticks := w.ticks + 1 } = (.ok (some (memoryScheme ++ name)), w₂) := by
    rw [hunfold]
    rfl
  have hcalls : (storeCredential workspaceId tenantId connectorKey profile (value :: values)).trace
      env.exec { w with ticks := w.ticks + 1 } =
      [(.put name headers tenantId, { w with ticks := w.ticks + 1 })] := by
    rw [hunfold]
    rfl
  rw [Program.trace_bind_of_ok hput, hcalls] at hstores
  rw [Program.run_bind_of_ok hput]
  obtain ⟨hspelt, c, hc, tenantId', data', hop, hfault, r, hregistered⟩ := hstores ⟨_,
    List.mem_append_right _ (List.mem_append_left _ (List.mem_singleton_self _)), _, _, _, rfl⟩
  -- neither of the first two calls is a registration
  have hrest : c ∈ (lift (instanceInput connectorKey profile call (some (memoryScheme ++ name))) >>=
      fun data => Program.perform (Op.registerInstance tenantId data)).trace env.exec w₂ := by
    rcases List.mem_append.mp hc with hfirst | hc
    · rw [List.mem_singleton.mp hfirst] at hop
      cases hop
    rcases List.mem_append.mp hc with hsecond | hc
    · rw [List.mem_singleton.mp hsecond] at hop
      cases hop
    · exact hc
  rcases hinput : instanceInput connectorKey profile call (some (memoryScheme ++ name)) with e | data
  · rw [hinput] at hrest
    exact absurd hrest List.not_mem_nil
  rw [hinput] at hrest
  rw [List.mem_singleton.mp hrest] at hop hfault hregistered
  cases hop
  obtain ⟨hkey, href⟩ := instanceInput_eq_ok hinput
  show Covered spelling (env.exec (.registerInstance tenantId data') w₂).2
  rw [exec_registers hfault hregistered]
  refine covered_of_registered hw htenant hspelt rfl hregistered hkey ?_
  rw [href]
  exact decide_eq_true (memoryScheme_append_ne name)

theorem getWorkspace_calls {P : Op → Prop} (hP : ∀ tenantId, P (.getTenant tenantId))
    (workspaceId : String) : (getWorkspace env workspaceId).Calls P := by
  unfold getWorkspace
  refine Program.Calls.bind (lift_calls _) fun tenantId => ?_
  refine Program.Calls.bind (Program.calls_perform.mpr (hP tenantId)) fun found => ?_
  rcases found with _ | row
  · exact lift_calls _
  · exact trivial

theorem getWorkspace_eq_ok {view : WorkspaceView}
    (hrun : (getWorkspace env workspaceId).run env.exec w = (.ok view, w')) :
    env.tenantFor workspaceId = .ok view.tenantId ∧
      (∃ tenant ∈ w.tenants, tenant.tenantId = view.tenantId) ∧
      w' = { w with ticks := w.ticks + 1 } := by
  unfold getWorkspace at hrun
  obtain ⟨tenantId, w₀, hlift, hfrom⟩ := Program.run_bind_eq_ok.mp hrun
  obtain ⟨htenant, rfl⟩ := lift_eq_ok hlift
  obtain ⟨found, w₁, hget, hend⟩ := Program.run_bind_eq_ok.mp hfrom
  obtain ⟨hfound, rfl⟩ := perform_eq_ok hget
  rcases found with _ | row
  · cases hend
  cases hend
  have hrow : w₀.getTenant tenantId = some row := Except.ok.inj hfound
  refine ⟨htenant, ⟨row, List.mem_of_find?_eq_some hrow, ?_⟩, rfl⟩
  have hsome := List.find?_some hrow
  exact of_decide_eq_true hsome

theorem connect_covered (hw : Covered spelling w)
    (hstores : Stores ((connect env workspaceId call).trace env.exec w) →
      (∀ tenantId, env.tenantFor workspaceId = .ok tenantId → workspaceId = spelling tenantId) ∧
        Registers env ((connect env workspaceId call).trace env.exec w)) :
    Covered spelling ((connect env workspaceId call).run env.exec w).2 := by
  unfold connect at hstores ⊢
  refine Program.run_bind_keeps (keeps_covered (getWorkspace_calls (fun _ => trivial) workspaceId) hw).2
    fun workspace w₁ hget hw₁ => ?_
  rw [Program.trace_bind_of_ok hget] at hstores
  obtain ⟨htenantFor, htenant, rfl⟩ := getWorkspace_eq_ok hget
  refine Program.run_bind_keeps hw₁ fun profile w₂ hprofile _ => ?_
  rw [Program.trace_bind_of_ok hprofile] at hstores
  obtain ⟨-, rfl⟩ := lift_eq_ok hprofile
  refine Program.run_bind_keeps hw₁ fun stream w₃ hstream _ => ?_
  rw [Program.trace_bind_of_ok hstream] at hstores
  obtain ⟨-, rfl⟩ := lift_eq_ok hstream
  refine Program.run_bind_keeps hw₁ fun scope w₄ hscope _ => ?_
  rw [Program.trace_bind_of_ok hscope] at hstores
  obtain ⟨-, rfl⟩ := lift_eq_ok hscope
  refine Program.run_bind_keeps hw₁ fun selectors w₅ hselectors _ => ?_
  rw [Program.trace_bind_of_ok hselectors] at hstores
  obtain ⟨-, rfl⟩ := lift_eq_ok hselectors
  refine Program.run_bind_keeps hw₁ fun _ w₆ hurl _ => ?_
  rw [Program.trace_bind_of_ok hurl] at hstores
  obtain ⟨-, rfl⟩ := lift_eq_ok hurl
  refine Program.run_bind_keeps ?_ fun connector w₇ _ hw₇ => ?_
  · refine register_covered hw₁ htenant fun hput => ?_
    obtain ⟨hspelt, hregisters⟩ := hstores (Stores.middle hput)
    refine ⟨hspelt _ htenantFor, Registers.of_middle hregisters ?_ fun connector => ?_⟩
    · intro c hc
      exact (getWorkspace_calls (P := Op.registersNothing) (fun _ => trivial) workspaceId).of_mem_trace hc
    · refine Program.Calls.bind (Program.calls_perform.mpr trivial) fun now => ?_
      refine Program.Calls.bind (lift_calls _) fun data => ?_
      exact Program.Calls.bind (Program.calls_perform.mpr trivial) fun grant => trivial
  refine Program.run_bind_keeps (covered_of_tame .clock trivial hw₇) fun now w₈ _ hw₈ => ?_
  refine Program.run_bind_keeps hw₈ fun data w₉ _ hw₉ => ?_
  exact Program.run_bind_keeps (covered_of_tame (.createGrant _ _ _) trivial hw₉) fun _ _ _ h => h

end Connect

/-- A call keeps to the spelling under which a workspace has its credentials, and a connection that
stores a credential comes to a registration that goes through. -/
def Consistent (env : Environment) (spelling : String → String) (w : World) : Call → Prop
  | .create _ _ =>
    ∀ row ∈ stale (env.clock w.ticks - hours env.limits.ttlHours) w.listWorkspaces,
      Spelt env spelling w (workspaceIdOf row.tenantId)
  | .connect workspaceId attachment =>
    Stores ((connect env workspaceId attachment).trace env.exec w) →
      (∀ tenantId, env.tenantFor workspaceId = .ok tenantId → workspaceId = spelling tenantId) ∧
        Registers env ((connect env workspaceId attachment).trace env.exec w)
  | .deleteWorkspace workspaceId => Spelt env spelling w workspaceId

theorem step_covered {env : Environment} {spelling : String → String} (w : World) (call : Call)
    (hcall : Consistent env spelling w call) (hw : Covered spelling w) :
    Covered spelling (env.step w call) := by
  cases call with
  | create companyName primaryDomain =>
    exact Program.run_bind_keeps (createWorkspace_covered hw hcall) fun _ _ _ h => h
  | connect workspaceId attachment =>
    exact Program.run_bind_keeps (connect_covered hw hcall) fun _ _ _ h => h
  | deleteWorkspace workspaceId =>
    exact Program.run_bind_keeps (deleteWorkspace_covered hw hcall).2 fun _ _ _ h => h

/-- **Consistent calls leave no credential behind.**  After every run of them, whatever the
database does, each credential in the store belongs to a workspace that there still is. -/
theorem credentials_held (env : Environment) (spelling : String → String) {w : World}
    (hempty : w.store = []) {calls : List Call}
    (hconsistent : Runs.EachStep env.step (Consistent env spelling) w calls) :
    Held (calls.foldl env.step w) := by
  have hnone : ∀ secret ∈ w.store, False := by
    intro secret hsecret
    rw [hempty] at hsecret
    exact List.not_mem_nil hsecret
  have hw : Covered spelling w :=
    ⟨fun secret h => (hnone secret h).elim, fun secret h => (hnone secret h).elim⟩
  exact (Runs.run_invariant step_covered hw hconsistent).held

def github : ProviderProfile where
  connectorType := "github"
  displayName := "GitHub"
  allowedHosts := ["api.github.com", "*.ghe.com"]
  credentialFields := ["token"]
  headerBuilder values := [("Authorization", "Bearer " ++ (values.lookup "token").getD "")]
  streams := [{
    name := "commits"
    label := "Commits on the default branch"
    scopeKey := "repository"
    scopeLabel := "Repository"
    scopeIsList := false
    grantKey := some "repositories" }]

def sampleSandbox : Environment where
  unicode := PyString.asciiData
  providers := [("github", github)]
  validateUrl _ _ := .ok ()
  clock n := n
  hex _ := "0123456789abcdef0123456789abcdef"

def workspaceId : String := "0123456789abcdef0123456789abcdef"

def attachment : Attachment where
  provider := "github"
  baseUrl := "https://api.github.com"
  stream := "commits"
  scopeValue := "owner/repo"
  credentials := [("token", "t")]

theorem sample_tenantFor {tenantId : String}
    (h : sampleSandbox.tenantFor workspaceId = .ok tenantId) : workspaceId = workspaceIdOf tenantId := by
  have hsome : (sampleSandbox.tenantFor workspaceId).toOption = some ("tnt_eval_" ++ workspaceId) := by
    decide +kernel
  have hid : workspaceIdOf ("tnt_eval_" ++ workspaceId) = workspaceId := by
    decide +kernel
  rw [h] at hsome
  rw [Option.some.inj hsome, hid]

theorem sample_registers : Registers sampleSandbox
    ((connect sampleSandbox workspaceId attachment).trace sampleSandbox.exec
      (sampleSandbox.step {} (.create "Company" none))) := by
  have hany : (((connect sampleSandbox workspaceId attachment).trace sampleSandbox.exec
      (sampleSandbox.step {} (.create "Company" none))).any fun c =>
        match c.1 with
        | .registerInstance tenantId data => (sampleSandbox.registered c.2 tenantId data).isOk
        | _ => false) = true := by
    decide +kernel
  obtain ⟨⟨op, w⟩, hc, hgoes⟩ := List.any_eq_true.mp hany
  cases op with
  | registerInstance tenantId data =>
    refine ⟨_, hc, tenantId, data, rfl, ?_, ?_⟩
    · intro text hfault
      cases hfault
    rcases hregistered : sampleSandbox.registered w tenantId data with e | r
    · change (sampleSandbox.registered w tenantId data).isOk = true at hgoes
      rw [hregistered] at hgoes
      cases hgoes
    · exact ⟨r, rfl⟩
  | _ => cases hgoes

/-- Under one spelling, a workspace goes with its credential. -/
theorem credentials_held_sample :
    Held ([.create "Company" none, .connect workspaceId attachment,
      .deleteWorkspace workspaceId].foldl sampleSandbox.step {}) := by
  refine credentials_held sampleSandbox workspaceIdOf rfl ⟨?_, fun _ => ⟨?_, ?_⟩, ?_, trivial⟩
  · intro row hrow
    cases hrow
  · exact fun tenantId h => sample_tenantFor h
  · exact sample_registers
  · exact fun tenantId h _ => sample_tenantFor h

/-- A connection under the id in capitals, and the deletion of the workspace. -/
def capitalRun : List Call :=
  [.create "Company" none, .connect "0123456789ABCDEF0123456789ABCDEF" attachment,
    .deleteWorkspace workspaceId]

example : (([Call.create "Company" none, .connect workspaceId attachment].foldl
  sampleSandbox.step {}).store.map Secret.name) =
    ["assuranceos-eval-0123456789abcdef0123456789abcdef-github-0123456789abcdef0123456789abcdef"] := by
  decide +kernel

/-- The credential is left, and the workspace is not. -/
theorem capital_not_held :
    ¬ Held (capitalRun.foldl sampleSandbox.step {}) := by
  decide +kernel

/-- Nor is it when the database fails before the registration. -/
example : ¬ Held ([Call.create "Company" none, .connect workspaceId attachment,
    .deleteWorkspace workspaceId].foldl
      { sampleSandbox with fault := fun tick => if tick = 9 then some (.before "") else none }.step
      {}) := by
  decide +kernel

end Sandbox
