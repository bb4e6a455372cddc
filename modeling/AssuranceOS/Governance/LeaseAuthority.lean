/-
The authority that is derived from a task lease, twice: by `ExecutionAuthority.issue`
(`execution_authority.py`) and by the governed worker (`governance/worker.py`).

The first takes tools, scopes and budgets from the execution policy of the task and bounds the
deadline by the lease.  The second takes them from the package of the role.  `worker_within_iff`
says for which leases the second is no broader than the first.
-/
import AssuranceOS.Governance.Policy

namespace Governance

open JsonText Checked

/-- What both paths take from outside: the released packages, the tools that the gateway has
registered for a role, and the two lifetimes. -/
structure LeaseEnvironment where
  conversions : Conversions
  packages : List AgentPackage
  registeredTools : String → List String
  /-- `ExecutionAuthority.default_ttl` -/
  defaultTtl : Timestamp
  /-- `GovernedAgentTaskHandler.envelope_ttl` -/
  envelopeTtl : Timestamp

/-- `packages.get(role)`. -/
def LeaseEnvironment.package? (env : LeaseEnvironment) (role : String) : Option AgentPackage :=
  env.packages.find? fun p => p.agentId = role

/-- `_required_string`. -/
def requiredString (policy : Object) (key : String) : Except GovernanceError String :=
  match get policy key with
  | .str s => if PyString.isBlank s then .error (.undefined key) else .ok (PyString.strip s)
  | _ => .error (.undefined key)

/-- `_string_list`. -/
def stringList (policy : Object) (key : String) : Except GovernanceError (List String) := do
  let items ← ofOption (.undefined key) (asStrings (get policy key))
  require (∀ item ∈ items, item ≠ "") (.undefined key)
  require items.Nodup (.duplicates key)
  return items

/-- `_bounded_int`. -/
def boundedInt (value : Value) (ceiling : ℤ) (name : String) : Except GovernanceError ℤ :=
  match value with
  | .int n =>
    if n ≤ 0 then .error (.budget name)
    else if ceiling < n then .error (.ceiling name)
    else .ok n
  | _ => .error (.budget name)

/-- `_bounded_float`. -/
def boundedFloat (c : Conversions) (value : Value) (ceiling : FloatValue) (name : String) :
    Except GovernanceError FloatValue :=
  match value with
  | .int _ | .float _ => do
    let x ← ofOption .typeError (c.float value)
    if x.le (.finite 0) then .error (.budget name)
    else if ceiling.lt x then .error (.ceiling name)
    else .ok x
  | _ => .error (.budget name)

/-- `package.manifest.get("budgets", {})`. -/
def issueBudgets (package : AgentPackage) : Except GovernanceError Object :=
  ofOption .typeError (asObject ((package.manifest.lookup "budgets").getD (.obj [])))

/-- `budgets.get("token_budget", 60_000)`. -/
def tokenBudgetOf (budgets : Object) : Value :=
  (budgets.lookup "token_budget").getD (.int 60000)

/-- `8.0`. -/
def eightDollars : FloatLiteral := ⟨"8.0".toList, by decide⟩

/-- `budgets.get("cost_budget_usd", 8.0)`. -/
def costBudgetOf (budgets : Object) : Value :=
  (budgets.lookup "cost_budget_usd").getD (.float eightDollars)

/-- `min` over the instants that there are. -/
def leaseDeadline (lease : TaskLease) : Timestamp :=
  match lease.deadlineAt with
  | some d => min d lease.leaseExpiresAt
  | none => lease.leaseExpiresAt

/-- `Ed25519ExecutionEnvelopeSigner.issue`, without the signature. -/
def signEnvelope (envelope : ExecutionEnvelope) (ttl now : Timestamp) :
    Except GovernanceError SignedExecutionEnvelope := do
  require (0 < ttl) .ttl
  match envelope.deadline with
  | some deadline =>
    require (now < deadline) .leaseExpired
    return { envelope := envelope, issuedAt := now, expiresAt := min (now + ttl) deadline }
  | none => return { envelope := envelope, issuedAt := now, expiresAt := now + ttl }

section Issue

variable (env : LeaseEnvironment)

/-- The envelope that `issue` signs, before the policy check. -/
def issueEnvelope (package : AgentPackage) (lease : TaskLease) (now : Timestamp) :
    Except GovernanceError ExecutionEnvelope := do
  let policy := lease.executionPolicy
  let purpose ← requiredString policy "purpose"
  let allowedTools ← stringList policy "allowed_tools"
  let allowedEvidenceScopes ← stringList policy "allowed_evidence_scopes"
  let budgets ← issueBudgets package
  let tokenCeiling ← ofOption .typeError (env.conversions.int (tokenBudgetOf budgets))
  let tokenBudget ← boundedInt ((policy.lookup "token_budget").getD (tokenBudgetOf budgets))
    tokenCeiling "token_budget"
  let costCeiling ← ofOption .typeError (env.conversions.float (costBudgetOf budgets))
  let costBudgetUsd ← boundedFloat env.conversions
    ((policy.lookup "cost_budget_usd").getD (costBudgetOf budgets)) costCeiling "cost_budget_usd"
  let modelPolicy ← ofOption .modelPolicy lease.modelPolicy
  require (modelPolicy ≠ "") .modelPolicy
  require (now < leaseDeadline lease) .leaseExpired
  let agentVersion ← package.manifestText env.conversions "version"
  let forbiddenActions ← package.forbiddenActions
  let outputSchema ← package.manifestText env.conversions "output_schema"
  require (1 ≤ lease.attemptCount) .validation
  return {
    taskId := lease.taskId
    engagementId := lease.engagementId
    tenantId := lease.tenantId
    agentRole := package.agentId
    agentVersion := agentVersion
    purpose := purpose
    allowedEvidenceScopes := allowedEvidenceScopes
    allowedTools := allowedTools
    forbiddenActions := forbiddenActions
    modelPolicy := modelPolicy
    tokenBudget := tokenBudget
    costBudgetUsd := costBudgetUsd
    deadline := some (leaseDeadline lease)
    outputSchema := outputSchema
    humanGate := lease.humanGate
    leaseOwner := some lease.leaseOwner
    attemptCount := lease.attemptCount }

/-- `ExecutionAuthority.issue`. -/
def issue (lease : TaskLease) (now : Timestamp) :
    Except GovernanceError SignedExecutionEnvelope := do
  let role ← ofOption .unassigned lease.assignedAgentRole
  let package ← ofOption (.packageUnavailable role) (env.package? role)
  let envelope ← issueEnvelope env package lease now
  match ← authorize env.conversions package envelope with
  | .denied reason => .error reason
  | .allowed => signEnvelope envelope (min env.defaultTtl (leaseDeadline lease - now)) now

end Issue

section Worker

variable (env : LeaseEnvironment)

/-- `item.get("name")`, as a text, where it is true. -/
def toolName? (c : Conversions) (item : Value) : Except GovernanceError (Option String) := do
  let entries ← ofOption .typeError (asObject item)
  let name := get entries "name"
  return if c.truthy name then some (c.str name) else none

/-- `_callable_tools`. -/
def callableTools (package : AgentPackage) : Except GovernanceError (List String) := do
  let names ← (← package.toolEntries).mapM (toolName? env.conversions)
  let declared := names.filterMap id
  let registered := env.registeredTools package.agentId
  return if registered = [] then declared else declared.filter fun n => n ∈ registered

/-- `package.manifest.get("budgets") or {}`. -/
def workerBudgets (package : AgentPackage) : Except GovernanceError Object :=
  let budgets := get package.manifest "budgets"
  if env.conversions.truthy budgets then ofOption .typeError (asObject budgets) else .ok []

/-- `envelope_from_lease`. -/
def envelopeFromLease (lease : TaskLease) (agentVersion : String)
    (allowedTools allowedEvidenceScopes forbiddenActions : List String) (purpose : String)
    (tokenBudget : ℤ) (costBudgetUsd : FloatValue) : Except GovernanceError ExecutionEnvelope := do
  let role ← ofOption .unassigned lease.assignedAgentRole
  require (1 ≤ lease.attemptCount) .validation
  return {
    taskId := lease.taskId
    engagementId := lease.engagementId
    tenantId := lease.tenantId
    agentRole := role
    agentVersion := agentVersion
    purpose := purpose
    allowedEvidenceScopes := allowedEvidenceScopes
    allowedTools := allowedTools
    forbiddenActions := forbiddenActions
    modelPolicy := if PyString.truthy lease.modelPolicy then lease.modelPolicy.getD "" else "flash"
    tokenBudget := tokenBudget
    costBudgetUsd := costBudgetUsd
    deadline := lease.deadlineAt
    humanGate := lease.humanGate
    leaseOwner := some lease.leaseOwner
    attemptCount := lease.attemptCount }

/-- The envelope that `GovernedAgentTaskHandler.__call__` hands to the runtime. -/
def workerEnvelope (lease : TaskLease) (now : Timestamp) :
    Except GovernanceError ExecutionEnvelope := do
  let role ← ofOption (.packageUnavailable "") lease.assignedAgentRole
  require (role ≠ "") (.packageUnavailable role)
  let package ← ofOption (.packageUnavailable role) (env.package? role)
  let agentVersion ← package.manifestText env.conversions "version"
  let tools ← callableTools env package
  let scopes ← package.evidenceBoundaries
  let forbiddenActions ← package.forbiddenActions
  let budgets ← workerBudgets env package
  let tokenBudget ← ofOption .typeError (env.conversions.int (tokenBudgetOf budgets))
  let costBudgetUsd ← ofOption .typeError (env.conversions.float (costBudgetOf budgets))
  let purpose := ((package.manifest.lookup "mandate").map env.conversions.str).getD lease.taskType
  let envelope ← envelopeFromLease lease agentVersion tools scopes forbiddenActions purpose
    tokenBudget costBudgetUsd
  return { envelope with deadline := some (envelope.deadline.getD (now + env.envelopeTtl)) }

end Worker

/-! ### What the two paths read -/

section Authority

variable {env : LeaseEnvironment} {lease : TaskLease} {now now' : Timestamp}

/-- The worker builds an envelope, with this authority. -/
structure Offers (env : LeaseEnvironment) (lease : TaskLease) (package : AgentPackage)
    (tools scopes : List String) (tokens : ℤ) (cost : FloatValue) : Prop where
  role : ∃ role, lease.assignedAgentRole = some role ∧ role ≠ "" ∧ env.package? role = some package
  version : ∃ v, package.manifestText env.conversions "version" = .ok v
  tools : callableTools env package = .ok tools
  scopes : package.evidenceBoundaries = .ok scopes
  forbidden : ∃ fs, package.forbiddenActions = .ok fs
  budgets : ∃ budgets, workerBudgets env package = .ok budgets ∧
    env.conversions.int (tokenBudgetOf budgets) = some tokens ∧
    env.conversions.float (costBudgetOf budgets) = some cost
  attempts : 1 ≤ lease.attemptCount

/-- `issue` grants this authority. -/
structure Grants (env : LeaseEnvironment) (lease : TaskLease) (now : Timestamp)
    (package : AgentPackage) (tools scopes : List String) (tokens : ℤ) (cost : FloatValue) :
    Prop where
  role : ∃ role, lease.assignedAgentRole = some role ∧ env.package? role = some package
  purpose : ∃ purpose, requiredString lease.executionPolicy "purpose" = .ok purpose
  listsTools : stringList lease.executionPolicy "allowed_tools" = .ok tools
  listsScopes : stringList lease.executionPolicy "allowed_evidence_scopes" = .ok scopes
  budgets : ∃ budgets tokenCeiling costCeiling, issueBudgets package = .ok budgets ∧
    env.conversions.int (tokenBudgetOf budgets) = some tokenCeiling ∧
    boundedInt ((lease.executionPolicy.lookup "token_budget").getD (tokenBudgetOf budgets))
      tokenCeiling "token_budget" = .ok tokens ∧
    env.conversions.float (costBudgetOf budgets) = some costCeiling ∧
    boundedFloat env.conversions ((lease.executionPolicy.lookup "cost_budget_usd").getD
      (costBudgetOf budgets)) costCeiling "cost_budget_usd" = .ok cost
  modelPolicy : ∃ modelPolicy, lease.modelPolicy = some modelPolicy ∧ modelPolicy ≠ ""
  unexpired : now < leaseDeadline lease
  version : ∃ v, package.manifestText env.conversions "version" = .ok v
  forbidden : ∃ fs, package.forbiddenActions = .ok fs
  outputSchema : ∃ schema, package.manifestText env.conversions "output_schema" = .ok schema
  attempts : 1 ≤ lease.attemptCount
  declared : ∃ declared, package.declaredNames = .ok declared ∧
    ∀ t ∈ tools, t ∈ declared.filterMap asString
  ttl : 0 < env.defaultTtl

def workerDeadline (env : LeaseEnvironment) (lease : TaskLease) (now : Timestamp) : Timestamp :=
  lease.deadlineAt.getD (now + env.envelopeTtl)

variable {package : AgentPackage} {tools scopes : List String} {tokens : ℤ} {cost : FloatValue}
  {signed : SignedExecutionEnvelope}

theorem Offers.builds (h : Offers env lease package tools scopes tokens cost) :
    ∃ w, workerEnvelope env lease now = .ok w ∧ w.allowedTools = tools ∧
      w.allowedEvidenceScopes = scopes ∧ w.tokenBudget = tokens ∧ w.costBudgetUsd = cost ∧
      w.deadline = some (workerDeadline env lease now) := by
  obtain ⟨role, hrole, hne, hpackage⟩ := h.role
  obtain ⟨v, hv⟩ := h.version
  obtain ⟨fs, hfs⟩ := h.forbidden
  obtain ⟨budgets, hbudgets, htokens, hcost⟩ := h.budgets
  refine ⟨?w, ?built, ?fields⟩
  case built =>
    unfold workerEnvelope envelopeFromLease
    simp only [bind_eq_ok, ofOption_eq_ok, require_eq_ok]
    refine ⟨role, hrole, (), hne, package, hpackage, v, hv, tools, h.tools, scopes, h.scopes, fs,
      hfs, budgets, hbudgets, tokens, htokens, cost, hcost, _, ⟨role, hrole, (), h.attempts, rfl⟩, ?_⟩
    exact Eq.refl (Except.ok _)
  case fields => exact ⟨rfl, rfl, rfl, rfl, rfl⟩

theorem offers_of_builds {w : ExecutionEnvelope} (h : workerEnvelope env lease now = .ok w) :
    (∃ package, Offers env lease package w.allowedTools w.allowedEvidenceScopes w.tokenBudget
      w.costBudgetUsd) ∧ w.deadline = some (workerDeadline env lease now) := by
  unfold workerEnvelope envelopeFromLease at h
  simp only [bind_eq_ok, ofOption_eq_ok, require_eq_ok] at h
  obtain ⟨role, hrole, _, hne, package, hpackage, v, hv, tools, htools, scopes, hscopes, fs, hfs,
    budgets, hbudgets, tokens, htokens, cost, hcost, envelope, ⟨role', -, _, hattempts, heq⟩, hw⟩ := h
  cases heq
  cases hw
  exact ⟨⟨package, ⟨role, hrole, hne, hpackage⟩, ⟨v, hv⟩, htools, hscopes, ⟨fs, hfs⟩,
    ⟨budgets, hbudgets, htokens, hcost⟩, hattempts⟩, rfl⟩

theorem signEnvelope_eq_ok {envelope : ExecutionEnvelope} {ttl deadline : Timestamp}
    (hdeadline : envelope.deadline = some deadline) :
    signEnvelope envelope ttl now = .ok signed ↔ 0 < ttl ∧ now < deadline ∧
      signed = { envelope := envelope, issuedAt := now, expiresAt := min (now + ttl) deadline } := by
  unfold signEnvelope
  rw [hdeadline]
  simp only [bind_eq_ok, require_eq_ok]
  constructor
  · rintro ⟨_, httl, _, hopen, heq⟩
    cases heq
    exact ⟨httl, hopen, rfl⟩
  · rintro ⟨httl, hopen, rfl⟩
    exact ⟨(), httl, (), hopen, rfl⟩

/-- The instant at which the authority of `issue` ends. -/
def issueExpiry (env : LeaseEnvironment) (lease : TaskLease) (now : Timestamp) : Timestamp :=
  min (now + env.defaultTtl) (leaseDeadline lease)

theorem lifetime_pos (ttl deadline now : ℤ) :
    0 < min ttl (deadline - now) ↔ 0 < ttl ∧ now < deadline := by
  omega

theorem lifetime_end (ttl deadline now : ℤ) :
    min (now + min ttl (deadline - now)) deadline = min (now + ttl) deadline := by
  omega

theorem Grants.issues (h : Grants env lease now package tools scopes tokens cost) :
    ∃ signed, issue env lease now = .ok signed ∧ signed.envelope.allowedTools = tools ∧
      signed.envelope.allowedEvidenceScopes = scopes ∧ signed.envelope.tokenBudget = tokens ∧
      signed.envelope.costBudgetUsd = cost ∧ signed.expiresAt = issueExpiry env lease now := by
  obtain ⟨role, hrole, hpackage⟩ := h.role
  obtain ⟨purpose, hpurpose⟩ := h.purpose
  obtain ⟨budgets, tokenCeiling, costCeiling, hbudgets, htokens, hbounded, hcost, hcostBounded⟩ :=
    h.budgets
  obtain ⟨modelPolicy, hmodel, hne⟩ := h.modelPolicy
  obtain ⟨v, hv⟩ := h.version
  obtain ⟨fs, hfs⟩ := h.forbidden
  obtain ⟨schema, hschema⟩ := h.outputSchema
  have henvelope : ∃ envelope, issueEnvelope env package lease now = .ok envelope ∧
      envelope.agentRole = package.agentId ∧ envelope.agentVersion = v ∧
      envelope.forbiddenActions = fs ∧ envelope.allowedTools = tools ∧
      envelope.allowedEvidenceScopes = scopes ∧ envelope.tokenBudget = tokens ∧
      envelope.costBudgetUsd = cost ∧ envelope.deadline = some (leaseDeadline lease) := by
    refine ⟨?w, ?built, ?fields⟩
    case built =>
      unfold issueEnvelope
      simp only [bind_eq_ok, ofOption_eq_ok, require_eq_ok]
      refine ⟨purpose, hpurpose, tools, h.listsTools, scopes, h.listsScopes, budgets, hbudgets,
        tokenCeiling, htokens, tokens, hbounded, costCeiling, hcost, cost, hcostBounded, modelPolicy,
        hmodel, (), hne, (), h.unexpired, v, hv, fs, hfs, schema, hschema, (), h.attempts, ?_⟩
      exact Eq.refl (Except.ok _)
    case fields => exact ⟨rfl, rfl, rfl, rfl, rfl, rfl, rfl, rfl⟩
  obtain ⟨envelope, hbuilt, hagent, hversion, hforbidden, htools, hscopes, htoken, hcosts,
    hdeadline⟩ := henvelope
  have hallowed : authorize env.conversions package envelope = .ok .allowed := by
    rw [authorize_allowed_iff hagent (by rw [hversion, hv]) (by rw [hforbidden, hfs]), htools]
    exact h.declared
  have hsigned : ∃ signed, signEnvelope envelope (min env.defaultTtl (leaseDeadline lease - now))
      now = .ok signed ∧ signed.envelope = envelope ∧ signed.expiresAt = issueExpiry env lease now :=
    ⟨_, (signEnvelope_eq_ok hdeadline).mpr ⟨(lifetime_pos _ _ _).mpr ⟨h.ttl, h.unexpired⟩,
      h.unexpired, rfl⟩, rfl, lifetime_end _ _ _⟩
  obtain ⟨signed, hsigned, rfl, hexpires⟩ := hsigned
  refine ⟨signed, ?_, htools, hscopes, htoken, hcosts, hexpires⟩
  unfold issue
  rw [hrole]
  show (ofOption (GovernanceError.packageUnavailable role) (env.package? role) >>= _) = _
  rw [hpackage]
  show (issueEnvelope env package lease now >>= _) = _
  rw [hbuilt]
  show (authorize env.conversions package signed.envelope >>= _) = _
  rw [hallowed]
  exact hsigned

theorem grants_of_issues (h : issue env lease now = .ok signed) :
    (∃ package, Grants env lease now package signed.envelope.allowedTools
      signed.envelope.allowedEvidenceScopes signed.envelope.tokenBudget
      signed.envelope.costBudgetUsd) ∧ signed.expiresAt = issueExpiry env lease now := by
  unfold issue at h
  simp only [bind_eq_ok, ofOption_eq_ok] at h
  obtain ⟨role, hrole, package, hpackage, envelope, hbuilt, decision, hdecision, hsigned⟩ := h
  unfold issueEnvelope at hbuilt
  simp only [bind_eq_ok, ofOption_eq_ok, require_eq_ok] at hbuilt
  obtain ⟨purpose, hpurpose, tools, htools, scopes, hscopes, budgets, hbudgets, tokenCeiling,
    htokens, tokens, hbounded, costCeiling, hcost, cost, hcostBounded, modelPolicy, hmodel, _, hne,
    _, hopen, v, hv, fs, hfs, schema, hschema, _, hattempts, heq⟩ := hbuilt
  cases heq
  cases decision with
  | denied reason => cases hsigned
  | allowed =>
    obtain ⟨httl, -, rfl⟩ := (signEnvelope_eq_ok rfl).mp hsigned
    have hdeclared := (authorize_allowed_iff rfl hv hfs).mp hdecision
    exact ⟨⟨package, ⟨role, hrole, hpackage⟩, ⟨purpose, hpurpose⟩, htools, hscopes,
      ⟨budgets, tokenCeiling, costCeiling, hbudgets, htokens, hbounded, hcost, hcostBounded⟩,
      ⟨modelPolicy, hmodel, hne⟩, hopen, ⟨v, hv⟩, ⟨fs, hfs⟩, ⟨schema, hschema⟩, hattempts, hdeclared,
      ((lifetime_pos _ _ _).mp httl).1⟩, lifetime_end _ _ _⟩

/-- The worker's envelope gives no more than the signed one. -/
structure Within (w : ExecutionEnvelope) (signed : SignedExecutionEnvelope) : Prop where
  tools : ∀ t ∈ w.allowedTools, t ∈ signed.envelope.allowedTools
  scopes : ∀ s ∈ w.allowedEvidenceScopes, s ∈ signed.envelope.allowedEvidenceScopes
  tokens : w.tokenBudget ≤ signed.envelope.tokenBudget
  cost : w.costBudgetUsd.le signed.envelope.costBudgetUsd = true
  expiry : ∃ d, w.deadline = some d ∧ d ≤ signed.expiresAt

/-- Whatever envelope the worker builds from the lease, the issuer grants as much, and the lease
outlives it. -/
def NeverBroader (env : LeaseEnvironment) (lease : TaskLease) (now now' : Timestamp) : Prop :=
  ∀ w, workerEnvelope env lease now = .ok w →
    (∃ signed, issue env lease now' = .ok signed ∧ Within w signed) ∧
      ∃ d, w.deadline = some d ∧ d ≤ lease.leaseExpiresAt

/-- The execution policy of the lease covers what the worker reads in the package. -/
def Covered (env : LeaseEnvironment) (lease : TaskLease) (now now' : Timestamp)
    (package : AgentPackage) (tools scopes : List String) (tokens : ℤ) (cost : FloatValue) : Prop :=
  ∃ grantedTools grantedScopes grantedTokens grantedCost,
    Grants env lease now' package grantedTools grantedScopes grantedTokens grantedCost ∧
    (∀ t ∈ tools, t ∈ grantedTools) ∧ (∀ s ∈ scopes, s ∈ grantedScopes) ∧
    tokens ≤ grantedTokens ∧ cost.le grantedCost = true ∧
    workerDeadline env lease now ≤ issueExpiry env lease now'

theorem worker_within_iff : NeverBroader env lease now now' ↔
    ∀ package tools scopes tokens cost, Offers env lease package tools scopes tokens cost →
      Covered env lease now now' package tools scopes tokens cost := by
  constructor
  · intro h package tools scopes tokens cost hoffers
    have hbuilds : ∃ w, workerEnvelope env lease now = .ok w ∧ _ := hoffers.builds
    obtain ⟨w, hw, rfl, rfl, rfl, rfl, hdeadline⟩ := hbuilds
    obtain ⟨⟨signed, hsigned, hwithin⟩, -⟩ := h w hw
    obtain ⟨⟨package', hgrants⟩, hexpiry⟩ := grants_of_issues hsigned
    obtain rfl : package = package' := by
      obtain ⟨role, hrole, -, hpackage⟩ := hoffers.role
      obtain ⟨role', hrole', hpackage'⟩ := hgrants.role
      obtain rfl : role = role' := Option.some.inj (hrole.symm.trans hrole')
      exact Option.some.inj (hpackage.symm.trans hpackage')
    obtain ⟨d, hd, hle⟩ := hwithin.expiry
    obtain rfl : workerDeadline env lease now = d := Option.some.inj (hdeadline.symm.trans hd)
    exact ⟨_, _, _, _, hgrants, hwithin.tools, hwithin.scopes, hwithin.tokens, hwithin.cost,
      hexpiry ▸ hle⟩
  · intro h w hw
    obtain ⟨⟨package, hoffers⟩, hdeadline⟩ := offers_of_builds hw
    obtain ⟨tools, scopes, tokens, cost, hgrants, htools, hscopes, htokens, hcost, hexpiry⟩ :=
      h package _ _ _ _ hoffers
    obtain ⟨signed, hsigned, rfl, rfl, rfl, rfl, hexpires⟩ := hgrants.issues
    refine ⟨⟨signed, hsigned, htools, hscopes, htokens, hcost, _, hdeadline, ?_⟩, _, hdeadline, ?_⟩
    · rw [hexpires]
      exact hexpiry
    · -- the signed authority ends with the lease
      calc workerDeadline env lease now
          ≤ issueExpiry env lease now' := hexpiry
        _ ≤ leaseDeadline lease := min_le_right _ _
        _ ≤ lease.leaseExpiresAt := by
          unfold leaseDeadline
          split
          · exact min_le_right _ _
          · exact le_refl _

end Authority

def samplePackage : AgentPackage where
  agentId := "operating-effectiveness"
  manifest := [("version", .str "0.8.0"), ("output_schema", .str "output.schema.json"),
    ("evidence_boundaries", .arr [.str "engagement"]),
    ("budgets", .obj [("token_budget", .int 60000), ("cost_budget_usd", .int 8)])]
  tools := [("tools", .arr [.obj [("name", .str "evidence.read")],
    .obj [("name", .str "tests.execute")]])]
  policy := []

def sampleLeaseEnvironment : LeaseEnvironment where
  conversions := .plain
  packages := [samplePackage]
  registeredTools _ := ["evidence.read", "tests.execute"]
  defaultTtl := 900000000
  envelopeTtl := 900000000

def sampleLease (tools : List String) (deadlineAt : Option Timestamp) : TaskLease where
  tenantId := "tnt_a"
  engagementId := "eng_1"
  taskId := "tsk_1"
  taskKey := "test-control"
  taskType := "agent.control_test"
  assignedAgentRole := some "operating-effectiveness"
  attemptCount := 1
  leaseOwner := "worker-1"
  leaseExpiresAt := 300000000
  executionPolicy := [("purpose", .str "operating effectiveness"),
    ("allowed_tools", .arr (tools.map .str)),
    ("allowed_evidence_scopes", .arr [.str "engagement"])]
  modelPolicy := some "flash"
  deadlineAt := deadlineAt
  humanGate := none

/-- A task that may only read evidence gets the package's other tool too, and an envelope that
outlives its lease. -/
theorem worker_broader : ¬ NeverBroader sampleLeaseEnvironment
    (sampleLease ["evidence.read"] none) 0 0 := by
  intro h
  have hworker : (workerEnvelope sampleLeaseEnvironment (sampleLease ["evidence.read"] none)
      0).toOption.map ExecutionEnvelope.allowedTools = some ["evidence.read", "tests.execute"] := by
    decide +kernel
  have hissue : (issue sampleLeaseEnvironment (sampleLease ["evidence.read"] none)
      0).toOption.map (fun signed => signed.envelope.allowedTools) = some ["evidence.read"] := by
    decide +kernel
  rcases hw : workerEnvelope sampleLeaseEnvironment (sampleLease ["evidence.read"] none) 0 with
    e | w
  · rw [hw] at hworker
    cases hworker
  · obtain ⟨⟨signed, hsigned, hwithin⟩, -⟩ := h w hw
    rw [hw] at hworker
    rw [hsigned] at hissue
    have hoffered : w.allowedTools = ["evidence.read", "tests.execute"] := Option.some.inj hworker
    have hgranted : signed.envelope.allowedTools = ["evidence.read"] := Option.some.inj hissue
    have hmem := hwithin.tools "tests.execute" (by rw [hoffered]; simp)
    rw [hgranted] at hmem
    simp at hmem

end Governance
