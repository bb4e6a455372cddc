/-
The evaluator sandbox (`evaluator_sandbox.py`): disposable workspaces, the connectors that are
attached to them, and the store of their credentials.

A workspace is a tenant whose id is made of the id of the workspace; whoever knows the id may
spell it with blanks around it and with capitals (`tenantFor`).  A call is a program over the
database and the store, which is that of a process (`InProcessCredentialStore`).  Any operation on
the database can fail, before it has done anything or after it is done (`Environment.fault`).
-/
import AssuranceOS.Connectors.Rest

namespace Sandbox

open JsonText Vault Checked Connectors

/-- The exceptions that a call can leave with. -/
inductive Failure where
  /-- `SandboxError` -/
  | sandbox (text : String)
  /-- `SandboxNotFoundError` -/
  | notFound (text : String)
  /-- `ValidationError`, of the field -/
  | validation (field : String)
  | connector (error : ConnectorError)
  | database (text : String)

/-- `except SandboxError`. -/
def Failure.isSandboxError : Failure → Bool
  | .sandbox _ | .notFound _ => true
  | _ => false

structure StreamProfile where
  name : String
  label : String
  scopeKey : String
  scopeLabel : String
  scopeIsList : Bool := true
  grantKey : Option String := none

namespace StreamProfile

variable (stream : StreamProfile)

def selectorKey : String :=
  match stream.grantKey with
  | some key => if key = "" then stream.scopeKey else key
  | none => stream.scopeKey

/-- `_items`. -/
def items (value : String) : Except Failure (List String) := do
  let items := ((splitText ',' value).map PyString.strip).filter fun item => item ≠ ""
  require (items ≠ []) (.sandbox (stream.scopeLabel ++ " is required"))
  return items

/-- `scope_for`. -/
def scopeFor (value : String) : Except Failure Dict := do
  let items ← stream.items value
  if stream.scopeIsList then return dictOf [(stream.scopeKey, strings items)]
  else
    match items with
    | [item] => return dictOf [(stream.scopeKey, .str item)]
    | _ => .error (.sandbox (stream.scopeLabel ++ " takes a single value"))

/-- `selectors_for`. -/
def selectorsFor (value : String) : Except Failure Dict :=
  (stream.items value).map fun items => dictOf [(stream.selectorKey, strings items)]

end StreamProfile

structure ProviderProfile where
  connectorType : String
  displayName : String
  allowedHosts : List String
  credentialFields : List String
  headerBuilder : List (String × String) → Headers
  streams : List StreamProfile

namespace ProviderProfile

variable (profile : ProviderProfile)

def stream (name : String) : Except Failure StreamProfile :=
  ofOption (.sandbox (profile.displayName ++ " does not expose a '" ++ name ++ "' stream"))
    (profile.streams.find? fun item => item.name = name)

def headers (values : List (String × String)) : Except Failure Headers := do
  let missing := profile.credentialFields.filter fun field =>
    ¬ PyString.truthy (values.lookup field)
  require (missing = [])
    (.sandbox ("missing credential values: " ++
      ", ".intercalate (missing.insertionSort (· ≤ ·))))
  return profile.headerBuilder values

end ProviderProfile

/-! ### Rows and the store -/

structure Tenant where
  tenantId : String
  name : String
  createdAt : Timestamp
  deriving DecidableEq

/-- A credential, with the tenant that it was stored for. -/
structure Secret where
  name : String
  headers : Headers
  tenantId : String
  deriving DecidableEq

structure World where
  tenants : List Tenant := []
  db : Connectors.Database := {}
  store : List Secret := []
  ticks : ℕ := 0

/-- `SandboxLimits`, as far as workspaces go. -/
structure SandboxLimits where
  maxWorkspaces : ℕ := 25
  ttlHours : ℕ := 48
  grantHours : ℕ := 6

def hours (n : ℕ) : Timestamp := n * 3600 * 1000000

/-- The sandbox, with what it gets from outside at each operation. -/
structure Environment where
  unicode : PyString.UnicodeData
  providers : List (String × ProviderProfile)
  /-- `validate_provider_url` -/
  validateUrl : String → ProviderProfile → Except Failure Unit
  limits : SandboxLimits := {}
  clock : ℕ → Timestamp
  hex : ℕ → String
  fault : ℕ → Option Fault := fun _ => none

def workspacePrefix : String := "tnt_eval_"

def secretNamePrefix : String := "assuranceos-eval-"

def memoryScheme : String := "sandbox-memory://"

/-- `_secret_name`. -/
def secretName (workspaceId connectorKey : String) : String :=
  secretNamePrefix ++ workspaceId ++ "-" ++ connectorKey

/-- `tenant_id.removeprefix(WORKSPACE_PREFIX)`. -/
def workspaceIdOf (tenantId : String) : String :=
  if PyString.startswith tenantId [workspacePrefix] then
    String.ofList (tenantId.toList.drop workspacePrefix.length)
  else tenantId

def isHexDigit (c : Char) : Bool := (48 ≤ c.toNat && c.toNat ≤ 57) || (97 ≤ c.toNat && c.toNat ≤ 102)

/-- `tenant_for`. -/
def Environment.tenantFor (env : Environment) (workspaceId : String) : Except Failure String := do
  let value := PyString.lower env.unicode (PyString.strip workspaceId)
  require (value.length = 32 ∧ value.toList.all isHexDigit)
    (.notFound "that is not a workspace identifier")
  return workspacePrefix ++ value

-- no proof looks into the text of an id
attribute [irreducible] Environment.tenantFor

/-- What a call asks of the clock, of the random source, of the store and of the database. -/
inductive Op where
  | clock
  | tokenHex
  /-- `store.put`, for a tenant -/
  | put (secretName : String) (headers : Headers) (tenantId : String)
  /-- `store.delete` -/
  | delete (secretName : String)
  | getTenant (tenantId : String)
  /-- the tenants whose ids begin like that of a workspace -/
  | listWorkspaces
  | addTenant (tenant : Tenant)
  /-- `session.delete(row)`, where there still is a row -/
  | deleteTenant (tenantId : String)
  | listInstances (tenantId : String)
  | listGrants (tenantId : String)
  | registerInstance (tenantId : String) (data : ConnectorInstanceInput)
  | createGrant (tenantId connectorInstanceId : String) (data : CollectionGrantInput)
  | revokeGrant (tenantId grantId actorId reason : String)

abbrev Op.Answer : Op → Type
  | .clock => Timestamp
  | .tokenHex => String
  | .put _ _ _ => String
  | .delete _ => Unit
  | .getTenant _ => Option Tenant
  | .listWorkspaces => List Tenant
  | .addTenant _ => Unit
  | .deleteTenant _ => Unit
  | .listInstances _ => List ConnectorInstance
  | .listGrants _ => List CollectionGrant
  | .registerInstance _ _ => ConnectorInstance
  | .createGrant _ _ _ => CollectionGrant
  | .revokeGrant _ _ _ _ => CollectionGrant

def Op.isDatabase : Op → Bool
  | .clock | .tokenHex | .put _ _ _ | .delete _ => false
  | _ => true

/-- The rows of the connectors less those of a tenant, which go with it. -/
def withoutTenant (db : Connectors.Database) (tenantId : String) : Connectors.Database where
  instances := db.instances.filter fun row => row.tenantId ≠ tenantId
  grants := db.grants.filter fun row => row.tenantId ≠ tenantId
  checkpoints := db.checkpoints.filter fun row => row.key.tenantId ≠ tenantId
  runs := db.runs.filter fun row => row.tenantId ≠ tenantId
  collected := db.collected.filter fun row => row.tenantId ≠ tenantId

namespace World

variable (w : World)

def getTenant (tenantId : String) : Option Tenant :=
  w.tenants.find? fun t => t.tenantId = tenantId

def listWorkspaces : List Tenant :=
  w.tenants.filter fun t => PyString.startswith t.tenantId [workspacePrefix]

def addTenant (tenant : Tenant) : Except Failure World := do
  require ((w.getTenant tenant.tenantId).isNone) (.database "tenant already exists")
  return { w with tenants := w.tenants ++ [tenant] }

def deleteTenant (tenantId : String) : World :=
  { w with
    tenants := w.tenants.filter fun t => t.tenantId ≠ tenantId
    db := withoutTenant w.db tenantId }

/-- `_values[secret_name] = headers`. -/
def putSecret (secret : Secret) : World :=
  { w with store := (w.store.filter fun s => s.name ≠ secret.name) ++ [secret] }

/-- `_values.pop(secret_name, None)`. -/
def deleteSecret (name : String) : World :=
  { w with store := w.store.filter fun s => s.name ≠ name }

end World

namespace Environment

variable (env : Environment)

/-- A transaction of the connectors; one that raises leaves nothing. -/
def transact {α : Type} (w : World) (result : Except ConnectorError (α × Connectors.Database)) :
    Except Failure α × World :=
  match result with
  | .ok (answer, db) => (.ok answer, { w with db := db })
  | .error e => (.error (.connector e), w)

/-- The registration of an instance in the state that it finds. -/
def registered (w : World) (tenantId : String) (data : ConnectorInstanceInput) :
    Except ConnectorError (ConnectorInstance × Connectors.Database) :=
  registerInstance (w.tenants.map Tenant.tenantId) w.db (newId "con" (env.hex w.ticks)) tenantId
    data

def effect (w : World) : (op : Op) → Except Failure op.Answer × World
  | .clock => (.ok (env.clock w.ticks), w)
  | .tokenHex => (.ok (env.hex w.ticks), w)
  | .put name headers tenantId =>
    (.ok (memoryScheme ++ name),
      w.putSecret { name := name, headers := headers, tenantId := tenantId })
  | .delete name => (.ok (), w.deleteSecret name)
  | .getTenant tenantId => (.ok (w.getTenant tenantId), w)
  | .listWorkspaces => (.ok w.listWorkspaces, w)
  | .addTenant tenant =>
    match w.addTenant tenant with
    | .ok w' => (.ok (), w')
    | .error e => (.error e, w)
  | .deleteTenant tenantId => (.ok (), w.deleteTenant tenantId)
  | .listInstances tenantId => (.ok (w.db.listInstances tenantId), w)
  | .listGrants tenantId => (.ok (w.db.listGrants tenantId), w)
  | .registerInstance tenantId data => transact w (env.registered w tenantId data)
  | .createGrant tenantId connectorInstanceId data =>
    transact w (createGrant w.db (newId "grt" (env.hex w.ticks)) tenantId connectorInstanceId data
      (env.clock w.ticks))
  | .revokeGrant tenantId grantId actorId reason =>
    transact w (revokeGrant w.db tenantId grantId actorId reason (env.clock w.ticks))

def exec (op : Op) (w : World) : Except Failure op.Answer × World :=
  match if op.isDatabase then env.fault w.ticks else none with
  | some (.before text) => (.error (.database text), { w with ticks := w.ticks + 1 })
  | some (.after text) =>
    (.error (.database text), { (env.effect w op).2 with ticks := w.ticks + 1 })
  | none => ((env.effect w op).1, { (env.effect w op).2 with ticks := w.ticks + 1 })

end Environment

abbrev Method (α : Type) : Type := Program Op.Answer Failure α

def lift {α : Type} (x : Except Failure α) : Method α := .done x

theorem lift_calls {α : Type} {P : Op → Prop} (x : Except Failure α) : (lift x).Calls P := trivial

section Calls

open Program (perform)

variable (env : Environment)

structure WorkspaceView where
  workspaceId : String
  tenantId : String
  companyName : String
  primaryDomain : Option String
  createdAt : Timestamp
  expiresAt : Timestamp

/-- `get_workspace`. -/
def getWorkspace (workspaceId : String) : Method WorkspaceView := do
  let tenantId ← lift (env.tenantFor workspaceId)
  match ← perform (Op.getTenant tenantId) with
  | none => lift (.error (.notFound "no such workspace"))
  | some row =>
    return {
      workspaceId := workspaceId
      tenantId := tenantId
      companyName := row.name
      primaryDomain := none
      createdAt := row.createdAt
      expiresAt := row.createdAt + hours env.limits.ttlHours }

/-- `bool(instance.credential_ref)`. -/
def hasCredential (connectorInstance : ConnectorInstance) : Bool :=
  PyString.truthy connectorInstance.credentialRef

/-- Destroy the credential of an instance, if it has one, under the spelling that is given, and
count it. -/
def destroySecret (workspaceId : String) (count : ℕ) (connectorInstance : ConnectorInstance) :
    Method ℕ := do
  if hasCredential connectorInstance then
    perform (Op.delete (secretName workspaceId connectorInstance.connectorKey))
    return count + 1
  else return count

def revokeActive (tenantId : String) (grant : CollectionGrant) : Method Unit := do
  if grant.status = .active then
    let _ ← perform (Op.revokeGrant tenantId grant.grantId "evaluator-sandbox" "workspace deleted")
  return ()

/-- `delete_workspace`, with the number of the credentials that it destroys. -/
def deleteWorkspace (workspaceId : String) : Method ℕ := do
  let tenantId ← lift (env.tenantFor workspaceId)
  match ← perform (Op.getTenant tenantId) with
  | none => lift (.error (.notFound "no such workspace"))
  | some _ => do
    let instances ← perform (Op.listInstances tenantId)
    let destroyed ← Program.forEach (destroySecret workspaceId) instances 0
    let grants ← perform (Op.listGrants tenantId)
    Program.forEach (fun _ grant => revokeActive tenantId grant) grants ()
    perform (Op.deleteTenant tenantId)
    return destroyed

def stale (cutoff : Timestamp) (workspaces : List Tenant) : List Tenant :=
  workspaces.filter fun row => row.createdAt < cutoff

/-- A turn of the sweep, which goes on after a `SandboxError`. -/
def sweepOne (row : Tenant) : Method Unit :=
  (do
    let _ ← deleteWorkspace env (workspaceIdOf row.tenantId)
    return () : Method Unit).handle fun e =>
      if e.isSandboxError then return () else lift (.error e)

/-- `_sweep_expired`. -/
def sweepExpired : Method ℕ := do
  let now ← perform Op.clock
  let workspaces ← perform Op.listWorkspaces
  let expired := stale (now - hours env.limits.ttlHours) workspaces
  Program.forEach (fun _ row => sweepOne env row) expired ()
  return expired.length

/-- `create_workspace`. -/
def createWorkspace (companyName : String) (primaryDomain : Option String) :
    Method WorkspaceView := do
  let name := PyString.strip companyName
  lift (require (name ≠ "") (.sandbox "a company name is required"))
  lift (require (name.length ≤ 120) (.sandbox "a company name is at most 120 characters"))
  let _ ← sweepExpired env
  let now ← perform Op.clock
  let live ← perform Op.listWorkspaces
  lift (require (live.length < env.limits.maxWorkspaces)
    (.sandbox ("the evaluation sandbox is holding as many workspaces as it allows; " ++
      "delete one, or try again once an existing workspace expires")))
  let workspaceId ← perform Op.tokenHex
  let tenantId := workspacePrefix ++ workspaceId
  perform (Op.addTenant { tenantId := tenantId, name := name, createdAt := now })
  let domain := PyString.strip (primaryDomain.getD "")
  return {
    workspaceId := workspaceId
    tenantId := tenantId
    companyName := name
    primaryDomain := if domain = "" then none else some domain
    createdAt := now
    expiresAt := now + hours env.limits.ttlHours }

/-! ### Attaching a provider -/

/-- The arguments of `connect`. -/
structure Attachment where
  provider : String
  baseUrl : String
  stream : String
  scopeValue : String
  credentials : List (String × String) := []
  displayName : Option String := none

def Attachment.supplied (call : Attachment) : List (String × String) :=
  (call.credentials.map fun e => (e.1, PyString.strip e.2)).filter fun e => e.2 ≠ ""

/-- `_profile`. -/
def Environment.profile (provider : String) : Except Failure ProviderProfile :=
  ofOption (.sandbox ("unknown provider '" ++ provider ++ "'; this build offers " ++
    ", ".intercalate ((env.providers.map Prod.fst).insertionSort (· ≤ ·))))
    (env.providers.lookup provider)

/-- Put the credential of a connector into the store; only GitHub reads without one. -/
def storeCredential (workspaceId tenantId connectorKey : String) (profile : ProviderProfile)
    (supplied : List (String × String)) : Method (Option String) := do
  if supplied ≠ [] then
    let headers ← lift (profile.headers supplied)
    let credentialRef ← perform (Op.put (secretName workspaceId connectorKey) headers tenantId)
    return some credentialRef
  else if profile.connectorType ≠ "github" then
    lift (.error (.sandbox (profile.displayName ++ " requires a credential")))
  else return none

/-- `ConnectorInstanceInput`, with the lengths that its fields may have. -/
def instanceInput (connectorKey : String) (profile : ProviderProfile) (call : Attachment)
    (credentialRef : Option String) : Except Failure ConnectorInstanceInput := do
  let displayName :=
    match call.displayName with
    | some name => if name = "" then profile.displayName else name
    | none => profile.displayName
  require (1 ≤ connectorKey.length ∧ connectorKey.length ≤ 128) (.validation "connector_key")
  require (1 ≤ profile.connectorType.length ∧ profile.connectorType.length ≤ 64)
    (.validation "connector_type")
  require (1 ≤ displayName.length ∧ displayName.length ≤ 255) (.validation "display_name")
  return {
    connectorKey := connectorKey
    connectorType := profile.connectorType
    displayName := displayName
    baseUrl := some (String.ofList (call.baseUrl.toList.rdropWhile fun c => c = '/'))
    credentialRef := credentialRef
    config := dictOf [("evaluator_sandbox", .bool true),
      ("allowed_hosts", strings profile.allowedHosts),
      ("authenticated", .bool (PyString.truthy credentialRef))] }

def register (workspaceId tenantId : String) (profile : ProviderProfile) (call : Attachment) :
    Method ConnectorInstance := do
  let token ← perform Op.tokenHex
  let connectorKey := profile.connectorType ++ "-" ++ token
  let credentialRef ←
    storeCredential workspaceId tenantId connectorKey profile call.supplied
  let data ← lift (instanceInput connectorKey profile call credentialRef)
  perform (Op.registerInstance tenantId data)

/-- `CollectionGrantInput`, with the lengths that its fields may have. -/
def grantInput (u : PyString.UnicodeData) (connectorKey companyName : String)
    (stream : StreamProfile) (selectors : Dict) (expiresAt : Timestamp) :
    Except Failure CollectionGrantInput := do
  let grantKey := connectorKey ++ "-" ++ stream.name
  let purpose :=
    "Evaluator collection of " ++ PyString.lower u stream.label ++ " for " ++ companyName
  require (1 ≤ grantKey.length ∧ grantKey.length ≤ 255) (.validation "grant_key")
  require (purpose.length ≤ 4000) (.validation "purpose")
  return {
    grantKey := grantKey
    purpose := purpose
    allowedStreams := [stream.name]
    resourceSelectors := selectors
    approvedBy := "evaluator"
    expiresAt := some expiresAt }

/-- What `connect` hands over. -/
structure Attached where
  connector : ConnectorInstance
  grant : CollectionGrant
  stream : String
  scope : Dict

/-- `connect`. -/
def connect (workspaceId : String) (call : Attachment) : Method Attached := do
  let workspace ← getWorkspace env workspaceId
  let profile ← lift (env.profile call.provider)
  let stream ← lift (profile.stream call.stream)
  let scope ← lift (stream.scopeFor call.scopeValue)
  let selectors ← lift (stream.selectorsFor call.scopeValue)
  lift (env.validateUrl call.baseUrl profile)
  let connector ← register workspaceId workspace.tenantId profile call
  let now ← perform Op.clock
  let data ← lift (grantInput env.unicode connector.connectorKey workspace.companyName stream
    selectors (now + hours env.limits.grantHours))
  let grant ← perform (Op.createGrant workspace.tenantId connector.connectorInstanceId data)
  return { connector := connector, grant := grant, stream := call.stream, scope := scope }

end Calls

/-- A call of the sandbox; the sweep is part of a creation. -/
inductive Call where
  | create (companyName : String) (primaryDomain : Option String)
  | connect (workspaceId : String) (attachment : Attachment)
  | deleteWorkspace (workspaceId : String)

def Environment.program (env : Environment) : Call → Method Unit
  | .create companyName primaryDomain => do
    let _ ← createWorkspace env companyName primaryDomain
    return ()
  | .connect workspaceId attachment => do
    let _ ← Sandbox.connect env workspaceId attachment
    return ()
  | .deleteWorkspace workspaceId => do
    let _ ← Sandbox.deleteWorkspace env workspaceId
    return ()

/-- A whole call of the service. -/
def Environment.step (env : Environment) (w : World) (call : Call) : World :=
  ((env.program call).run env.exec w).2

end Sandbox
