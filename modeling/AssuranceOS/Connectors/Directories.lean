/-
The adapters of directories and policies: Okta, Microsoft Entra and Google Cloud IAM
(`connectors/adapters/okta.py`, `entra.py` and `gcp_iam.py`).

Each goes through the ids of its scope from the index of the checkpoint on.  Okta takes the text
of its cursor out of the link to the next page; Entra requests the link itself.
-/
import AssuranceOS.Connectors.Rest

namespace Connectors

open JsonText Vault Checked

namespace Okta

def descriptor : ConnectorDescriptor where
  connectorType := "okta"
  streams := ["groups", "users"]

def headers : Headers := [("Accept", "application/json")]

def groupIds (request : CollectionRequest) : Except ConnectorError (List String) :=
  request.scopeTexts "group_ids"
    (valueError "Okta request.scope.group_ids must be a non-empty string list")

/-- `scope_for`. -/
def scopeFor (request : CollectionRequest) : Except ConnectorError Dict :=
  (groupIds request).map fun ids => dictOf [("group_ids", strings ids)]

section Collect

variable (a : RestAdapter)

def health (checkedAt : Timestamp) : Rest ConnectorHealth := do
  let response ← a.request "GET" "/api/v1/org" [] none headers
  let organization ← lift (fieldOf response.jsonBody "companyName")
  return {
    status := .healthy
    checkedAt := checkedAt
    details := dictOf [("organization", organization)] }

/-- `_object`. -/
def sourceObject (stream groupId : String) (item : Value) : Except ConnectorError SourceObject := do
  let objectId := a.py.str (a.py.or (← fieldOf item "id") (.str ""))
  require (objectId ≠ "") (.provider "Okta object omitted id")
  let lastUpdated ← fieldOf item "lastUpdated"
  let updated ← a.py.parseTimestamp lastUpdated
  let created ← fieldOf item "created"
  let kind := if stream = "groups" then "group" else "user"
  let locator ← a.url ("/admin/" ++ kind ++ "/" ++ objectId)
  checked {
    sourceObjectId := objectId
    sourceVersion := a.py.str (a.py.or (a.py.or lastUpdated created) (.str "unknown"))
    sourceLocator := locator
    payload := payloadOf item
    sourceTime := updated
    originalFilename := some ("okta-" ++ stream ++ "-" ++ objectId ++ ".json")
    metadata := dictOf [("stream", .str stream), ("bounded_by_group", .str groupId),
      ("read_only", .bool true)] }

def protocolError : ConnectorError := .provider "Okta directory response must be an array"

/-- `path`. -/
def path (stream groupId : String) : String :=
  if stream = "groups" then "/api/v1/groups/" ++ groupId
  else "/api/v1/groups/" ++ groupId ++ "/users"

def records (stream : String) : Value → Except ConnectorError (List Value)
  | .obj entries => if stream = "groups" then .ok [.obj entries] else .error protocolError
  | value => listOr protocolError value

/-- `after` in the link to the next page. -/
def nextAfter (response : HttpResponse) : Except ConnectorError (Option String) :=
  let links := Runtime.parseLinkHeader (Runtime.headerOf response.headers "Link" "link")
  match links.lookup "next" with
  | some nextUrl => if nextUrl = "" then .ok none else a.py.queryValue nextUrl "after"
  | none => .ok none

def groupPage (request : CollectionRequest) (index : ℤ) (groupId : String) (params : Object) :
    Rest (Option Object) := do
  let response ← a.request "GET" (path request.stream groupId) params none headers
  let items ← lift (records request.stream response.jsonBody)
  let objects ← lift (items.mapM (sourceObject a request.stream groupId))
  let after ← lift (nextAfter a response)
  let more := PyString.truthy after
  emit {
    objects := objects
    nextCursor := some (dictOf [("group_index", .int (if more then index else index + 1)),
      ("after", optional after)])
    requestMetadata := dictOf [("endpoint", .str (path request.stream groupId)),
      ("group_id", .str groupId)] }
  return if more ∧ request.stream ≠ "groups" then some (assign params "after" (optional after))
    else none

def collectGroup (rounds : ℕ) (request : CollectionRequest) (startGroup : ℤ) (after : Value)
    (group : ℤ × String) : Rest Unit := do
  let pageSize ← lift (a.py.int (request.parameter "page_size" (.int 200)))
  let params : Object := [("limit", .int (min pageSize 200))] ++
    if a.py.conversions.truthy after ∧ group.1 = startGroup then [("after", after)] else []
  Program.loop (groupPage a request group.1 group.2) goingRound rounds params

/-- `collect_pages`. -/
def collectPages (rounds : ℕ) (request : CollectionRequest) (checkpoint : Dict) : Rest Unit := do
  let ids ← lift (groupIds request)
  let startGroup ← lift (a.py.int ((checkpoint.entries.lookup "group_index").getD (.int 0)))
  Program.forEach (fun _ group =>
    collectGroup a rounds request startGroup (get checkpoint.entries "after") group)
    (enumerateFrom startGroup ids) ()

def adapter : Adapter where
  descriptor := descriptor
  scopeFor := scopeFor
  health := health a
  collectPages := collectPages a

end Collect

end Okta

/-! ### Microsoft Entra -/

namespace Entra

def descriptor : ConnectorDescriptor where
  connectorType := "entra"
  streams := ["users", "groups", "group_members", "directory_roles"]

def scopeKey (request : CollectionRequest) : String :=
  if request.stream = "groups" ∨ request.stream = "group_members" then "group_ids"
  else "object_ids"

def scopeIds (request : CollectionRequest) : Except ConnectorError (List String) :=
  request.scopeTexts (scopeKey request)
    (valueError ("Entra request.scope." ++ scopeKey request ++ " must be a non-empty string list"))

/-- `scope_for`. -/
def scopeFor (request : CollectionRequest) : Except ConnectorError Dict :=
  (scopeIds request).map fun ids => dictOf [(scopeKey request, strings ids)]

section Collect

variable (a : RestAdapter)

def health (checkedAt : Timestamp) : Rest ConnectorHealth := do
  let response ← a.request "GET" "/v1.0/organization" [("$select", .str "id,displayName")] none []
  let values ← lift (fieldOr response.jsonBody "value" (.arr []))
  let count ← lift (lengthOf values)
  return {
    status := .healthy
    checkedAt := checkedAt
    details := dictOf [("organizations", .int count)] }

/-- `_object`. -/
def sourceObject (stream scopeId : String) (item : Value) : Except ConnectorError SourceObject := do
  let objectId := a.py.str (a.py.or (← fieldOf item "id") (.str ""))
  require (objectId ≠ "") (.provider "Microsoft Graph object omitted id")
  let lastModified ← fieldOf item "lastModifiedDateTime"
  let modified ← a.py.parseTimestamp lastModified
  let etag ← fieldOf item "@odata.etag"
  checked {
    sourceObjectId := objectId
    sourceVersion := a.py.str (a.py.or (a.py.or lastModified etag) (.str "current"))
    sourceLocator := "entra://" ++ stream ++ "/" ++ objectId
    payload := payloadOf item
    sourceTime := modified
    originalFilename := some ("entra-" ++ stream ++ "-" ++ objectId ++ ".json")
    metadata := dictOf [("stream", .str stream), ("scope_object_id", .str scopeId),
      ("read_only", .bool true)] }

/-- `path`. -/
def path (stream objectId : String) : String :=
  if stream = "group_members" then "/v1.0/groups/" ++ objectId ++ "/transitiveMembers"
  else if stream = "directory_roles" then "/v1.0/directoryRoles/" ++ objectId ++ "/members"
  else "/v1.0/" ++ stream ++ "/" ++ objectId

def records (payload : Value) : Except ConnectorError (List Value) :=
  match payload with
  | .obj entries =>
    match entries.lookup "value" with
    | some value =>
      listOr (.provider "Microsoft Graph response must contain value array") value
    | none => .ok [payload]
  | _ => .ok [payload]

def nextLink : Value → Value
  | .obj entries => get entries "@odata.nextLink"
  | _ => .null

/-- The parameters of a request: only a path of the adapter's own has any. -/
def pageParams (request : CollectionRequest) (path url : String) :
    Except ConnectorError Object :=
  if url = path ∧ (request.stream = "group_members" ∨ request.stream = "directory_roles") then do
    let pageSize ← a.py.int (request.parameter "page_size" (.int 100))
    return [("$top", .int (min pageSize 999))]
  else .ok []

def objectPage (request : CollectionRequest) (index : ℤ) (objectId : String) (url : String) :
    Rest (Option String) := do
  if url = "" then return none
  let path := path request.stream objectId
  let params ← lift (pageParams a request path url)
  let response ← a.request "GET" url params none []
  let items ← lift (records response.jsonBody)
  let objects ← lift (items.mapM (sourceObject a request.stream objectId))
  let link := nextLink response.jsonBody
  let more := a.py.conversions.truthy link
  emit {
    objects := objects
    nextCursor := some (dictOf [("object_index", .int (if more then index else index + 1)),
      ("next_url", link)])
    requestMetadata := dictOf [("endpoint", .str path), ("scope_object_id", .str objectId)] }
  return if more then some (a.py.str link) else none

/-- Where the pages of an object begin: at the link of the checkpoint, if it is about this
object. -/
def firstUrl (request : CollectionRequest) (start : ℤ) (checkpointUrl : Value)
    (object : ℤ × String) : String :=
  if object.1 = start ∧ a.py.conversions.truthy checkpointUrl then a.py.str checkpointUrl
  else path request.stream object.2

/-- `collect_pages`. -/
def collectPages (rounds : ℕ) (request : CollectionRequest) (checkpoint : Dict) : Rest Unit := do
  let ids ← lift (scopeIds request)
  let start ← lift (a.py.int ((checkpoint.entries.lookup "object_index").getD (.int 0)))
  Program.forEach (fun _ object =>
    Program.loop (objectPage a request object.1 object.2) goingRound rounds
      (firstUrl a request start (get checkpoint.entries "next_url") object))
    (enumerateFrom start ids) ()

def adapter : Adapter where
  descriptor := descriptor
  scopeFor := scopeFor
  health := health a
  collectPages := collectPages a

end Collect

end Entra

namespace GcpIam

def descriptor : ConnectorDescriptor where
  connectorType := "gcp_iam"
  streams := ["project_iam_policies"]

def projectIds (request : CollectionRequest) : Except ConnectorError (List String) :=
  request.scopeTexts "project_ids"
    (valueError "Google Cloud IAM request.scope.project_ids must be a non-empty string list")

/-- `scope_for`. -/
def scopeFor (request : CollectionRequest) : Except ConnectorError Dict :=
  (projectIds request).map fun ids => dictOf [("project_ids", strings ids)]

section Collect

variable (a : RestAdapter)

def health (checkedAt : Timestamp) : Rest ConnectorHealth := do
  let response ← a.request "GET" "/v1/projects" [("pageSize", .int 1)] none []
  let projects ← lift (fieldOf response.jsonBody "projects")
  return {
    status := .healthy
    checkedAt := checkedAt
    details := dictOf [("readable_project_seen", .bool (a.py.conversions.truthy projects))] }

def protocolError : ConnectorError :=
  .provider "Google Cloud IAM response omitted policy bindings"

def policyOf : Value → Except ConnectorError Object
  | .obj entries =>
    if (entries.lookup "bindings").isSome then .ok entries else .error protocolError
  | _ => .error protocolError

/-- `path`. -/
def path (projectId : String) : String := "/v1/projects/" ++ projectId ++ ":getIamPolicy"

def collectProject (project : ℤ × String) : Rest Unit := do
  let path := path project.2
  let response ← a.request "POST" path []
    (some [("options", .obj [("requestedPolicyVersion", .int 3)])])
    [("Accept", "application/json"), ("Content-Type", "application/json")]
  let policy ← lift (policyOf response.jsonBody)
  let etag := a.py.str (a.py.or (get policy "etag") (.str "unknown"))
  let version := a.py.str ((policy.lookup "version").getD (.int 1))
  let object ← lift (checked {
    sourceObjectId := project.2
    sourceVersion := "v" ++ version ++ ":" ++ etag
    sourceLocator := "gcp://projects/" ++ project.2 ++ "/iamPolicy"
    payload := dictOf policy
    originalFilename := some ("gcp-iam-" ++ project.2 ++ ".json")
    metadata := dictOf [("project_id", .str project.2), ("requested_policy_version", .int 3),
      ("read_only", .bool true)] })
  emit {
    objects := [object]
    nextCursor := some (dictOf [("project_index", .int (project.1 + 1))])
    requestMetadata := dictOf [("endpoint", .str path), ("project_id", .str project.2)] }

/-- `collect_pages`. -/
def collectPages (request : CollectionRequest) (checkpoint : Dict) : Rest Unit := do
  let ids ← lift (projectIds request)
  let start ← lift (a.py.int ((checkpoint.entries.lookup "project_index").getD (.int 0)))
  Program.forEach (fun _ project => collectProject a project) (enumerateFrom start ids) ()

def adapter : Adapter where
  descriptor := descriptor
  scopeFor := scopeFor
  health := health a
  collectPages _ := collectPages a

end Collect

end GcpIam

end Connectors
