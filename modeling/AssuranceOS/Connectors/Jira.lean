/-
The Jira adapter (`connectors/adapters/jira.py`).

The query that it sends restricts the search to the projects of the scope, and puts the query of
the request, which is text, in parentheses behind the restriction.
-/
import AssuranceOS.Connectors.Rest

namespace Connectors.Jira

open JsonText Vault

def descriptor : ConnectorDescriptor where
  connectorType := "jira"
  streams := ["issues"]

def headers : Headers := [("Accept", "application/json"), ("Content-Type", "application/json")]

/-- The projects that the scope names: one, or a list that is not empty. -/
def projectsOf (request : CollectionRequest) : Except ConnectorError (List String) :=
  match request.scopeValue "projects" with
  | .str project => .ok [project]
  | value =>
    match asStrings value with
    | some (project :: projects) => .ok (project :: projects)
    | _ => .error (valueError "Jira request.scope.projects must be a non-empty string list")

/-- `scope_for`. -/
def scopeFor (request : CollectionRequest) : Except ConnectorError Dict :=
  (projectsOf request).map fun projects => dictOf [("projects", strings projects)]

/-- `supplied_jql`. -/
def suppliedJql (py : Runtime) (request : CollectionRequest) : String :=
  PyString.strip (py.str (py.or (get request.parameters.entries "jql") (.str "")))

/-- `bounded_jql`. -/
def boundedJql (projects : List String) : String :=
  "project in (" ++ ",".intercalate projects ++ ")"

/-- `jql`. -/
def jql (projects : List String) (supplied : String) : String :=
  if supplied = "" then boundedJql projects
  else "(" ++ boundedJql projects ++ ") AND (" ++ supplied ++ ")"

section Collect

variable (a : RestAdapter)

def health (checkedAt : Timestamp) : Rest ConnectorHealth := do
  let response ← a.request "GET" "/rest/api/3/myself" [] none headers
  let account ← lift (fieldOf response.jsonBody "accountId")
  return {
    status := .healthy
    checkedAt := checkedAt
    details := dictOf [("account_id", account)] }

def issueObject (projects : List String) (query : String) (issue : Value) :
    Except ConnectorError SourceObject := do
  let fields := a.py.or (← fieldOf issue "fields") (.obj [])
  let updated ← fieldOf fields "updated"
  let sourceTime ← a.py.parseTimestamp updated
  let issueKey ← fieldOf issue "key"
  let issueId := a.py.str (a.py.or (← fieldOf issue "id") issueKey)
  let key := a.py.str (a.py.or issueKey (.str issueId))
  let locator ← a.url ("/browse/" ++ key)
  checked {
    sourceObjectId := issueId
    sourceVersion := a.py.str (a.py.or updated (.str "unknown"))
    sourceLocator := locator
    payload := payloadOf issue
    sourceTime := sourceTime
    originalFilename := some ("jira-" ++ key ++ ".json")
    metadata := dictOf [("issue_key", .str key), ("projects", strings projects),
      ("jql", .str query)] }

def protocolError : ConnectorError :=
  .provider "Jira search response must contain an issues array"

/-- `payload.get("issues")`. -/
def issuesOf : Value → Except ConnectorError (List Value)
  | .obj entries => listOr protocolError (get entries "issues")
  | _ => .error protocolError

def defaultFields : Value :=
  strings ["summary", "status", "assignee", "reporter", "created", "updated", "resolution",
    "labels"]

/-- `body`. -/
def searchBody (query : String) (request : CollectionRequest) (pageSize : ℤ) (token : Value) :
    Object :=
  [("jql", .str query), ("maxResults", .int (min pageSize 100)),
    ("fields", request.parameter "fields" defaultFields), ("fieldsByKeys", .bool true)] ++
    if a.py.conversions.truthy token then [("nextPageToken", token)] else []

def searchPage (projects : List String) (query : String) (request : CollectionRequest)
    (token : Value) : Rest (Option Value) := do
  let pageSize ← lift (a.py.int (request.parameter "page_size" (.int 100)))
  let response ← a.request "POST" "/rest/api/3/search/jql" []
    (some (searchBody a query request pageSize token)) headers
  let issues ← lift (issuesOf response.jsonBody)
  let objects ← lift (issues.mapM (issueObject a projects query))
  let token ← lift (fieldOf response.jsonBody "nextPageToken")
  emit {
    objects := objects
    nextCursor := some (dictOf [("next_page_token", token)])
    requestMetadata := dictOf [("endpoint", .str "/rest/api/3/search/jql"), ("jql", .str query)] }
  return if a.py.conversions.truthy token then some token else none

/-- `collect_pages`. -/
def collectPages (rounds : ℕ) (request : CollectionRequest) (checkpoint : Dict) : Rest Unit := do
  let projects ← lift (projectsOf request)
  let query := jql projects (suppliedJql a.py request)
  Program.loop (searchPage a projects query request) goingRound rounds
    (get checkpoint.entries "next_page_token")

/-- The Jira connector. -/
def adapter : Adapter where
  descriptor := descriptor
  scopeFor := scopeFor
  health := health a
  collectPages := collectPages a

end Collect

/-- The request of the call, if it is one, sends this query. -/
def SendsJql (query : String) : RestOp → Prop
  | .send request => ∃ body ∈ request.jsonBody, get body "jql" = .str query
  | .emit _ => True

variable {a : RestAdapter} {projects : List String} {request : CollectionRequest}

theorem searchPage_calls {query : String} (token : Value) :
    (searchPage a projects query request token).Calls (SendsJql query) := by
  unfold searchPage
  refine Program.Calls.bind (lift_calls _) fun pageSize => ?_
  refine Program.Calls.bind (request_calls ?_) fun response => ?_
  · intro url _
    exact ⟨_, rfl, rfl⟩
  refine Program.Calls.bind (lift_calls _) fun issues => ?_
  refine Program.Calls.bind (lift_calls _) fun objects => ?_
  refine Program.Calls.bind (lift_calls _) fun next => ?_
  exact Program.Calls.bind (Program.calls_perform.mpr trivial) fun _ => trivial

theorem collectPages_calls (hprojects : projectsOf request = .ok projects) (rounds : ℕ)
    (checkpoint : Dict) :
    (collectPages a rounds request checkpoint).Calls
      (SendsJql (jql projects (suppliedJql a.py request))) := by
  unfold collectPages
  rw [hprojects, lift_ok_bind]
  exact Program.Calls.loop searchPage_calls _ rounds _

end Connectors.Jira
