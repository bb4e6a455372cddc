/-
The GitHub adapter (`connectors/adapters/github.py`).

It has three streams: the pull requests of a repository, its commits, and for each commit the pull
requests that it came through with their approvals, as far as the lookups of the collection reach.
The number of the next page comes from the `Link` header.
-/
import AssuranceOS.Connectors.Rest

namespace Connectors.GitHub

open JsonText Vault Checked

def descriptor : ConnectorDescriptor where
  connectorType := "github"
  streams := ["pull_requests", "commits", "commit_reviews"]

/-- `DEFAULT_MAX_LOOKUPS`. -/
def defaultMaxLookups : ℤ := 120

def repositoryError : ConnectorError :=
  valueError "GitHub request.scope.repository must be 'owner/repository'"

def ownerAndRepo (request : CollectionRequest) : Except ConnectorError (String × String) :=
  match request.scopeValue "repository" with
  | .str repository =>
    match splitText '/' repository with
    | [owner, repo] => .ok (owner, repo)
    | _ => .error repositoryError
  | _ => .error repositoryError

/-- `f"{owner}/{repo}"`. -/
def repositoryName (repository : String × String) : String :=
  repository.1 ++ "/" ++ repository.2

/-- `scope_for`. -/
def scopeFor (request : CollectionRequest) : Except ConnectorError Dict :=
  (ownerAndRepo request).map fun repository =>
    dictOf [("repositories", .str (repositoryName repository))]

section Collect

variable (a : RestAdapter) (apiVersion : String)

/-- `_headers`. -/
def headers : Headers :=
  [("Accept", "application/vnd.github+json"), ("X-GitHub-Api-Version", apiVersion),
    ("User-Agent", "AssuranceOS-Connector/0.6")]

def health (checkedAt : Timestamp) : Rest ConnectorHealth := do
  let response ← a.request "GET" "/rate_limit" [] none (headers apiVersion)
  let resources ← lift (fieldOr response.jsonBody "resources" (.obj []))
  let core ← lift (fieldOr resources "core" (.obj []))
  let remaining ← lift (fieldOf core "remaining")
  let limit ← lift (fieldOf core "limit")
  let reset ← lift (fieldOf core "reset")
  return {
    status := .healthy
    checkedAt := checkedAt
    details := dictOf [("remaining", remaining), ("limit", limit), ("reset", reset),
      ("api_version", .str apiVersion)] }

def repoPath (repository : String × String) (rest : String) : String :=
  "/repos/" ++ repositoryName repository ++ rest

/-- `int(checkpoint.get("next_page", 1) or 1)`. -/
def startPage (checkpoint : Dict) : Except ConnectorError ℤ :=
  a.py.int (a.py.or ((checkpoint.entries.lookup "next_page").getD (.int 1)) (.int 1))

/-- `min(int(request.parameters.get("page_size", 100)), 100)`. -/
def perPage (request : CollectionRequest) : Except ConnectorError ℤ :=
  (a.py.int (request.parameter "page_size" (.int 100))).map fun size => min size 100

def nextUrl (response : HttpResponse) : Option String :=
  ((Runtime.parseLinkHeader (Runtime.headerOf response.headers "link" "Link")).lookup
    "next").filter fun url => url ≠ ""

/-- `int(query_value(next_url, "page") or page + 1)`. -/
def nextPage (url : String) (page : ℤ) : Except ConnectorError ℤ := do
  match ← a.py.queryValue url "page" with
  | some text => if text = "" then return page + 1 else a.py.int (.str text)
  | none => return page + 1

def nextPageOf (response : HttpResponse) (page : ℤ) : Except ConnectorError (Option ℤ) :=
  match nextUrl response with
  | some url => (nextPage a url page).map some
  | none => .ok none

def nested (value : Value) (outer inner : String) : Except ConnectorError Value := do
  fieldOf (a.py.or (← fieldOf value outer) (.obj [])) inner

/-- `max(filter(None, [max_updated, updated]), default=max_updated)`. -/
def latest : Option DateTime → Option DateTime → Option DateTime
  | none, updated => updated
  | some t, none => some t
  | some t, some u => if t.rank < u.rank then some u else some t

/-- The source object of a pull request, and when it was updated. -/
def pullObject (repository : String × String) (raw : Value) :
    Except ConnectorError (SourceObject × Option DateTime) := do
  let updatedAt ← fieldOf raw "updated_at"
  let updated ← a.py.parseTimestamp updatedAt
  let number ← fieldOf raw "number"
  let headSha := a.py.or (← nested a raw "head" "sha") (.str "unknown")
  let nodeId ← fieldOf raw "node_id"
  let htmlUrl ← fieldOf raw "html_url"
  let locator ←
    if a.py.conversions.truthy htmlUrl then pure (a.py.str htmlUrl)
    else a.url ("/" ++ repositoryName repository ++ "/pull/" ++ a.py.str number)
  let item ← checked {
    sourceObjectId := a.py.str (a.py.or nodeId number)
    sourceVersion :=
      a.py.str (a.py.or updatedAt (.str "unknown")) ++ ":" ++ a.py.str headSha
    sourceLocator := locator
    payload := payloadOf raw
    sourceTime := updated
    originalFilename := some ("pull-request-" ++ a.py.str number ++ ".json")
    metadata := dictOf [("repository", .str (repositoryName repository)), ("number", number)] }
  return (item, updated)

/-- One page of pull requests, with the time of the latest so far. -/
def pullsPage (request : CollectionRequest) (repository : String × String)
    (state : ℤ × Option DateTime) : Rest (Option (ℤ × Option DateTime)) := do
  let size ← lift (perPage a request)
  let response ← a.request "GET" (repoPath repository "/pulls")
    [("state", request.parameter "state" (.str "all")), ("sort", .str "updated"),
      ("direction", .str "asc"), ("per_page", .int size), ("page", .int state.1)]
    none (headers apiVersion)
  let raws ← lift (listOr (.provider "GitHub pull request response must be a JSON array")
    response.jsonBody)
  let objects ← lift (raws.mapM (pullObject a repository))
  let updated := (objects.map Prod.snd).foldl latest state.2
  let next ← lift (nextPageOf a response state.1)
  emit {
    objects := objects.map Prod.fst
    nextCursor := some (
      match next with
      | some page => dictOf [("next_page", .int page)]
      | none => dictOf [("next_page", .int 1),
          ("last_completed_updated_at", optional (updated.map fun t => t.isoformat true))])
    requestMetadata := dictOf [("endpoint", .str (repoPath repository "/pulls")),
      ("page", .int state.1), ("api_version", .str apiVersion)] }
  return next.map fun page => (page, updated)

/-- `_collect_pull_requests`. -/
def collectPullRequests (rounds : ℕ) (request : CollectionRequest) (checkpoint : Dict) :
    Rest Unit := do
  let repository ← lift (ownerAndRepo request)
  let page ← lift (startPage a checkpoint)
  Program.loop (pullsPage a apiVersion request repository) goingRound rounds (page, none)

/-- `_commit_params`. -/
def commitParams (request : CollectionRequest) (page : ℤ) : Except ConnectorError Object := do
  let size ← perPage a request
  let start : Object := [("per_page", .int size), ("page", .int page)]
  return ["sha", "since", "until", "path", "author"].foldl (fun params name =>
    let value := get request.parameters.entries name
    if a.py.conversions.truthy value then assign params name (.str (a.py.str value))
    else params) start

/-- One page of `_walk_commits`; `use` is what its consumer does with the page, and the page
after it is the next. -/
def commitsPage {σ : Type} (request : CollectionRequest) (repository : String × String)
    (use : ℤ → List Value → Option String → σ → Rest σ) (state : ℤ × σ) :
    Rest (Option (ℤ × σ)) := do
  let params ← lift (commitParams a request state.1)
  let response ← a.request "GET" (repoPath repository "/commits") params none (headers apiVersion)
  let body ← lift (listOr (.provider "GitHub commit response must be a JSON array")
    response.jsonBody)
  let next := nextUrl response
  let used ← use state.1 body next state.2
  match next with
  | some url => do
    let page ← lift (nextPage a url state.1)
    return some (page, used)
  | none => return none

def shaOf (raw : Value) : Except ConnectorError String := do
  let sha := a.py.str (a.py.or (← fieldOf raw "sha") (.str ""))
  require (sha ≠ "") (.provider "GitHub commit carries no sha")
  return sha

/-- `((raw.get("commit") or {}).get("author") or {}).get("date")`. -/
def commitDate (raw : Value) : Except ConnectorError Value := do
  fieldOf (a.py.or (← nested a raw "commit" "author") (.obj [])) "date"

def commitLocator (repository : String × String) (sha : String) (raw : Value) :
    Except ConnectorError String := do
  let htmlUrl ← fieldOf raw "html_url"
  if a.py.conversions.truthy htmlUrl then return a.py.str htmlUrl
  else a.url ("/" ++ repositoryName repository ++ "/commit/" ++ sha)

def commitCursor (next : Option String) (page : ℤ) : Except ConnectorError Dict :=
  match next with
  | some url => (nextPage a url page).map fun n => dictOf [("next_page", .int n)]
  | none => .ok (dictOf [("next_page", .int 1)])

def commitObject (repository : String × String) (raw : Value) :
    Except ConnectorError SourceObject := do
  let sha ← shaOf a raw
  let committed ← a.py.parseTimestamp (← commitDate a raw)
  let locator ← commitLocator a repository sha raw
  checked {
    sourceObjectId := sha
    sourceVersion := sha
    sourceLocator := locator
    payload := payloadOf raw
    sourceTime := committed
    originalFilename := some ("commit-" ++ PyString.firstChars 12 sha ++ ".json")
    metadata := dictOf [("repository", .str (repositoryName repository)), ("sha", .str sha)] }

/-- `_collect_commits`, for one page. -/
def useCommits (repository : String × String) (page : ℤ) (body : List Value)
    (next : Option String) (_ : Unit) : Rest Unit := do
  let objects ← lift (body.mapM (commitObject a repository))
  let cursor ← lift (commitCursor a next page)
  emit {
    objects := objects
    nextCursor := some cursor
    requestMetadata := dictOf [("endpoint", .str (repoPath repository "/commits")),
      ("page", .int page), ("api_version", .str apiVersion)] }

/-- `_collect_commits`. -/
def collectCommits (rounds : ℕ) (request : CollectionRequest) (checkpoint : Dict) :
    Rest Unit := do
  let repository ← lift (ownerAndRepo request)
  let page ← lift (startPage a checkpoint)
  Program.loop (commitsPage a apiVersion request repository (useCommits a apiVersion repository))
    goingRound rounds (page, ())

/-- The approvals of a pull request, and who gave them. -/
structure ReviewCounts where
  approvals : ℕ
  reviewers : List String

def addReview (states : List (String × String)) (review : Value) :
    Except ConnectorError (List (String × String)) := do
  let login ← nested a review "user" "login"
  let state := a.py.upper (a.py.str (a.py.or (← fieldOf review "state") (.str "")))
  if ¬ a.py.conversions.truthy login ∨ state = "COMMENTED" then return states
  else return put states (a.py.str login) state

/-- `_review_counts`. -/
def reviewCounts (repository : String × String) (number : Value) : Rest ReviewCounts := do
  let response ← a.request "GET" (repoPath repository ("/pulls/" ++ a.py.str number ++ "/reviews"))
    [("per_page", .int 100)] none (headers apiVersion)
  let reviews ← lift (listOr (.provider "GitHub review response must be a JSON array")
    response.jsonBody)
  let states ← lift (reviews.foldlM (addReview a) [])
  let reviewers := ((states.filter fun e => e.2 = "APPROVED").map Prod.fst).insertionSort (· ≤ ·)
  return { approvals := reviewers.length, reviewers := reviewers }

/-- The lookups so far, and the counts that are known. -/
structure Lookups where
  spent : ℤ := 0
  reviews : List (ℤ × ReviewCounts) := []

/-- `isinstance(number, int)`, with the key that the number is. -/
def numberKey : Value → Option ℤ
  | .int n => some n
  | .bool b => some (if b then 1 else 0)
  | _ => none

/-- The counts of a pull request: known, looked up within the budget, or neither. -/
def countsFor (repository : String × String) (budget : ℤ) (required : Bool) (number : Value)
    (lookups : Lookups) : Rest (Option ReviewCounts × Lookups) := do
  match numberKey number with
  | none => return (none, lookups)
  | some key =>
    if required then
      match lookups.reviews.lookup key with
      | some counts => return (some counts, lookups)
      | none =>
        if lookups.spent < budget then
          let counts ← reviewCounts a apiVersion repository number
          return (some counts,
            { spent := lookups.spent + 1, reviews := (key, counts) :: lookups.reviews })
        else return (none, lookups)
    else return (none, lookups)

/-- The entry of an associated pull request, before its approvals. -/
def entryOf (pull : Value) : Except ConnectorError Object := do
  let number ← fieldOf pull "number"
  let state ← fieldOf pull "state"
  let mergedAt ← fieldOf pull "merged_at"
  let mergeCommitSha ← fieldOf pull "merge_commit_sha"
  let htmlUrl ← fieldOf pull "html_url"
  let user ← nested a pull "user" "login"
  return [("number", number), ("state", state), ("merged_at", mergedAt),
    ("merge_commit_sha", mergeCommitSha), ("html_url", htmlUrl), ("user", user)]

def withCounts (entry : Object) : Option ReviewCounts → Value
  | none => .obj (entry ++ [("approvals", .null), ("approvals_determined", .bool false)])
  | some counts =>
    .obj (entry ++ [("approvals", .int counts.approvals), ("approvals_determined", .bool true),
      ("approving_reviewers", strings counts.reviewers)])

def associationsOf (repository : String × String) (budget : ℤ) (required : Bool)
    (pulls : List Value) (lookups : Lookups) : Rest (List Value × Lookups) :=
  Program.forEach (fun state pull => do
    let entry ← lift (entryOf a pull)
    let (counts, lookups) ←
      countsFor a apiVersion repository budget required (get entry "number") state.2
    return (state.1 ++ [withCounts entry counts], lookups)) pulls ([], lookups)

/-- What is determined about a commit: its associations within the budget. -/
def lookUp (repository : String × String) (budget : ℤ) (required : Bool) (sha : String)
    (lookups : Lookups) : Rest (List Value × Bool × Lookups) := do
  if lookups.spent < budget then
    let response ← a.request "GET" (repoPath repository ("/commits/" ++ sha ++ "/pulls")) [] none
      (headers apiVersion)
    let pulls ← lift (listOr
      (.provider "GitHub commit association response must be a JSON array") response.jsonBody)
    let (associations, lookups) ← associationsOf a apiVersion repository budget required pulls
      { lookups with spent := lookups.spent + 1 }
    return (associations, true, lookups)
  else return ([], false, lookups)

/-- `_digest`. -/
def digest (py : Runtime) (value : Value) : String :=
  PyString.firstChars 16 (py.sha256 (utf8 (ascii (dumps value))))

/-- `[item.get("sha") for item in raw.get("parents") or []]`. -/
def parentsOf (raw : Value) : Except ConnectorError Value := do
  let items ← ofOption (valueError "object is not iterable")
    (iterate (a.py.or (← fieldOf raw "parents") (.arr [])))
  let shas ← items.mapM fun item => fieldOf item "sha"
  return .arr shas

def reviewObject (repository : String × String) (budget : ℤ) (sha : String) (raw : Value)
    (associations : List Value) (determined : Bool) : Except ConnectorError SourceObject := do
  let date ← commitDate a raw
  let author ← nested a raw "author" "login"
  let parents ← parentsOf a raw
  let reason :=
    if determined then "read from the commit's pull-request association"
    else "the " ++ toString budget ++ "-lookup ceiling for this collection was reached"
  let payload : Object := [("sha", .str sha), ("repository", .str (repositoryName repository)),
    ("committed_at", date), ("author_login", author), ("parents", parents),
    ("associated_pull_requests", .arr associations),
    ("association", .obj [("determined", .bool determined), ("reason", .str reason)])]
  let locator ← commitLocator a repository sha raw
  let committed ← a.py.parseTimestamp date
  checked {
    sourceObjectId := sha
    sourceVersion := sha ++ ":" ++ digest a.py (.arr [.arr associations, .bool determined])
    sourceLocator := locator
    payload := dictOf payload
    sourceTime := committed
    originalFilename := some ("commit-review-" ++ PyString.firstChars 12 sha ++ ".json")
    metadata := dictOf [("repository", .str (repositoryName repository)), ("sha", .str sha)] }

def reviewObjects (repository : String × String) (budget : ℤ) (required : Bool)
    (body : List Value) (lookups : Lookups) : Rest (List SourceObject × Lookups) :=
  Program.forEach (fun state raw => do
    let sha ← lift (shaOf a raw)
    let (associations, determined, lookups) ←
      lookUp a apiVersion repository budget required sha state.2
    let item ← lift (reviewObject a repository budget sha raw associations determined)
    return (state.1 ++ [item], lookups)) body ([], lookups)

/-- `_collect_commit_reviews`, for one page. -/
def useReviews (repository : String × String) (budget : ℤ) (required : Bool) (page : ℤ)
    (body : List Value) (next : Option String) (lookups : Lookups) : Rest Lookups := do
  let (objects, lookups) ← reviewObjects a apiVersion repository budget required body lookups
  let cursor ← lift (commitCursor a next page)
  emit {
    objects := objects
    nextCursor := some cursor
    requestMetadata := dictOf [
      ("endpoint", .str (repoPath repository "/commits/\x7bsha\x7d/pulls")), ("page", .int page),
      ("api_version", .str apiVersion), ("lookups_spent", .int lookups.spent),
      ("lookup_budget", .int budget)] }
  return lookups

/-- `_collect_commit_reviews`. -/
def collectCommitReviews (rounds : ℕ) (request : CollectionRequest) (checkpoint : Dict) :
    Rest Unit := do
  let repository ← lift (ownerAndRepo request)
  let budget ← lift (a.py.int (request.parameter "max_lookups" (.int defaultMaxLookups)))
  let required := a.py.conversions.truthy (request.parameter "include_approvals" (.bool true))
  let page ← lift (startPage a checkpoint)
  Program.loop
    (commitsPage a apiVersion request repository
      (useReviews a apiVersion repository budget required))
    goingRound rounds (page, {})

/-- `collect_pages`. -/
def collectPages (rounds : ℕ) (request : CollectionRequest) (checkpoint : Dict) : Rest Unit :=
  if request.stream = "pull_requests" then collectPullRequests a apiVersion rounds request checkpoint
  else if request.stream = "commits" then collectCommits a apiVersion rounds request checkpoint
  else if request.stream = "commit_reviews" then
    collectCommitReviews a apiVersion rounds request checkpoint
  else lift (.error (.provider ("GitHub does not expose stream " ++ request.stream)))

def adapter : Adapter where
  descriptor := descriptor
  scopeFor := scopeFor
  health := health a apiVersion
  collectPages := collectPages a apiVersion

end Collect

end Connectors.GitHub
