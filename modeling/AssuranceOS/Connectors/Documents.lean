/-
The adapters of documents: Confluence and Google Drive (`connectors/adapters/confluence.py` and
`google_drive.py`).

Both take a text out of the response and put it into the parameters of the next request.
-/
import AssuranceOS.Connectors.Rest

namespace Connectors

open JsonText Vault Checked

/-- `[str(value) for value in values]`, of a list that must not be empty; one value may stand
for a list of one. -/
def scopeStrings (py : Runtime) (one : Value → Bool) (err : ConnectorError) (value : Value) :
    Except ConnectorError (List String) :=
  let values := if one value then .arr [value] else value
  match values with
  | .arr (first :: rest) => .ok ((first :: rest).map py.str)
  | _ => .error err

namespace Confluence

def descriptor : ConnectorDescriptor where
  connectorType := "confluence"
  streams := ["pages"]

def headers : Headers := [("Accept", "application/json")]

/-- `isinstance(value, (str, int))`. -/
def isStringOrInt : Value → Bool
  | .str _ | .int _ | .bool _ => true
  | _ => false

section Collect

variable (a : RestAdapter)

def spacesOf (request : CollectionRequest) : Except ConnectorError (List String) :=
  scopeStrings a.py isStringOrInt
    (valueError "Confluence request.scope.space_ids must be non-empty")
    (request.scopeValue "space_ids")

/-- `scope_for`. -/
def scopeFor (request : CollectionRequest) : Except ConnectorError Dict :=
  (spacesOf a request).map fun spaces => dictOf [("space_ids", strings spaces)]

def sampleCount : Value → Except ConnectorError ℕ
  | .obj entries => lengthOf ((entries.lookup "results").getD (.arr []))
  | _ => .ok 0

def health (checkedAt : Timestamp) : Rest ConnectorHealth := do
  let response ← a.request "GET" "/wiki/api/v2/spaces" [("limit", .int 1)] none headers
  let count ← lift (sampleCount response.jsonBody)
  return {
    status := .healthy
    checkedAt := checkedAt
    details := dictOf [("visible_space_sample_count", .int count)] }

def locatorOf (webui : Value) (pageId : String) : Except ConnectorError String :=
  if a.py.conversions.truthy webui then
    match webui with
    | .str path => a.url path
    | _ => .error (valueError "object has no attribute 'lstrip'")
  else a.url ("/wiki/pages/viewpage.action?pageId=" ++ pageId)

def pageObject (bodyFormat : Value) (page : Value) : Except ConnectorError SourceObject := do
  let version := a.py.or (← fieldOf page "version") (.obj [])
  let pageId := a.py.str (← fieldOf page "id")
  let createdAt ← fieldOf version "createdAt"
  let created ← a.py.parseTimestamp createdAt
  let webui ← fieldOf (a.py.or (← fieldOf page "_links") (.obj [])) "webui"
  let number ← fieldOf version "number"
  let locator ← locatorOf a webui pageId
  let spaceId ← fieldOf page "spaceId"
  let title ← fieldOf page "title"
  checked {
    sourceObjectId := pageId
    sourceVersion := a.py.str (a.py.or (a.py.or number createdAt) (.str "unknown"))
    sourceLocator := locator
    payload := payloadOf page
    sourceTime := created
    originalFilename := some ("confluence-page-" ++ pageId ++ ".json")
    metadata := dictOf [("space_id", .str (a.py.str spaceId)), ("title", title),
      ("body_format", bodyFormat)] }

def protocolError : ConnectorError :=
  .provider "Confluence page response must contain results"

/-- `payload.get("results")`. -/
def resultsOf : Value → Except ConnectorError (List Value)
  | .obj entries => listOr protocolError (get entries "results")
  | _ => .error protocolError

/-- The cursor of the next page: from the `Link` header, or from the links of the payload. -/
def nextCursor (response : HttpResponse) : Except ConnectorError (Option String) := do
  let links := Runtime.parseLinkHeader (Runtime.headerOf response.headers "link" "Link")
  match links.lookup "next" with
  | some nextUrl =>
    if nextUrl ≠ "" then a.py.queryValue nextUrl "cursor" else fromPayload
  | none => fromPayload
where
  fromPayload : Except ConnectorError (Option String) := do
    let payloadLinks := a.py.or (← fieldOf response.jsonBody "_links") (.obj [])
    let next ← fieldOf payloadLinks "next"
    if a.py.conversions.truthy next then
      match next with
      | .str nextUrl => a.py.queryValue nextUrl "cursor"
      | _ => .error (valueError "object has no attribute 'decode'")
    else return none

def searchPage (request : CollectionRequest) (spaces : List String) (cursor : Value) :
    Rest (Option Value) := do
  let bodyFormat := request.parameter "body_format" (.str "storage")
  let pageSize ← lift (a.py.int (request.parameter "page_size" (.int 100)))
  let params : Object := [("space-id", strings spaces), ("body-format", bodyFormat),
    ("limit", .int (min pageSize 250))] ++
    if a.py.conversions.truthy cursor then [("cursor", cursor)] else []
  let response ← a.request "GET" "/wiki/api/v2/pages" params none headers
  let results ← lift (resultsOf response.jsonBody)
  let objects ← lift (results.mapM (pageObject a bodyFormat))
  let cursor ← lift (nextCursor a response)
  emit {
    objects := objects
    nextCursor := some (dictOf [("cursor", optional cursor)])
    requestMetadata := dictOf [("endpoint", .str "/wiki/api/v2/pages"),
      ("space_ids", strings spaces)] }
  return if PyString.truthy cursor then some (optional cursor) else none

/-- `collect_pages`. -/
def collectPages (rounds : ℕ) (request : CollectionRequest) (checkpoint : Dict) : Rest Unit := do
  let spaces ← lift (spacesOf a request)
  Program.loop (searchPage a request spaces) goingRound rounds (get checkpoint.entries "cursor")

def adapter : Adapter where
  descriptor := descriptor
  scopeFor := scopeFor a
  health := health a
  collectPages := collectPages a

end Collect

end Confluence

/-! ### Google Drive -/

namespace GoogleDrive

def descriptor : ConnectorDescriptor where
  connectorType := "google_drive"
  streams := ["files", "changes"]

def headers : Headers := [("Accept", "application/json")]

/-- `isinstance(value, str)`. -/
def isString : Value → Bool
  | .str _ => true
  | _ => false

def fileFields : String :=
  "(id,name,mimeType,modifiedTime,createdTime,version,md5Checksum,size,parents,driveId," ++
    "webViewLink,trashed)"

section Collect

variable (a : RestAdapter)

def driveIds (request : CollectionRequest) : Except ConnectorError (List String) :=
  scopeStrings a.py isString (valueError "Google Drive request.scope.drive_ids must be non-empty")
    ((request.scope.entries.lookup "drive_ids").getD (strings ["my-drive"]))

/-- `scope_for`. -/
def scopeFor (request : CollectionRequest) : Except ConnectorError Dict :=
  (driveIds a request).map fun ids => dictOf [("drive_ids", strings ids)]

/-- `_drive_id`. -/
def driveId (request : CollectionRequest) : Except ConnectorError String := do
  match ← driveIds a request with
  | [id] => return id
  | _ => .error (valueError "one Drive corpus must be collected per run")

def health (checkedAt : Timestamp) : Rest ConnectorHealth := do
  let response ← a.request "GET" "/drive/v3/about" [("fields", .str "user")] none headers
  let user ← lift (fieldOr response.jsonBody "user" (.obj []))
  let permissionId ← lift (fieldOf user "permissionId")
  return {
    status := .healthy
    checkedAt := checkedAt
    details := dictOf [("permission_id", permissionId)] }

/-- `payload.get(key)`, which must be a list. -/
def listOf (key : String) (payload : Value) : Except ConnectorError (List Value) :=
  let err := .provider ("Google Drive response must contain " ++ key)
  match payload with
  | .obj entries => listOr err (get entries key)
  | _ => .error err

/-- `_file_object`. -/
def fileObject (driveId : String) (item : Value) : Except ConnectorError SourceObject := do
  let fileId := a.py.str (← fieldOf item "id")
  let modifiedTime ← fieldOf item "modifiedTime"
  let modified ← a.py.parseTimestamp modifiedTime
  let version ← fieldOf item "version"
  let link ← fieldOf item "webViewLink"
  let drive ← fieldOf item "driveId"
  let name ← fieldOf item "name"
  checked {
    sourceObjectId := fileId
    sourceVersion := a.py.str (a.py.or (a.py.or version modifiedTime) (.str "unknown"))
    sourceLocator := a.py.str (a.py.or link (.str ("gdrive://" ++ driveId ++ "/files/" ++ fileId)))
    payload := payloadOf item
    sourceTime := modified
    originalFilename := some ("drive-file-" ++ fileId ++ ".json")
    metadata := dictOf [("drive_id", a.py.or drive (.str driveId)), ("name", name),
      ("metadata_only", .bool true)] }

def filesPage (request : CollectionRequest) (driveId query : String) (token : Value) :
    Rest (Option Value) := do
  let pageSize ← lift (a.py.int (request.parameter "page_size" (.int 1000)))
  let params : Object := [("q", .str query), ("pageSize", .int (min pageSize 1000)),
    ("fields", .str ("nextPageToken,incompleteSearch,files" ++ fileFields)),
    ("supportsAllDrives", .str "true"), ("includeItemsFromAllDrives", .str "true"),
    ("orderBy", .str "modifiedTime,name")] ++
    (if driveId ≠ "my-drive" then [("corpora", .str "drive"), ("driveId", .str driveId)] else []) ++
    if a.py.conversions.truthy token then [("pageToken", token)] else []
  let response ← a.request "GET" "/drive/v3/files" params none headers
  let files ← lift (listOf "files" response.jsonBody)
  let objects ← lift (files.mapM (fileObject a driveId))
  let next ← lift (fieldOf response.jsonBody "nextPageToken")
  let incomplete ← lift (fieldOf response.jsonBody "incompleteSearch")
  emit {
    objects := objects
    nextCursor := some (dictOf [("page_token", next)])
    requestMetadata := dictOf [("endpoint", .str "/drive/v3/files"), ("drive_id", .str driveId),
      ("page_token", get params "pageToken"), ("query", .str query),
      ("incomplete_search", .bool (a.py.conversions.truthy incomplete))] }
  return if a.py.conversions.truthy next then some next else none

/-- `_collect_files`. -/
def collectFiles (rounds : ℕ) (request : CollectionRequest) (checkpoint : Dict) : Rest Unit := do
  let driveId ← lift (driveId a request)
  let query := a.py.str (a.py.or (get request.parameters.entries "q") (.str "trashed = false"))
  Program.loop (filesPage a request driveId query) goingRound rounds
    (get checkpoint.entries "page_token")

def changeObject (driveId : String) (change : Value) : Except ConnectorError SourceObject := do
  let drive ← fieldOf change "driveId"
  let fileId := a.py.str (a.py.or (← fieldOf change "fileId") drive)
  let time ← fieldOf change "time"
  let changedAt ← a.py.parseTimestamp time
  let file := a.py.or (← fieldOf change "file") (.obj [])
  let version := a.py.str (a.py.or (← fieldOf file "version") (.str "unknown"))
  let changeTime := a.py.str (a.py.or time (.str "unknown"))
  let removed := a.py.conversions.truthy (← fieldOf change "removed")
  let link ← fieldOf file "webViewLink"
  let changeType ← fieldOf change "changeType"
  checked {
    sourceObjectId := fileId
    sourceVersion := changeTime ++ ":" ++ version ++ ":" ++ if removed then "removed" else "current"
    sourceLocator := a.py.str (a.py.or link (.str ("gdrive://" ++ driveId ++ "/files/" ++ fileId)))
    payload := payloadOf change
    sourceTime := changedAt
    originalFilename := some ("drive-change-" ++ fileId ++ ".json")
    metadata := dictOf [("drive_id", a.py.or drive (.str driveId)), ("change_type", changeType),
      ("removed", .bool removed), ("incremental", .bool true)] }

def corpus (driveId : String) : Object :=
  if driveId ≠ "my-drive" then [("driveId", .str driveId)] else []

def startToken (driveId : String) (checkpoint : Dict) : Rest Value := do
  let token := get checkpoint.entries "start_page_token"
  if a.py.conversions.truthy token then return token
  else
    let response ← a.request "GET" "/drive/v3/changes/startPageToken"
      ([("supportsAllDrives", .str "true")] ++ corpus driveId) none headers
    let token ← lift (fieldOf response.jsonBody "startPageToken")
    lift (require (a.py.conversions.truthy token)
      (.provider "Google Drive did not return a start page token"))
    return token

def changesPage (request : CollectionRequest) (driveId : String) (token : Value) :
    Rest (Option Value) := do
  let pageSize ← lift (a.py.int (request.parameter "page_size" (.int 1000)))
  let params : Object := [("pageToken", token), ("pageSize", .int (min pageSize 1000)),
    ("spaces", .str "drive"), ("includeRemoved", .str "true"), ("supportsAllDrives", .str "true"),
    ("includeItemsFromAllDrives", .str "true"),
    ("fields", .str ("nextPageToken,newStartPageToken,changes(changeType,time,removed,fileId," ++
      "driveId,file" ++ fileFields ++ ")"))] ++ corpus driveId
  let response ← a.request "GET" "/drive/v3/changes" params none headers
  let changes ← lift (listOf "changes" response.jsonBody)
  let objects ← lift (changes.mapM (changeObject a driveId))
  let next ← lift (fieldOf response.jsonBody "nextPageToken")
  let newStart ← lift (fieldOf response.jsonBody "newStartPageToken")
  let saved := a.py.or next newStart
  lift (require (a.py.conversions.truthy saved) (.provider
    "Google Drive changes response omitted both nextPageToken and newStartPageToken"))
  emit {
    objects := objects
    nextCursor := some (dictOf [("start_page_token", saved)])
    requestMetadata := dictOf [("endpoint", .str "/drive/v3/changes"), ("drive_id", .str driveId),
      ("page_token", token), ("incremental", .bool true)] }
  return if a.py.conversions.truthy next then some next else none

/-- `_collect_changes`. -/
def collectChanges (rounds : ℕ) (request : CollectionRequest) (checkpoint : Dict) :
    Rest Unit := do
  let driveId ← lift (driveId a request)
  let token ← startToken a driveId checkpoint
  Program.loop (changesPage a request driveId) goingRound rounds token

/-- `collect_pages`. -/
def collectPages (rounds : ℕ) (request : CollectionRequest) (checkpoint : Dict) : Rest Unit :=
  if request.stream = "files" then collectFiles a rounds request checkpoint
  else if request.stream = "changes" then collectChanges a rounds request checkpoint
  else lift (.error (valueError ("unsupported Google Drive stream: " ++ request.stream)))

def adapter : Adapter where
  descriptor := descriptor
  scopeFor := scopeFor a
  health := health a
  collectPages := collectPages a

end Collect

end GoogleDrive

end Connectors
