/-
What the REST adapters share (`connectors/adapters/common.py`, `connectors/pagination.py` and the
data of `connectors/transport.py`).

An adapter is a program of two operations: it sends a request and goes on with the response, and
it yields a page.  A response reaches the adapter when the transport has accepted its status; what
the transport raises is the answer of the operation.  How often a `while` loop goes round is
bounded by whoever runs the adapter.
-/
import AssuranceOS.Connectors.Service
import AssuranceOS.Lib.Url

namespace Connectors

open JsonText Vault Checked

abbrev Headers := List (String × String)

structure HttpRequest where
  method : String
  url : String
  headers : Headers := []
  params : Object := []
  jsonBody : Option Object := none

structure HttpResponse where
  headers : Headers := []
  jsonBody : Value

/-- What an adapter does beyond computing. -/
inductive RestOp where
  | send (request : HttpRequest)
  /-- `yield` -/
  | emit (page : ConnectorPage)

/-- What an operation answers with. -/
abbrev RestOp.Answer : RestOp → Type
  | .send _ => HttpResponse
  | .emit _ => Unit

abbrev Rest := Program RestOp.Answer ConnectorError

def lift {α : Type} (x : Except ConnectorError α) : Rest α := .done x

variable {α : Type} {P : RestOp → Prop}

@[simp] theorem lift_ok_bind {β : Type} (x : α) (f : α → Rest β) : (lift (.ok x) >>= f) = f x :=
  rfl

theorem lift_calls (x : Except ConnectorError α) :
    (lift x).Calls P :=
  trivial

def emit (page : ConnectorPage) : Rest Unit := Program.perform (RestOp.emit page)

/-! ### What the adapters use of Python -/

/-- What is not JSON or plain text: the checks of `urlsplit` on an authority, percent-decoding,
upper case, `datetime.fromisoformat` of a text with its `Z` replaced, and SHA-256. -/
structure Runtime where
  conversions : Conversions
  acceptsNetloc : List Char → Bool
  unquote : String → String
  upper : String → String
  fromIsoFormat : String → Option DateTime
  sha256 : Bytes → String

theorem dictOf_distinct (entries : Object) :
    (Value.obj ((dictEntries entries).foldl (fun es e => assign es e.1 e.2) [])).Distinct := by
  have h := dict_distinct (.obj entries)
  rwa [Value.dict] at h

def dictOf (entries : Object) : Dict where
  entries := (dictEntries entries).foldl (fun es e => assign es e.1 e.2) []
  distinct := dictOf_distinct entries

theorem dictOf_entries {entries : Object} (h : (Value.obj entries).Distinct) :
    (dictOf entries).entries = entries := by
  have hsame := dict_eq_self (.obj entries) h
  rw [Value.dict] at hsame
  exact Value.obj.inj hsame

/-- `x in text`. -/
def isInfixOf (x text : String) : Bool := text.toList.tails.any x.toList.isPrefixOf

/-- `text.split(mark)`. -/
def splitText (mark : Char) (text : String) : List String :=
  (text.toList.splitOn mark).map String.ofList

/-- `entries[key] = value`. -/
def put {α : Type} (entries : List (String × α)) (key : String) (value : α) : List (String × α) :=
  if entries.any fun e => e.1 = key then
    entries.map fun e => if e.1 = key then (key, value) else e
  else entries ++ [(key, value)]

/-- What `value.get` raises of a value that is no dictionary. -/
def attributeError : ConnectorError := .provider "object has no attribute 'get'"

def valueError (text : String) : ConnectorError := .provider text

/-- `value.get(key)`. -/
def fieldOf (value : Value) (key : String) : Except ConnectorError Value :=
  match value with
  | .obj entries => .ok (get entries key)
  | _ => .error attributeError

/-- `value.get(key, default)`. -/
def fieldOr (value : Value) (key : String) (default : Value) : Except ConnectorError Value :=
  match value with
  | .obj entries => .ok ((entries.lookup key).getD default)
  | _ => .error attributeError

/-- `len(value)`. -/
def lengthOf : Value → Except ConnectorError ℕ
  | .arr items => .ok items.length
  | .obj entries => .ok entries.length
  | .str s => .ok s.length
  | _ => .error (valueError "object has no len()")

/-- `items[start:]`. -/
def sliceFrom {α : Type} (start : ℤ) (items : List α) : List α :=
  if 0 ≤ start then items.drop start.toNat else items.drop (items.length - (-start).toNat)

/-- `enumerate(items[start:], start=start)`. -/
def enumerateFrom {α : Type} (start : ℤ) (items : List α) : List (ℤ × α) :=
  (sliceFrom start items).zipIdx.map fun e => (start + e.2, e.1)

def listOr (err : ConnectorError) : Value → Except ConnectorError (List Value)
  | .arr items => .ok items
  | _ => .error err

namespace Runtime

variable (py : Runtime)

/-- `x or y`. -/
def or (x y : Value) : Value := if py.conversions.truthy x then x else y

/-- `str(x)`. -/
def str (x : Value) : String := py.conversions.str x

/-- `int(x)`. -/
def int (x : Value) : Except ConnectorError ℤ :=
  ofOption (valueError "invalid literal for int()") (py.conversions.int x)

/-- `parse_timestamp`. -/
def parseTimestamp (x : Value) : Except ConnectorError (Option DateTime) :=
  if py.conversions.truthy x then
    match x with
    | .str s => (ofOption (valueError "Invalid isoformat string") (py.fromIsoFormat s)).map some
    | _ => .error (valueError "object has no attribute 'replace'")
  else .ok none

/-- One part of a `Link` header. -/
def linksOf (links : List (String × String)) (part : String) : List (String × String) :=
  match (splitText ';' part).map PyString.strip with
  | [] => links
  | target :: sections =>
    if target.toList.head? = some '<' ∧ target.toList.getLast? = some '>' then
      sections.foldl (fun links piece =>
        if PyString.startswith piece ["rel="] then
          let quotes := fun c : Char => decide (c = '"')
          let relation := ((piece.toList.drop 4).dropWhile quotes).rdropWhile quotes
          put links (String.ofList relation) (String.ofList target.toList.tail.dropLast)
        else links) links
    else links

/-- `parse_link_header`. -/
def parseLinkHeader : Option String → List (String × String)
  | none => []
  | some value => if value = "" then [] else (splitText ',' value).foldl linksOf []

/-- `response.headers.get(first) or response.headers.get(second)`. -/
def headerOf (headers : Headers) (first second : String) : Option String :=
  match headers.lookup first with
  | some value => if value = "" then headers.lookup second else some value
  | none => headers.lookup second

/-- The values of a field of a query, less the blank ones (`parse_qs`). -/
def queryFields (query : List Char) (name : String) : List String :=
  (query.splitOn '&').filterMap fun field =>
    let (key, value) := Url.splitAt '=' field
    let decoded := fun cs : List Char =>
      py.unquote (String.ofList (cs.map fun c => if c = '+' then ' ' else c))
    if value ≠ [] ∧ decoded key = name then some (decoded value) else none

/-- `query_value`. -/
def queryValue (url name : String) : Except ConnectorError (Option String) := do
  let parts ← ofOption (valueError "Invalid URL") (Url.urlsplit py.acceptsNetloc url.toList [])
  return (py.queryFields parts.query name).getLast?

end Runtime

/-- An adapter for an instance: its `base_url` as it is registered, and the headers of its
credential. -/
structure RestAdapter where
  py : Runtime
  instanceUrl : String
  credential : Headers

namespace RestAdapter

variable (a : RestAdapter)

/-- `self.base_url`. -/
def baseUrl : List Char := a.instanceUrl.toList.rdropWhile fun c => c = '/'

/-- `url`. -/
def url (path : String) : Except ConnectorError String :=
  (ofOption (valueError "Invalid URL")
    (Url.urljoin a.py.acceptsNetloc (a.baseUrl ++ ['/'])
      (path.toList.dropWhile fun c => c = '/'))).map String.ofList

/-- `headers`. -/
def headers (extra : Headers) : Headers :=
  extra.foldl (fun headers e => put headers e.1 e.2) a.credential

/-- The URL of `request`. -/
def target (pathOrUrl : String) : Except ConnectorError String :=
  if isInfixOf "://" pathOrUrl then .ok pathOrUrl else a.url pathOrUrl

/-- `request`. -/
def request (method pathOrUrl : String) (params : Object) (jsonBody : Option Object)
    (headers : Headers) : Rest HttpResponse := do
  let url ← lift (a.target pathOrUrl)
  Program.perform (RestOp.send
    { method := method
      url := url
      headers := a.headers headers
      params := params
      jsonBody := jsonBody })

end RestAdapter

theorem request_calls {a : RestAdapter} {method path : String}
    {params : Object} {jsonBody : Option Object} {headers : Headers}
    (h : ∀ url, a.target path = .ok url → P (.send
      { method := method
        url := url
        headers := a.headers headers
        params := params
        jsonBody := jsonBody })) :
    (a.request method path params jsonBody headers).Calls P := by
  unfold RestAdapter.request
  rcases htarget : a.target path with e | url
  · exact trivial
  · exact ⟨h url htarget, fun _ => trivial⟩

def checked (item : SourceObject) : Except ConnectorError SourceObject := do
  let inRange := fun s : String => 1 ≤ s.length ∧ s.length ≤ 512
  require (inRange item.sourceObjectId) (valueError "source_object_id")
  require (inRange item.sourceVersion) (valueError "source_version")
  require (1 ≤ item.sourceLocator.length) (valueError "source_locator")
  return item

def payloadOf : Value → Dict
  | .obj entries => dictOf entries
  | _ => .empty

/-- `request.parameters.get(key, default)`. -/
def CollectionRequest.parameter (request : CollectionRequest) (key : String) (default : Value) :
    Value :=
  (request.parameters.entries.lookup key).getD default

/-- `request.scope.get(key)`. -/
def CollectionRequest.scopeValue (request : CollectionRequest) (key : String) : Value :=
  get request.scope.entries key

/-- A scope of texts that are not empty, under one key; one text stands for a list of one. -/
def CollectionRequest.scopeTexts (request : CollectionRequest) (key : String)
    (err : ConnectorError) : Except ConnectorError (List String) :=
  let values :=
    match request.scopeValue key with
    | .str value => some [value]
    | value => asStrings value
  match values with
  | some (value :: values) =>
    if (value :: values).all fun v => v ≠ "" then .ok (value :: values) else .error err
  | _ => .error err

def goingRound : ConnectorError := .provider "the collection has not ended"

/-- An adapter; `rounds` bounds its loops. -/
structure Adapter where
  descriptor : ConnectorDescriptor
  scopeFor : CollectionRequest → Except ConnectorError Dict
  health : Timestamp → Rest ConnectorHealth
  collectPages : ℕ → CollectionRequest → Dict → Rest Unit

/-- What the server still answers, and the pages so far. -/
structure Session where
  responses : List (Except ConnectorError HttpResponse)
  pages : List ConnectorPage := []

/-- Requests get the responses in turn, and emitted pages are kept. -/
def serve : (op : RestOp) → Session → Except ConnectorError op.Answer × Session
  | .send _, session =>
    match session.responses with
    | [] => (.error (.provider "no response"), session)
    | response :: responses => (response, { session with responses := responses })
  | .emit page, session => (.ok (), { session with pages := session.pages ++ [page] })

/-- What the server answers while an adapter is used. -/
structure Exchange where
  rounds : ℕ
  checkedAt : Timestamp
  health : List (Except ConnectorError HttpResponse)
  responses : List (Except ConnectorError HttpResponse)

/-- The adapter as the service uses it, for what the server answers. -/
def Adapter.connector (adapter : Adapter) (exchange : Exchange) : Connector where
  descriptor := adapter.descriptor
  health := ((adapter.health exchange.checkedAt).run serve { responses := exchange.health }).1
  scopeFor := adapter.scopeFor
  collectPages request checkpoint :=
    let ended := (adapter.collectPages exchange.rounds request checkpoint).run serve
      { responses := exchange.responses }
    { pages := ended.2.pages
      raised :=
        match ended.1 with
        | .ok _ => none
        | .error e => some e }

end Connectors
