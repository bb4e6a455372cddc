/-
Where the requests of an adapter go (`RestAdapter.request` and `connectors/factory.py`).

Every request carries the headers of the credential.  A path that an adapter makes leads to the
origin of the instance, whatever ids and texts are in it (`home_of_ownPath`).  A text with `://`
in it is requested as it is, and Entra requests the links that the server gives it: its requests
stay at the origin exactly when those links lead there (`requests_home_iff`).
-/
import AssuranceOS.Connectors.Jira
import AssuranceOS.Connectors.Directories
import AssuranceOS.Connectors.Documents
import AssuranceOS.Connectors.GitHub

namespace Connectors

open JsonText Vault Checked Url

/-- The connector types with an adapter that sends requests. -/
inductive LiveType where
  | github
  | jira
  | confluence
  | googleDrive
  | okta
  | entra
  | gcpIam
  deriving DecidableEq

/-- `builders`, with the version of the API that GitHub is asked for. -/
def LiveType.adapter (a : RestAdapter) (apiVersion : String) : LiveType → Adapter
  | .github => GitHub.adapter a apiVersion
  | .jira => Jira.adapter a
  | .confluence => Confluence.adapter a
  | .googleDrive => GoogleDrive.adapter a
  | .okta => Okta.adapter a
  | .entra => Entra.adapter a
  | .gcpIam => GcpIam.adapter a

/-- The origin of a URL, as `urllib` reads it. -/
def RestAdapter.originOf (a : RestAdapter) (url : String) : Option Origin :=
  origin a.py.acceptsNetloc url.toList

/-- A request that reaches a server reaches that of the instance. -/
def StaysHome (a : RestAdapter) : RestOp → Prop
  | .send request => ∀ o, a.originOf request.url = some o → a.originOf a.instanceUrl = some o
  | .emit _ => True

/-- What is requested under the text leads to the origin of the instance. -/
def LeadsHome (a : RestAdapter) (pathOrUrl : String) : Prop :=
  ∀ url, a.target pathOrUrl = .ok url →
    ∀ o, a.originOf url = some o → a.originOf a.instanceUrl = some o

variable {a : RestAdapter}

theorem request_home {method path : String} {params : Object} {jsonBody : Option Object}
    {headers : Headers} (h : LeadsHome a path) :
    (a.request method path params jsonBody headers).Calls (StaysHome a) :=
  request_calls h

/-- A slash, a plain segment, and a slash or the end behind it. -/
def isOwnPath (path : List Char) : Bool :=
  match path with
  | '/' :: rest =>
    (rest.takeWhile isPlain ≠ []) && ((rest.dropWhile isPlain).head?.all fun c => c = '/')
  | _ => false

def isOwnPrefix (path : List Char) : Bool :=
  match path with
  | '/' :: rest =>
    (rest.takeWhile isPlain ≠ []) && ((rest.dropWhile isPlain).head?.any fun c => c = '/')
  | _ => false

variable {path : List Char}

theorem startsPlain_of_isOwnPath (h : isOwnPath path) :
    ∃ rest, path = '/' :: rest ∧
      StartsPlain rest (rest.takeWhile isPlain) (rest.dropWhile isPlain) := by
  unfold isOwnPath at h
  split at h
  · rename_i rest
    rw [Bool.and_eq_true, decide_eq_true_eq] at h
    refine ⟨rest, rfl, (List.takeWhile_append_dropWhile).symm, ?_, h.1, ?_⟩
    · intro c hc
      exact List.mem_takeWhile_imp hc
    · intro c hc
      have hall := h.2
      rw [hc] at hall
      exact of_decide_eq_true hall
  · cases h

theorem isOwnPath_append (h : isOwnPrefix path) (text : List Char) :
    isOwnPath (path ++ text) := by
  unfold isOwnPrefix at h
  split at h
  · rename_i rest
    rw [Bool.and_eq_true, decide_eq_true_eq] at h
    rcases hdrop : rest.dropWhile isPlain with _ | ⟨c, after⟩
    · rw [hdrop] at h
      cases h.2
    have hc : c = '/' := by
      have hany := h.2
      rw [hdrop] at hany
      exact of_decide_eq_true hany
    subst hc
    have htake : (rest ++ text).takeWhile isPlain = rest.takeWhile isPlain := by
      have hlength : (rest.takeWhile isPlain).length ≠ rest.length := by
        intro heq
        have hsplit := congrArg List.length
          (List.takeWhile_append_dropWhile (p := isPlain) (l := rest))
        rw [List.length_append, heq, hdrop, List.length_cons] at hsplit
        omega
      rw [List.takeWhile_append, if_neg hlength]
    have hdrop' : (rest ++ text).dropWhile isPlain = '/' :: (after ++ text) := by
      rw [List.dropWhile_append, hdrop]
      rfl
    show ((rest ++ text).takeWhile isPlain ≠ [] &&
      ((rest ++ text).dropWhile isPlain).head?.all fun c => c = '/') = true
    rw [htake, hdrop', Bool.and_eq_true, decide_eq_true_eq]
    exact ⟨h.1, rfl⟩
  · cases h

section Home

variable {a : RestAdapter} {o : Origin}

theorem origin_baseUrl : origin a.py.acceptsNetloc (a.baseUrl ++ ['/']) = a.originOf a.instanceUrl := by
  have hsplit := List.rdropWhile_append_rtakeWhile (p := fun c : Char => decide (c = '/'))
    (l := a.instanceUrl.toList)
  have hslashes : ∀ c ∈ a.instanceUrl.toList.rtakeWhile fun c => c = '/', c = '/' := by
    intro c hc
    have hslash := List.mem_rtakeWhile_imp (p := fun c : Char => decide (c = '/')) hc
    exact of_decide_eq_true hslash
  have hone : ∀ c ∈ ['/'], c = '/' := by
    intro c hc
    exact List.mem_singleton.mp hc
  unfold RestAdapter.originOf
  rw [← hsplit, origin_append_slashes hslashes]
  exact origin_append_slashes hone _

theorem home_of_ownPath (hbase : a.originOf a.instanceUrl = some o) {path : String}
    (h : isOwnPath path.toList) : LeadsHome a path := by
  obtain ⟨rest, hpath, hplain⟩ := startsPlain_of_isOwnPath h
  intro url htarget o' horigin
  unfold RestAdapter.target at htarget
  split at htarget
  · -- taken as it is, the path is no address of a server
    cases htarget
    unfold RestAdapter.originOf at horigin
    rw [hpath, origin_rooted hplain] at horigin
    cases horigin
  · unfold RestAdapter.url at htarget
    obtain ⟨joined, hjoined, rfl⟩ := map_eq_ok.mp htarget
    rw [ofOption_eq_ok] at hjoined
    have hdrop : path.toList.dropWhile (fun c => c = '/') = rest := by
      rw [hpath, List.dropWhile_cons_of_pos (by decide)]
      rcases rest with _ | ⟨c, rest⟩
      · rfl
      · have hc : isPlain c := by
          by_contra hnot
          exact hplain.nonempty (List.takeWhile_cons_of_neg hnot)
        have hne : c ≠ '/' := isPlain_ne hc (by decide)
        rw [List.dropWhile_cons_of_neg (by simpa using hne)]
    rw [hdrop] at hjoined
    rw [RestAdapter.originOf, String.toList_ofList] at horigin
    rw [origin_urljoin hplain (origin_baseUrl.trans hbase) hjoined horigin]
    exact hbase

theorem home_append (hbase : a.originOf a.instanceUrl = some o) {front : String}
    (h : isOwnPrefix front.toList) (text : String) : LeadsHome a (front ++ text) := by
  refine home_of_ownPath hbase ?_
  rw [String.toList_append]
  exact isOwnPath_append h text.toList

end Home

/-! ### The requests of the adapters -/

section Requests

variable {a : RestAdapter} {o : Origin} {apiVersion : String}

theorem emit_home (page : ConnectorPage) : (emit page).Calls (StaysHome a) :=
  Program.calls_perform.mpr trivial

theorem pure_home {α : Type} (x : α) : (pure x : Rest α).Calls (StaysHome a) := trivial

theorem repoPath_home (hbase : a.originOf a.instanceUrl = some o) (repository : String × String)
    (rest : String) : LeadsHome a (GitHub.repoPath repository rest) := by
  unfold GitHub.repoPath
  rw [String.append_assoc]
  exact home_append hbase (by decide) _

theorem jira_home (hbase : a.originOf a.instanceUrl = some o) (rounds : ℕ)
    (request : CollectionRequest) (checkpoint : Dict) :
    (Jira.collectPages a rounds request checkpoint).Calls (StaysHome a) := by
  have hpath : LeadsHome a "/rest/api/3/search/jql" := home_of_ownPath hbase (by decide)
  unfold Jira.collectPages
  refine Program.Calls.bind (lift_calls _) fun projects => ?_
  refine Program.Calls.loop (fun token => ?_) _ rounds _
  unfold Jira.searchPage
  refine Program.Calls.bind (lift_calls _) fun pageSize => ?_
  refine Program.Calls.bind (request_home ?_) fun response => ?_
  · exact hpath
  refine Program.Calls.bind (lift_calls _) fun issues => ?_
  refine Program.Calls.bind (lift_calls _) fun objects => ?_
  refine Program.Calls.bind (lift_calls _) fun next => ?_
  exact Program.Calls.bind (emit_home _) fun _ => pure_home _

theorem confluence_home (hbase : a.originOf a.instanceUrl = some o) (rounds : ℕ)
    (request : CollectionRequest) (checkpoint : Dict) :
    (Confluence.collectPages a rounds request checkpoint).Calls (StaysHome a) := by
  have hpath : LeadsHome a "/wiki/api/v2/pages" := home_of_ownPath hbase (by decide)
  unfold Confluence.collectPages
  refine Program.Calls.bind (lift_calls _) fun spaces => ?_
  refine Program.Calls.loop (fun cursor => ?_) _ rounds _
  unfold Confluence.searchPage
  refine Program.Calls.bind (lift_calls _) fun pageSize => ?_
  refine Program.Calls.bind (request_home ?_) fun response => ?_
  · exact hpath
  refine Program.Calls.bind (lift_calls _) fun results => ?_
  refine Program.Calls.bind (lift_calls _) fun objects => ?_
  refine Program.Calls.bind (lift_calls _) fun next => ?_
  exact Program.Calls.bind (emit_home _) fun _ => pure_home _

theorem googleDrive_home (hbase : a.originOf a.instanceUrl = some o) (rounds : ℕ)
    (request : CollectionRequest) (checkpoint : Dict) :
    (GoogleDrive.collectPages a rounds request checkpoint).Calls (StaysHome a) := by
  have hfiles : LeadsHome a "/drive/v3/files" := home_of_ownPath hbase (by decide)
  have hchanges : LeadsHome a "/drive/v3/changes" := home_of_ownPath hbase (by decide)
  have hstart : LeadsHome a "/drive/v3/changes/startPageToken" := home_of_ownPath hbase (by decide)
  unfold GoogleDrive.collectPages
  by_cases hstream : request.stream = "files"
  · rw [if_pos hstream]
    unfold GoogleDrive.collectFiles
    refine Program.Calls.bind (lift_calls _) fun driveId => ?_
    refine Program.Calls.loop (fun token => ?_) _ rounds _
    unfold GoogleDrive.filesPage
    refine Program.Calls.bind (lift_calls _) fun pageSize => ?_
    refine Program.Calls.bind (request_home ?_) fun response => ?_
    · exact hfiles
    refine Program.Calls.bind (lift_calls _) fun files => ?_
    refine Program.Calls.bind (lift_calls _) fun objects => ?_
    refine Program.Calls.bind (lift_calls _) fun next => ?_
    refine Program.Calls.bind (lift_calls _) fun incomplete => ?_
    exact Program.Calls.bind (emit_home _) fun _ => pure_home _
  rw [if_neg hstream]
  by_cases hstream : request.stream = "changes"
  · rw [if_pos hstream]
    unfold GoogleDrive.collectChanges
    refine Program.Calls.bind (lift_calls _) fun driveId => ?_
    refine Program.Calls.bind ?_ fun token => Program.Calls.loop (fun token => ?_) _ rounds _
    · unfold GoogleDrive.startToken
      dsimp only
      split
      · exact pure_home _
      · refine Program.Calls.bind (request_home ?_) fun response => ?_
        · exact hstart
        refine Program.Calls.bind (lift_calls _) fun token => ?_
        exact Program.Calls.bind (lift_calls _) fun _ => pure_home _
    · unfold GoogleDrive.changesPage
      refine Program.Calls.bind (lift_calls _) fun pageSize => ?_
      refine Program.Calls.bind (request_home ?_) fun response => ?_
      · exact hchanges
      refine Program.Calls.bind (lift_calls _) fun changes => ?_
      refine Program.Calls.bind (lift_calls _) fun objects => ?_
      refine Program.Calls.bind (lift_calls _) fun next => ?_
      refine Program.Calls.bind (lift_calls _) fun newStart => ?_
      refine Program.Calls.bind (lift_calls _) fun _ => ?_
      exact Program.Calls.bind (emit_home _) fun _ => pure_home _
  · rw [if_neg hstream]
    exact lift_calls _

theorem okta_home (hbase : a.originOf a.instanceUrl = some o) (rounds : ℕ)
    (request : CollectionRequest) (checkpoint : Dict) :
    (Okta.collectPages a rounds request checkpoint).Calls (StaysHome a) := by
  have hpath : ∀ stream groupId, LeadsHome a (Okta.path stream groupId) := by
    intro stream groupId
    unfold Okta.path
    split
    · exact home_append hbase (by decide) _
    · rw [String.append_assoc]
      exact home_append hbase (by decide) _
  unfold Okta.collectPages
  refine Program.Calls.bind (lift_calls _) fun ids => ?_
  refine Program.Calls.bind (lift_calls _) fun startGroup => ?_
  refine Program.Calls.forEach (fun group _ _ => ?_) ()
  unfold Okta.collectGroup
  refine Program.Calls.bind (lift_calls _) fun pageSize => ?_
  refine Program.Calls.loop (fun params => ?_) _ rounds _
  unfold Okta.groupPage
  refine Program.Calls.bind (request_home (hpath _ _)) fun response => ?_
  refine Program.Calls.bind (lift_calls _) fun items => ?_
  refine Program.Calls.bind (lift_calls _) fun objects => ?_
  refine Program.Calls.bind (lift_calls _) fun after => ?_
  exact Program.Calls.bind (emit_home _) fun _ => pure_home _

theorem gcpIam_home (hbase : a.originOf a.instanceUrl = some o) (request : CollectionRequest)
    (checkpoint : Dict) : (GcpIam.collectPages a request checkpoint).Calls (StaysHome a) := by
  have hpath : ∀ projectId, LeadsHome a (GcpIam.path projectId) := by
    intro projectId
    unfold GcpIam.path
    rw [String.append_assoc]
    exact home_append hbase (by decide) _
  unfold GcpIam.collectPages
  refine Program.Calls.bind (lift_calls _) fun ids => ?_
  refine Program.Calls.bind (lift_calls _) fun start => ?_
  refine Program.Calls.forEach (fun project _ _ => ?_) ()
  unfold GcpIam.collectProject
  refine Program.Calls.bind (request_home (hpath _)) fun response => ?_
  refine Program.Calls.bind (lift_calls _) fun policy => ?_
  exact Program.Calls.bind (lift_calls _) fun object => emit_home _

theorem github_reviewCounts_home (hbase : a.originOf a.instanceUrl = some o)
    (repository : String × String) (number : Value) :
    (GitHub.reviewCounts a apiVersion repository number).Calls (StaysHome a) := by
  unfold GitHub.reviewCounts
  refine Program.Calls.bind (request_home ?_) fun response => ?_
  · exact repoPath_home hbase _ _
  refine Program.Calls.bind (lift_calls _) fun reviews => ?_
  exact Program.Calls.bind (lift_calls _) fun states => pure_home _

theorem github_countsFor_home (hbase : a.originOf a.instanceUrl = some o)
    (repository : String × String) (budget : ℤ) (required : Bool) (number : Value)
    (lookups : GitHub.Lookups) :
    (GitHub.countsFor a apiVersion repository budget required number lookups).Calls
      (StaysHome a) := by
  unfold GitHub.countsFor
  split
  · exact pure_home _
  split
  · split
    · exact pure_home _
    split
    · refine Program.Calls.bind (github_reviewCounts_home hbase _ _) fun counts => ?_
      exact pure_home _
    · exact pure_home _
  · exact pure_home _

theorem github_lookUp_home (hbase : a.originOf a.instanceUrl = some o)
    (repository : String × String) (budget : ℤ) (required : Bool) (sha : String)
    (lookups : GitHub.Lookups) :
    (GitHub.lookUp a apiVersion repository budget required sha lookups).Calls (StaysHome a) := by
  unfold GitHub.lookUp
  split
  · refine Program.Calls.bind (request_home ?_) fun response => ?_
    · exact repoPath_home hbase _ _
    refine Program.Calls.bind (lift_calls _) fun pulls => ?_
    refine Program.Calls.bind ?_ fun found => pure_home _
    refine Program.Calls.forEach (fun pull _ state => ?_) _
    refine Program.Calls.bind (lift_calls _) fun entry => ?_
    exact Program.Calls.bind (github_countsFor_home hbase _ _ _ _ _) fun counts => pure_home _
  · exact pure_home _

theorem github_useReviews_home (hbase : a.originOf a.instanceUrl = some o)
    (repository : String × String) (budget : ℤ) (required : Bool) (page : ℤ) (body : List Value)
    (next : Option String) (lookups : GitHub.Lookups) :
    (GitHub.useReviews a apiVersion repository budget required page body next lookups).Calls
      (StaysHome a) := by
  unfold GitHub.useReviews
  refine Program.Calls.bind ?_ fun rows => ?_
  · refine Program.Calls.forEach (fun raw _ state => ?_) _
    refine Program.Calls.bind (lift_calls _) fun sha => ?_
    refine Program.Calls.bind (github_lookUp_home hbase _ _ _ _ _) fun found => ?_
    exact Program.Calls.bind (lift_calls _) fun item => pure_home _
  · refine Program.Calls.bind (lift_calls _) fun cursor => ?_
    exact Program.Calls.bind (emit_home _) fun _ => pure_home _

theorem github_commitsPage_home {σ : Type} (hbase : a.originOf a.instanceUrl = some o)
    (request : CollectionRequest) (repository : String × String)
    {use : ℤ → List Value → Option String → σ → Rest σ}
    (huse : ∀ page body next s, (use page body next s).Calls (StaysHome a)) (state : ℤ × σ) :
    (GitHub.commitsPage a apiVersion request repository use state).Calls (StaysHome a) := by
  unfold GitHub.commitsPage
  refine Program.Calls.bind (lift_calls _) fun params => ?_
  refine Program.Calls.bind (request_home ?_) fun response => ?_
  · exact repoPath_home hbase _ _
  refine Program.Calls.bind (lift_calls _) fun body => ?_
  refine Program.Calls.bind (huse _ _ _ _) fun used => ?_
  split
  · exact Program.Calls.bind (lift_calls _) fun page => pure_home _
  · exact pure_home _

theorem github_home (hbase : a.originOf a.instanceUrl = some o) (rounds : ℕ)
    (request : CollectionRequest) (checkpoint : Dict) :
    (GitHub.collectPages a apiVersion rounds request checkpoint).Calls (StaysHome a) := by
  unfold GitHub.collectPages
  by_cases hpulls : request.stream = "pull_requests"
  · rw [if_pos hpulls]
    unfold GitHub.collectPullRequests
    refine Program.Calls.bind (lift_calls _) fun repository => ?_
    refine Program.Calls.bind (lift_calls _) fun page => ?_
    refine Program.Calls.loop (fun state => ?_) _ rounds _
    unfold GitHub.pullsPage
    refine Program.Calls.bind (lift_calls _) fun size => ?_
    refine Program.Calls.bind (request_home ?_) fun response => ?_
    · exact repoPath_home hbase _ _
    refine Program.Calls.bind (lift_calls _) fun raws => ?_
    refine Program.Calls.bind (lift_calls _) fun objects => ?_
    refine Program.Calls.bind (lift_calls _) fun next => ?_
    exact Program.Calls.bind (emit_home _) fun _ => pure_home _
  rw [if_neg hpulls]
  by_cases hcommits : request.stream = "commits"
  · rw [if_pos hcommits]
    unfold GitHub.collectCommits
    refine Program.Calls.bind (lift_calls _) fun repository => ?_
    refine Program.Calls.bind (lift_calls _) fun page => ?_
    refine Program.Calls.loop (fun state => ?_) _ rounds _
    refine github_commitsPage_home hbase _ _ (fun page body next _ => ?_) _
    unfold GitHub.useCommits
    refine Program.Calls.bind (lift_calls _) fun objects => ?_
    exact Program.Calls.bind (lift_calls _) fun cursor => emit_home _
  rw [if_neg hcommits]
  by_cases hreviews : request.stream = "commit_reviews"
  · rw [if_pos hreviews]
    unfold GitHub.collectCommitReviews
    refine Program.Calls.bind (lift_calls _) fun repository => ?_
    refine Program.Calls.bind (lift_calls _) fun budget => ?_
    refine Program.Calls.bind (lift_calls _) fun page => ?_
    refine Program.Calls.loop (fun state => ?_) _ rounds _
    exact github_commitsPage_home hbase _ _ (fun _ _ _ _ => github_useReviews_home hbase _ _ _ _ _ _ _) _
  · rw [if_neg hreviews]
    exact lift_calls _

theorem health_home (hbase : a.originOf a.instanceUrl = some o) (kind : LiveType)
    (checkedAt : Timestamp) :
    ((kind.adapter a apiVersion).health checkedAt).Calls (StaysHome a) := by
  have hrate : LeadsHome a "/rate_limit" := home_of_ownPath hbase (by decide)
  have hmyself : LeadsHome a "/rest/api/3/myself" := home_of_ownPath hbase (by decide)
  have hspaces : LeadsHome a "/wiki/api/v2/spaces" := home_of_ownPath hbase (by decide)
  have habout : LeadsHome a "/drive/v3/about" := home_of_ownPath hbase (by decide)
  have horg : LeadsHome a "/api/v1/org" := home_of_ownPath hbase (by decide)
  have horganization : LeadsHome a "/v1.0/organization" := home_of_ownPath hbase (by decide)
  have hprojects : LeadsHome a "/v1/projects" := home_of_ownPath hbase (by decide)
  cases kind with
  | github =>
    show (GitHub.health a apiVersion checkedAt).Calls (StaysHome a)
    unfold GitHub.health
    refine Program.Calls.bind (request_home ?_) fun response => ?_
    · exact hrate
    refine Program.Calls.bind (lift_calls _) fun resources => ?_
    refine Program.Calls.bind (lift_calls _) fun core => ?_
    refine Program.Calls.bind (lift_calls _) fun remaining => ?_
    refine Program.Calls.bind (lift_calls _) fun limit => ?_
    exact Program.Calls.bind (lift_calls _) fun reset => pure_home _
  | jira =>
    show (Jira.health a checkedAt).Calls (StaysHome a)
    unfold Jira.health
    refine Program.Calls.bind (request_home ?_) fun response => ?_
    · exact hmyself
    exact Program.Calls.bind (lift_calls _) fun accountId => pure_home _
  | confluence =>
    show (Confluence.health a checkedAt).Calls (StaysHome a)
    unfold Confluence.health
    refine Program.Calls.bind (request_home ?_) fun response => ?_
    · exact hspaces
    exact Program.Calls.bind (lift_calls _) fun count => pure_home _
  | googleDrive =>
    show (GoogleDrive.health a checkedAt).Calls (StaysHome a)
    unfold GoogleDrive.health
    refine Program.Calls.bind (request_home ?_) fun response => ?_
    · exact habout
    refine Program.Calls.bind (lift_calls _) fun user => ?_
    exact Program.Calls.bind (lift_calls _) fun permissionId => pure_home _
  | okta =>
    show (Okta.health a checkedAt).Calls (StaysHome a)
    unfold Okta.health
    refine Program.Calls.bind (request_home ?_) fun response => ?_
    · exact horg
    exact Program.Calls.bind (lift_calls _) fun organization => pure_home _
  | entra =>
    show (Entra.health a checkedAt).Calls (StaysHome a)
    unfold Entra.health
    refine Program.Calls.bind (request_home ?_) fun response => ?_
    · exact horganization
    refine Program.Calls.bind (lift_calls _) fun values => ?_
    exact Program.Calls.bind (lift_calls _) fun count => pure_home _
  | gcpIam =>
    show (GcpIam.health a checkedAt).Calls (StaysHome a)
    unfold GcpIam.health
    refine Program.Calls.bind (request_home ?_) fun response => ?_
    · exact hprojects
    exact Program.Calls.bind (lift_calls _) fun projects => pure_home _

end Requests

section Links

variable {a : RestAdapter} {o : Origin} {links : String → Prop}

/-- The link of a response to its next page, if it has one, is in `links`. -/
def Entra.LinksIn (a : RestAdapter) (links : String → Prop) (link : Value) : Prop :=
  a.py.conversions.truthy link → links (a.py.str link)

def Entra.Answers (a : RestAdapter) (links : String → Prop) : (op : RestOp) → op.Answer → Prop
  | .send _, response => Entra.LinksIn a links (Entra.nextLink response.jsonBody)
  | .emit _, _ => True

theorem entra_path_home (hbase : a.originOf a.instanceUrl = some o) (stream objectId : String) :
    LeadsHome a (Entra.path stream objectId) := by
  unfold Entra.path
  split
  · rw [String.append_assoc]
    exact home_append hbase (by decide) _
  split
  · rw [String.append_assoc]
    exact home_append hbase (by decide) _
  · rw [String.append_assoc, String.append_assoc]
    exact home_append hbase (by decide) _

theorem objectPage_home (hlinks : ∀ link, links link → link ≠ "" → LeadsHome a link)
    (request : CollectionRequest) (index : ℤ) (objectId : String) {url : String}
    (hurl : url ≠ "" → LeadsHome a url) :
    (Entra.objectPage a request index objectId url).Assuming (Entra.Answers a links) (StaysHome a)
      fun next => ∀ link, next = some link → link ≠ "" → LeadsHome a link := by
  unfold Entra.objectPage
  by_cases hempty : url = ""
  · rw [if_pos hempty]
    refine Program.assuming_pure ?_
    intro link hnext
    cases hnext
  rw [if_neg hempty]
  refine Program.Assuming.bind (Program.Calls.assuming (lift_calls _)) fun params _ => ?_
  refine Program.Assuming.bind
    (R := fun response => Entra.LinksIn a links (Entra.nextLink response.jsonBody)) ?_
    fun response hresponse => ?_
  · unfold RestAdapter.request
    rcases htarget : a.target url with e | target
    · intro response hnever
      cases hnever
    · exact Program.assuming_perform fun origin horigin => hurl hempty target htarget origin horigin
  refine Program.Assuming.bind (Program.Calls.assuming (lift_calls _)) fun items _ => ?_
  refine Program.Assuming.bind (Program.Calls.assuming (lift_calls _)) fun objects _ => ?_
  refine Program.Assuming.bind (Program.Calls.assuming (emit_home _)) fun _ _ => ?_
  refine Program.assuming_pure ?_
  intro link hnext
  split at hnext
  · rename_i hmore
    cases hnext
    exact hlinks _ (hresponse hmore)
  · cases hnext

theorem entra_home (hbase : a.originOf a.instanceUrl = some o)
    (hlinks : ∀ link, links link → link ≠ "" → LeadsHome a link) (rounds : ℕ)
    (request : CollectionRequest) {checkpoint : Dict}
    (hcheckpoint : Entra.LinksIn a links (get checkpoint.entries "next_url")) :
    (Entra.collectPages a rounds request checkpoint).Assuming (Entra.Answers a links)
      (StaysHome a) fun _ => True := by
  unfold Entra.collectPages
  refine Program.Assuming.bind (Program.Calls.assuming (lift_calls _)) fun ids _ => ?_
  refine Program.Assuming.bind (Program.Calls.assuming (lift_calls _)) fun start _ => ?_
  refine Program.Assuming.forEach (fun object _ _ _ => ?_) () trivial
  refine Program.Assuming.loop (I := fun url => url ≠ "" → LeadsHome a url)
    (fun url hurl => objectPage_home hlinks request _ _ hurl) _ rounds _ ?_
  unfold Entra.firstUrl
  split
  · rename_i hlink
    exact hlinks _ (hcheckpoint hlink.2)
  · intro _
    exact entra_path_home hbase _ _

theorem serve_answers (op : RestOp) (session : Session) (x : op.Answer)
    (hsession : ∀ response, .ok response ∈ session.responses →
      Entra.LinksIn a links (Entra.nextLink response.jsonBody))
    (hanswer : (serve op session).1 = .ok x) : Entra.Answers a links op x := by
  cases op with
  | emit page => exact trivial
  | send request =>
    obtain ⟨responses, pages⟩ := session
    rcases responses with _ | ⟨first, responses⟩
    · cases hanswer
    · have hfirst : first = .ok x := hanswer
      exact hsession x (hfirst ▸ List.mem_cons_self)

theorem serve_keeps (op : RestOp) (session : Session)
    (hsession : ∀ response, .ok response ∈ session.responses →
      Entra.LinksIn a links (Entra.nextLink response.jsonBody)) :
    ∀ response, .ok response ∈ (serve op session).2.responses →
      Entra.LinksIn a links (Entra.nextLink response.jsonBody) := by
  intro response hmem
  refine hsession response ?_
  cases op with
  | emit page => exact hmem
  | send request =>
    obtain ⟨responses, pages⟩ := session
    rcases responses with _ | ⟨first, responses⟩
    · exact hmem
    · exact List.mem_cons_of_mem _ hmem

end Links

/-! ### Every request of every adapter -/

/-- The links that Entra is given are in `links`: those of the responses, and that of the
checkpoint.  The other adapters take no link. -/
def LinksWithin (a : RestAdapter) (links : String → Prop) (kind : LiveType) (checkpoint : Dict)
    (session : Session) : Prop :=
  kind = .entra →
    Entra.LinksIn a links (get checkpoint.entries "next_url") ∧
      ∀ response, .ok response ∈ session.responses →
        Entra.LinksIn a links (Entra.nextLink response.jsonBody)

theorem collectPages_home {o : Origin} {apiVersion : String} {links : String → Prop}
    (hbase : a.originOf a.instanceUrl = some o)
    (hlinks : ∀ link, links link → link ≠ "" → LeadsHome a link) {kind : LiveType} {rounds : ℕ}
    {request : CollectionRequest} {checkpoint : Dict} {session : Session}
    (hwithin : LinksWithin a links kind checkpoint session) :
    ∀ c ∈ ((kind.adapter a apiVersion).collectPages rounds request checkpoint).trace serve session,
      StaysHome a c.1 := by
  intro c hc
  cases kind with
  | github => exact Program.Calls.of_mem_trace (github_home hbase rounds request checkpoint) hc
  | jira => exact Program.Calls.of_mem_trace (jira_home hbase rounds request checkpoint) hc
  | confluence =>
    exact Program.Calls.of_mem_trace (confluence_home hbase rounds request checkpoint) hc
  | googleDrive =>
    exact Program.Calls.of_mem_trace (googleDrive_home hbase rounds request checkpoint) hc
  | okta => exact Program.Calls.of_mem_trace (okta_home hbase rounds request checkpoint) hc
  | gcpIam => exact Program.Calls.of_mem_trace (gcpIam_home hbase request checkpoint) hc
  | entra =>
    obtain ⟨hcheckpoint, hresponses⟩ := hwithin rfl
    exact Program.Assuming.of_mem_trace
      (I := fun session : Session => ∀ response, .ok response ∈ session.responses →
        Entra.LinksIn a links (Entra.nextLink response.jsonBody))
      (fun op session x hsession hanswer => serve_answers op session x hsession hanswer)
      serve_keeps (entra_home hbase hlinks rounds request hcheckpoint) hresponses hc

def userRequest : CollectionRequest where
  stream := "users"
  scope := dictOf [("object_ids", strings ["x"])]
  parameters := .empty

theorem dictOf_single {key : String} {value : Value} (h : value.Distinct) :
    (dictOf [(key, value)]).entries = [(key, value)] := by
  refine dictOf_entries ⟨List.nodup_singleton _, h, trivial⟩

theorem userRequest_scopeIds : Entra.scopeIds userRequest = .ok ["x"] := by
  have hscope : userRequest.scope.entries = [("object_ids", strings ["x"])] :=
    dictOf_single (strings_distinct ["x"])
  unfold Entra.scopeIds CollectionRequest.scopeTexts CollectionRequest.scopeValue
  rw [hscope]
  rfl

theorem checkpoint_link_requested {link url : String} (hlink : link ≠ "")
    (htarget : a.target link = .ok url) (session : Session) :
    ∃ request : HttpRequest, request.url = url ∧
      (RestOp.send request, session) ∈
        (Entra.collectPages a 1 userRequest (dictOf [("next_url", .str link)])).trace serve
          session := by
  have hentries : (dictOf [("next_url", .str link)]).entries = [("next_url", .str link)] :=
    dictOf_single (show (Value.str link).Distinct from trivial)
  have hfirst : Entra.firstUrl a userRequest 0 (.str link) (0, "x") = link := by
    unfold Entra.firstUrl
    rw [if_pos ⟨rfl, by simpa [Conversions.truthy] using hlink⟩]
    rfl
  have hstream : ¬ (userRequest.stream = "group_members" ∨ userRequest.stream = "directory_roles") := by
    decide
  have hparams : Entra.pageParams a userRequest (Entra.path "users" "x") link = .ok [] := by
    unfold Entra.pageParams
    rw [if_neg fun h => hstream h.2]
  refine ⟨{ method := "GET", url := url, headers := a.headers [] }, rfl, ?_⟩
  unfold Entra.collectPages
  rw [userRequest_scopeIds, lift_ok_bind, hentries]
  -- the first object, its first page, and the request of the page
  refine Program.mem_trace_bind.mpr (.inr ⟨0, session, rfl, ?_⟩)
  refine Program.mem_trace_bind.mpr (.inl ?_)
  refine Program.mem_trace_bind.mpr (.inl ?_)
  show _ ∈ (Entra.objectPage a userRequest 0 "x"
    (Entra.firstUrl a userRequest 0 (.str link) (0, "x"))).trace serve session
  rw [hfirst]
  unfold Entra.objectPage
  rw [if_neg hlink]
  refine Program.mem_trace_bind.mpr (.inr ⟨[], session, ?_, ?_⟩)
  · show (lift (Entra.pageParams a userRequest (Entra.path "users" "x") link)).run serve session = _
    rw [hparams]
    rfl
  refine Program.mem_trace_bind.mpr (.inl ?_)
  unfold RestAdapter.request
  rw [htarget, lift_ok_bind]
  exact List.mem_singleton_self _

/-- **The requests of the adapters stay at the origin of their instance exactly when every link
that Entra is given leads there.** -/
theorem requests_home_iff {a : RestAdapter} {o : Origin} {apiVersion : String}
    (hbase : a.originOf a.instanceUrl = some o) (links : String → Prop) :
    (∀ kind : LiveType,
      (∀ checkedAt session, ∀ c ∈ ((kind.adapter a apiVersion).health checkedAt).trace serve session,
        StaysHome a c.1) ∧
      ∀ rounds request checkpoint session, LinksWithin a links kind checkpoint session →
        ∀ c ∈ ((kind.adapter a apiVersion).collectPages rounds request checkpoint).trace serve
          session, StaysHome a c.1) ↔
      ∀ link, links link → link ≠ "" → LeadsHome a link := by
  constructor
  · intro hall link hlink hnonempty url htarget
    obtain ⟨request, rfl, hmem⟩ := checkpoint_link_requested hnonempty htarget { responses := [] }
    refine (hall .entra).2 1 userRequest (dictOf [("next_url", .str link)]) { responses := [] } ?_ _
      hmem
    have hentries : (dictOf [("next_url", .str link)]).entries = [("next_url", .str link)] :=
      dictOf_single (show (Value.str link).Distinct from trivial)
    refine fun _ => ⟨?_, fun response hresponse => absurd hresponse List.not_mem_nil⟩
    rw [hentries]
    exact fun _ => hlink
  · intro hlinks kind
    refine ⟨fun checkedAt session c hc => ?_, fun rounds request checkpoint session hwithin => ?_⟩
    · exact Program.Calls.of_mem_trace (health_home hbase kind checkedAt) hc
    · exact collectPages_home hbase hlinks hwithin

/-- What `str` makes of text alone, and every authority. -/
def plainRuntime : Runtime where
  conversions := Conversions.plain
  acceptsNetloc _ := true
  unquote s := s
  upper s := s
  fromIsoFormat _ := none
  sha256 _ := ""

def graphAdapter : RestAdapter where
  py := plainRuntime
  instanceUrl := "https://graph.example"
  credential := [("Authorization", "Bearer t")]

def graphOrigin : Origin where
  scheme := "https".toList
  host := "graph.example".toList
  port := some 443

theorem graph_base : graphAdapter.originOf graphAdapter.instanceUrl = some graphOrigin := by
  decide +kernel

def ownLink : String := "https://graph.example/v1.0/users?page=2"

theorem ownLink_home : LeadsHome graphAdapter ownLink := by
  intro url htarget o horigin
  have hsame : graphAdapter.target ownLink = .ok ownLink := if_pos (by decide +kernel)
  have hown : graphAdapter.originOf ownLink = some graphOrigin := by
    decide +kernel
  rw [hsame] at htarget
  cases htarget
  rw [graph_base, ← horigin, hown]

/-- With the links of its own server, Entra stays there. -/
theorem requests_home_own :
    graphAdapter.originOf graphAdapter.instanceUrl = some graphOrigin ∧
      ∀ rounds request checkpoint session,
        LinksWithin graphAdapter (fun link => link = ownLink) .entra checkpoint session →
          ∀ c ∈ ((LiveType.entra.adapter graphAdapter "").collectPages rounds request
              checkpoint).trace serve session,
            StaysHome graphAdapter c.1 := by
  refine ⟨graph_base, ((requests_home_iff graph_base fun link => link = ownLink).mpr ?_ .entra).2⟩
  rintro link rfl -
  exact ownLink_home

def foreignPage : HttpResponse where
  jsonBody := .obj [("value", .arr []), ("@odata.nextLink", .str "https://other.example/x")]

def RestOp.sent : RestOp → Option (String × Headers)
  | .send request => some (request.url, request.headers)
  | .emit _ => none

theorem foreign_trace :
    (((LiveType.entra.adapter graphAdapter "").collectPages 2 userRequest .empty).trace serve
        { responses := [.ok foreignPage] }).map (fun c => c.1.sent) =
      [some ("https://graph.example/v1.0/users/x", graphAdapter.credential), none,
        some ("https://other.example/x", graphAdapter.credential)] := by
  decide +kernel

/-- The second request goes to the other server, with the token. -/
theorem foreign_link_requested :
    ∃ c ∈ ((LiveType.entra.adapter graphAdapter "").collectPages 2 userRequest .empty).trace serve
        { responses := [.ok foreignPage] },
      c.1.sent = some ("https://other.example/x", [("Authorization", "Bearer t")]) ∧
        ¬ StaysHome graphAdapter c.1 := by
  have hsent : some ("https://other.example/x", graphAdapter.credential) ∈
      (((LiveType.entra.adapter graphAdapter "").collectPages 2 userRequest .empty).trace serve
        { responses := [.ok foreignPage] }).map fun c => c.1.sent := by
    rw [foreign_trace]
    exact List.mem_cons_of_mem _ (List.mem_cons_of_mem _ (List.mem_singleton_self _))
  obtain ⟨⟨op, session⟩, hc, hsent⟩ := List.mem_map.mp hsent
  refine ⟨(op, session), hc, hsent, ?_⟩
  cases op with
  | emit page => cases hsent
  | send request =>
    have hurl : request.url = "https://other.example/x" :=
      congrArg Prod.fst (Option.some.inj hsent)
    intro hhome
    have hother : graphAdapter.originOf request.url = some
        { scheme := "https".toList, host := "other.example".toList, port := some 443 } := by
      rw [hurl]
      decide +kernel
    have hsame := hhome _ hother
    rw [graph_base] at hsame
    exact absurd (congrArg Origin.host (Option.some.inj hsame)) (by decide)

end Connectors
