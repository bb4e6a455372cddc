/-
The data of the governance layer: agent packages (`registry.py`), execution envelopes
(`models.py`) and the task leases that authority is derived from
(`orchestration/definitions.py`).

A document of a package, and the execution policy of a lease, is a JSON object that the code
reads by key.  An instant is aware of its zone.

`policy.py`: whether a package and an execution envelope allow what is asked for.
-/
import AssuranceOS.Lib.PythonValue
import AssuranceOS.Lib.Checked
import AssuranceOS.PyString

namespace Governance

open JsonText Checked

/-- Microseconds. -/
abbrev Timestamp := ℤ

/-- A released agent package. -/
structure AgentPackage where
  agentId : String
  manifest : Object
  tools : Object
  policy : Object

structure ExecutionEnvelope where
  taskId : String
  engagementId : String
  tenantId : String
  agentRole : String
  agentVersion : String
  purpose : String
  allowedEvidenceScopes : List String
  allowedTools : List String
  forbiddenActions : List String
  modelPolicy : String
  tokenBudget : ℤ := 60000
  costBudgetUsd : FloatValue := .finite 8
  deadline : Option Timestamp := none
  outputSchema : String := "assurance.agent_result.v1"
  humanGate : Option String := none
  leaseOwner : Option String := none
  attemptCount : ℤ := 1

structure TaskLease where
  tenantId : String
  engagementId : String
  taskId : String
  taskKey : String
  taskType : String
  assignedAgentRole : Option String
  attemptCount : ℤ
  leaseOwner : String
  leaseExpiresAt : Timestamp
  executionPolicy : Object
  modelPolicy : Option String
  deadlineAt : Option Timestamp
  humanGate : Option String

structure SignedExecutionEnvelope where
  envelope : ExecutionEnvelope
  issuedAt : Timestamp
  expiresAt : Timestamp

inductive GovernanceError where
  | unassigned
  | packageUnavailable (role : String)
  /-- the execution policy of the task does not define the key -/
  | undefined (key : String)
  | duplicates (key : String)
  | budget (name : String)
  | ceiling (name : String)
  | modelPolicy
  | leaseExpired
  | ttl
  | undeclaredTools (denied : List String)
  | weakensProhibitions
  | identityMismatch
  | versionMismatch
  /-- a value that pydantic refuses -/
  | validation
  | keyError (key : String)
  /-- an exception of Python at a value of another type -/
  | typeError
  deriving DecidableEq

/-! ### Reading a package -/

namespace AgentPackage

variable (package : AgentPackage)

/-- `str(package.manifest[key])`. -/
def manifestText (c : Conversions) (key : String) : Except GovernanceError String :=
  (Checked.ofOption (.keyError key) (package.manifest.lookup key)).map c.str

/-- `package.tools.get("tools", [])`, entry by entry. -/
def toolEntries : Except GovernanceError (List Value) :=
  Checked.ofOption .typeError (iterate ((package.tools.lookup "tools").getD (.arr [])))

/-- `list(document.get(key, []))` where a list of texts is wanted. -/
def textsOf (document : Object) (key : String) : Except GovernanceError (List String) := do
  let items ← Checked.ofOption .typeError (iterate ((document.lookup key).getD (.arr [])))
  Checked.ofOption .validation (items.mapM asString)

def forbiddenActions : Except GovernanceError (List String) :=
  textsOf package.policy "forbidden_actions"

def evidenceBoundaries : Except GovernanceError (List String) :=
  textsOf package.manifest "evidence_boundaries"

end AgentPackage

inductive PolicyDecision where
  | allowed
  | denied (reason : GovernanceError)
  deriving DecidableEq

def hashable : Value → Except GovernanceError Value
  | .arr _ | .obj _ => .error .typeError
  | v => .ok v

/-- `item["name"]`. -/
def itemName : Value → Except GovernanceError Value
  | .obj entries => ofOption (.keyError "name") (entries.lookup "name")
  | _ => .error .typeError

/-- `item in texts`, for a set of texts. -/
def inTexts (texts : List String) (item : Value) : Bool :=
  match item with
  | .str s => s ∈ texts
  | _ => false

namespace AgentPackage

variable (package : AgentPackage)

def declaredNames : Except GovernanceError (List Value) := do
  let items ← package.toolEntries
  items.mapM fun item => do hashable (← itemName item)

def prohibitions : Except GovernanceError (List Value) := do
  let items ← ofOption .typeError (iterate ((package.policy.lookup "forbidden_actions").getD (.arr [])))
  items.mapM hashable

end AgentPackage

/-- `PolicyGateway.authorize`. -/
def authorize (c : Conversions) (package : AgentPackage) (envelope : ExecutionEnvelope) :
    Except GovernanceError PolicyDecision := do
  if envelope.agentRole ≠ package.agentId then
    return .denied .identityMismatch
  let version ← package.manifestText c "version"
  if envelope.agentVersion ≠ version then
    return .denied .versionMismatch
  let declared ← package.declaredNames
  let denied := envelope.allowedTools.filter fun t => t ∉ declared.filterMap asString
  if denied ≠ [] then
    return .denied (.undeclaredTools denied)
  let prohibitions ← package.prohibitions
  if prohibitions.all (inTexts envelope.forbiddenActions) then
    return .allowed
  else
    return .denied .weakensProhibitions

section Authorize

variable {c : Conversions} {package : AgentPackage} {envelope : ExecutionEnvelope}

theorem prohibitions_eq_ok {texts : List String} (h : package.forbiddenActions = .ok texts) :
    package.prohibitions = .ok (texts.map Value.str) := by
  unfold AgentPackage.forbiddenActions AgentPackage.textsOf at h
  obtain ⟨items, hitems, htexts⟩ := bind_eq_ok.mp h
  have hvalues : items = texts.map Value.str := by
    rw [ofOption_eq_ok, mapM_eq_some] at htexts
    clear hitems h
    induction htexts with
    | nil => rfl
    | cons hhead _ ih => rw [List.map_cons, ← ih, asString_eq_some.mp hhead]
  unfold AgentPackage.prohibitions
  rw [hitems, hvalues]
  show (texts.map Value.str).mapM hashable = _
  rw [mapM_eq_ok, List.forall₂_map_left_iff, List.forall₂_map_right_iff]
  exact List.forall₂_same.mpr fun _ _ => rfl

/-- An envelope of the package itself, with its version and its prohibitions, is allowed when its
tools are declared. -/
theorem authorize_allowed_iff (hrole : envelope.agentRole = package.agentId)
    (hversion : package.manifestText c "version" = .ok envelope.agentVersion)
    (hforbidden : package.forbiddenActions = .ok envelope.forbiddenActions) :
    authorize c package envelope = .ok .allowed ↔
      ∃ declared, package.declaredNames = .ok declared ∧
        ∀ t ∈ envelope.allowedTools, t ∈ declared.filterMap asString := by
  have hprohibitions : (envelope.forbiddenActions.map Value.str).all
      (inTexts envelope.forbiddenActions) = true := by
    rw [List.all_map, List.all_eq_true]
    exact fun t ht => by simpa [inTexts] using ht
  unfold authorize
  rw [if_neg (not_not.mpr hrole), hversion]
  show (if envelope.agentVersion ≠ envelope.agentVersion then _ else _) = _ ↔ _
  rw [if_neg (not_not.mpr rfl), bind_eq_ok]
  refine exists_congr fun declared => and_congr_right fun _ => ?_
  dsimp only
  by_cases hdenied : envelope.allowedTools.filter (fun t => t ∉ declared.filterMap asString) = []
  · rw [if_neg (not_not.mpr hdenied), prohibitions_eq_ok hforbidden]
    show (if _ then _ else _) = _ ↔ _
    rw [if_pos hprohibitions]
    refine iff_of_true rfl fun t ht => ?_
    by_contra hnot
    have hmem : t ∈ envelope.allowedTools.filter fun t => t ∉ declared.filterMap asString :=
      List.mem_filter.mpr ⟨ht, decide_eq_true hnot⟩
    rw [hdenied] at hmem
    exact absurd hmem List.not_mem_nil
  · rw [if_pos hdenied]
    refine iff_of_false (fun h => by cases h) fun hall => hdenied ?_
    rw [List.filter_eq_nil_iff]
    exact fun t ht => by simpa using hall t ht

end Authorize

end Governance
