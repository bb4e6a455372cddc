/-
The agent gateway (`governance/gateway.py`): one tool call from the credential to the screened
result.

The verifier of credentials and the handlers of the tools are functions of the gateway; a handler
acts on a world of its own, and what it returns is a tree of Python values.  A call leaves through
a result, through `GatewayDenied` with its decision, or through another exception.
-/
import AssuranceOS.Governance.Armor
import AssuranceOS.Governance.Policy
import AssuranceOS.Lib.Dict

namespace Governance

open JsonText Checked

/-! ### What a tool returns -/

/-- The type of a sequence: `list`, `tuple`, or a class of its own, which extends one of them. -/
inductive SequenceType where
  | list
  | tuple
  | other (name : String) (isList : Bool)
  deriving DecidableEq

/-- An object of another class, by what `str`, `bool` and `int` make of it. -/
structure OtherObject where
  text : String
  truthy : Bool := true
  int : Option ℤ := none

/-- A value that is no string and no container. -/
inductive Atom where
  | null
  | bool (b : Bool)
  | int (n : ℤ)
  | float (literal : FloatLiteral)
  | object (o : OtherObject)

/-- A Python value: a string, a mapping or a sequence, or anything else. -/
inductive Result where
  | str (s : String)
  | atom (a : Atom)
  | sequence (kind : SequenceType) (items : List Result)
  | mapping (entries : List (Result × Result))

mutual

/-- The strings of a result, at any depth, the keys of mappings included. -/
def Result.strings : Result → List String
  | .str s => [s]
  | .atom _ => []
  | .sequence _ items => itemStrings items
  | .mapping entries => entryStrings entries

def itemStrings : List Result → List String
  | [] => []
  | r :: rs => r.strings ++ itemStrings rs

def entryStrings : List (Result × Result) → List String
  | [] => []
  | (k, v) :: es => k.strings ++ v.strings ++ entryStrings es

end

mutual

/-- The strings that are the result, or items or values in it, with at most `depth` containers
around them; keys are none of them. -/
def Result.leavesWithin (depth : Nat) : Result → List String
  | .str s => [s]
  | .atom _ => []
  | .sequence _ items => itemLeaves depth items
  | .mapping entries => entryLeaves depth entries

def itemLeaves (depth : Nat) : List Result → List String
  | [] => []
  | r :: rs =>
    (match depth with
      | 0 => []
      | n + 1 => r.leavesWithin n) ++ itemLeaves depth rs

def entryLeaves (depth : Nat) : List (Result × Result) → List String
  | [] => []
  | (_, v) :: es =>
    (match depth with
      | 0 => []
      | n + 1 => v.leavesWithin n) ++ entryLeaves depth es

end

structure AgentIdentity where
  identityId : String
  workloadUri : String
  tenantId : String
  agentRole : String
  agentVersion : String
  releaseId : Option String := none
  engagementId : String
  taskId : String
  attempt : ℤ := 1
  leaseOwner : Option String := none
  grantedTools : List String := []
  grantedEvidenceScopes : List String := []
  forbiddenActions : List String := []
  independenceSubject : Option String := none
  independenceConstraints : List String := []
  humanGate : Option String := none
  modelPolicy : String := "unspecified"

/-- `TaskBudget`; the costs are floats. -/
structure TaskBudget where
  maxCalls : ℤ
  tokenBudget : ℤ
  costBudgetUsd : FloatValue
  calls : Nat := 0
  tokens : ℤ := 0
  costUsd : FloatValue := .finite 0

inductive Exhausted where
  | calls (calls : Nat) (maxCalls : ℤ)
  | tokens (tokens tokenBudget : ℤ)
  | cost (costUsd costBudgetUsd : FloatValue)

/-- The steps of the gateway, by the names that its decisions use. -/
inductive Stage where
  | identity
  | policy
  | routing
  | independence
  | humanGate
  | budget
  | modelArmor
  | toolExecution
  | completed
  deriving DecidableEq

/-- Why the policy denies a tool. -/
inductive ToolDenial where
  | package (reason : GovernanceError)
  | absentFromEnvelope (tool : String)
  | absentFromPackage (tool : String)
  | needsHumanGate (tool : String)
  deriving DecidableEq

/-- The reason of a decision, with the data of its text and its attributes. -/
inductive DecisionReason where
  | identity (text : String)
  | policy (denial : ToolDenial)
  | noHandler (tool role : String)
  | notGranted (tool : String)
  | independence (constraint : String) (candidate : Value)
  | needsHumanGate (tool : String)
  | exhausted (budget : Exhausted) (calls : Nat) (tokens : ℤ)
  | arguments (findings : List ArmorFinding)
  | raised (exception : String)
  | withheld (findings : List ArmorFinding)
  | allowed (calls : Nat) (tokens : ℤ)

structure GatewayDecision where
  decisionId : String
  allowed : Bool
  stage : Stage
  reason : DecisionReason
  tenantId : String
  agentRole : String
  toolName : String
  taskId : String
  occurredAt : Timestamp
  identityId : Option String
  armor : List ArmorResult

/-- What `identity_verifier.verify` raises. -/
inductive VerificationError where
  /-- `AgentIdentityError` -/
  | refused (text : String)
  | raised (exception : String)

/-- Another exception than `GatewayDenied`. -/
inductive GatewayRaised where
  | verification (exception : String)
  | policy (error : GovernanceError)
  | armor (error : ArmorError)
  /-- of the class of a sequence, when it is built again -/
  | rebuilding (exception : String)

/-- What `invoke` raises. -/
inductive InvokeError where
  | denied (decision : GatewayDecision)
  | raised (exception : GatewayRaised)

variable (I W : Type)

/-- `BoundedTool`: the handler of a tool returns or raises, and leaves a world behind. -/
structure BoundedTool where
  handler : Object → AgentIdentity → ExecutionEnvelope → W → Except String Result × W
  description : String := ""

/-- What a gateway is built with and what has been registered; `I` are the credentials. -/
structure AgentGateway where
  tables : ArmorTables
  armor : ModelArmor
  maxCallsPerTask : ℤ := 50
  verify : I → ExecutionEnvelope → Timestamp → Except VerificationError AgentIdentity
  routes : List ((String × String) × BoundedTool W)
  /-- a class of sequences, called with the items -/
  construct : String → List Result → Except String Result
  addCost : FloatValue → FloatValue → FloatValue

/-- A call of a handler. -/
structure HandlerCall where
  toolName : String
  arguments : Object
  identity : AgentIdentity

/-- The state of a gateway and the world of the tools; `handled` traces the calls of handlers. -/
structure GatewayState where
  budgets : List (String × TaskBudget)
  decisions : List GatewayDecision
  world : W
  handled : List HandlerCall := []

/-- The arguments of `invoke`. -/
structure GatewayRequest where
  signedIdentity : I
  envelope : ExecutionEnvelope
  package : AgentPackage
  toolName : String
  arguments : Object
  estimatedTokens : ℤ := 0
  estimatedCostUsd : FloatValue := .finite 0

/-- The clock at the two times when it is read, and the random part of an id. -/
structure GatewayAmbient where
  now : Timestamp
  occurredAt : Timestamp
  hex : String

variable {I W}

/-- `PolicyGateway.authorize_tool`; `.ok none` allows. -/
def authorizeTool (c : Conversions) (package : AgentPackage) (envelope : ExecutionEnvelope)
    (toolName : String) : Except GovernanceError (Option ToolDenial) := do
  match ← authorize c package envelope with
  | .denied reason => return some (.package reason)
  | .allowed =>
    if toolName ∉ envelope.allowedTools then return some (.absentFromEnvelope toolName)
    let tools ← package.toolEntries
    match tools.find? fun tool =>
        (itemName tool).toOption.any fun name => asString name = some toolName with
    | some (.obj tool) =>
      if asString (get tool "side_effect") ≠ some "none" ∧
          c.truthy (get tool "requires_human_confirmation") ∧
          ¬ PyString.truthy envelope.humanGate then
        return some (.needsHumanGate toolName)
      return none
    | _ => return some (.absentFromPackage toolName)

/-- `_declared_tool`; where entries are no mappings the policy has raised before. -/
def declaredTool (package : AgentPackage) (toolName : String) : Object :=
  let tools := (package.toolEntries.toOption.getD []).filterMap asObject
  (tools.find? fun tool => asString (get tool "name") = some toolName).getD []

/-- `_independence_breach`: the constraint and what the subject has produced itself. -/
def independenceBreach (c : Conversions) (identity : AgentIdentity) (arguments : Object) :
    Option (String × Value) :=
  identity.independenceConstraints.findSome? fun key =>
    let candidate := get arguments key
    match candidate, identity.independenceSubject with
    | .null, _ | _, none => none
    | candidate, some subject =>
      if c.str candidate = subject then some (key, candidate) else none

namespace TaskBudget

def ofEnvelope (envelope : ExecutionEnvelope) (maxCalls : ℤ) : TaskBudget where
  maxCalls := maxCalls
  tokenBudget := envelope.tokenBudget
  costBudgetUsd := envelope.costBudgetUsd

def exceeded (b : TaskBudget) : Option Exhausted :=
  if b.maxCalls ≤ b.calls then some (.calls b.calls b.maxCalls)
  else if b.tokenBudget < b.tokens then some (.tokens b.tokens b.tokenBudget)
  else if b.costBudgetUsd.lt b.costUsd then some (.cost b.costUsd b.costBudgetUsd)
  else none

def consume (addCost : FloatValue → FloatValue → FloatValue) (b : TaskBudget) (tokens : ℤ)
    (costUsd : FloatValue) : TaskBudget :=
  { b with calls := b.calls + 1, tokens := b.tokens + tokens, costUsd := addCost b.costUsd costUsd }

end TaskBudget

/-- What was cleaned, the results to keep, and the first that blocks. -/
structure Screened (α : Type) where
  cleaned : α
  collected : List ArmorResult
  blocked : Option ArmorResult

namespace AgentGateway

variable (g : AgentGateway I W)

/-- `type(result)(items)`. -/
def rebuild (kind : SequenceType) (items : List Result) : Except GatewayRaised Result :=
  match kind with
  | .list | .tuple => .ok (.sequence kind items)
  | .other name _ => (g.construct name items).mapError .rebuilding

mutual

/-- `_screen_result`. -/
def screenResult (depth : Nat) : Result → Except GatewayRaised (Screened Result)
  | .str s =>
    if 6 < depth then .ok ⟨.str s, [], none⟩
    else
      let screened := inspectOutput g.tables s
      if screened.blocked then .ok ⟨.str s, [screened], some screened⟩
      else .ok ⟨.str (if screened.redactionCount ≠ 0 then screened.sanitizedText.getD s else s),
        [screened], none⟩
  | .mapping entries =>
    if 6 < depth then .ok ⟨.mapping entries, [], none⟩
    else do
      let screened ← screenEntries (depth + 1) entries
      match screened.blocked with
      | some blocked => return ⟨.mapping entries, screened.collected, some blocked⟩
      | none => return ⟨.mapping screened.cleaned, screened.collected, none⟩
  | .sequence kind items =>
    if 6 < depth then .ok ⟨.sequence kind items, [], none⟩
    else do
      let screened ← screenItems (depth + 1) items
      match screened.blocked with
      | some blocked => return ⟨.sequence kind items, screened.collected, some blocked⟩
      | none => return ⟨← g.rebuild kind screened.cleaned, screened.collected, none⟩
  | .atom a => .ok ⟨.atom a, [], none⟩

def screenItems (depth : Nat) : List Result → Except GatewayRaised (Screened (List Result))
  | [] => .ok ⟨[], [], none⟩
  | r :: rs => do
    let first ← screenResult depth r
    match first.blocked with
    | some blocked => return ⟨[], first.collected, some blocked⟩
    | none =>
      let rest ← screenItems depth rs
      return ⟨first.cleaned :: rest.cleaned, first.collected ++ rest.collected, rest.blocked⟩

def screenEntries (depth : Nat) :
    List (Result × Result) → Except GatewayRaised (Screened (List (Result × Result)))
  | [] => .ok ⟨[], [], none⟩
  | (k, v) :: es => do
    let first ← screenResult depth v
    match first.blocked with
    | some blocked => return ⟨[], first.collected, some blocked⟩
    | none =>
      let rest ← screenEntries depth es
      return ⟨(k, first.cleaned) :: rest.cleaned, first.collected ++ rest.collected, rest.blocked⟩

end

/-- What refuses a call before its budget is looked at. -/
inductive Refusal where
  | deny (stage : Stage) (reason : DecisionReason)
  | raise (exception : GatewayRaised)

def admission (identity : AgentIdentity) (r : GatewayRequest I) :
    Except Refusal (BoundedTool W) := do
  let c := g.tables.conversions
  match ← (authorizeTool c r.package r.envelope r.toolName).mapError fun e =>
    .raise (.policy e) with
  | some denial => throw (.deny .policy (.policy denial))
  | none =>
    let route ← ofOption (.deny .routing (.noHandler r.toolName r.envelope.agentRole))
      (g.routes.lookup (r.envelope.agentRole, r.toolName))
    require (r.toolName ∈ identity.grantedTools) (.deny .policy (.notGranted r.toolName))
    match independenceBreach c identity r.arguments with
    | some breach => throw (.deny .independence (.independence breach.1 breach.2))
    | none =>
      require (c.truthy (get (declaredTool r.package r.toolName) "requires_human_confirmation") →
        PyString.truthy r.envelope.humanGate) (.deny .humanGate (.needsHumanGate r.toolName))
      return route

/-- `_record`, as the state with one more decision. -/
def record (ambient : GatewayAmbient) (r : GatewayRequest I) (identityId : Option String)
    (allowed : Bool) (stage : Stage) (reason : DecisionReason) (armor : List ArmorResult) :
    GatewayDecision where
  decisionId := "gwd_" ++ PyString.firstChars 16 ambient.hex
  allowed := allowed
  stage := stage
  reason := reason
  tenantId := r.envelope.tenantId
  agentRole := r.envelope.agentRole
  toolName := r.toolName
  taskId := r.envelope.taskId
  occurredAt := ambient.occurredAt
  identityId := identityId
  armor := armor

end AgentGateway

def GatewayState.addDecision (s : GatewayState W) (d : GatewayDecision) : GatewayState W :=
  { s with decisions := s.decisions ++ [d] }

def GatewayState.setBudget (s : GatewayState W) (taskId : String) (b : TaskBudget) :
    GatewayState W :=
  { s with budgets := Dict.set s.budgets taskId b }

namespace AgentGateway

variable (g : AgentGateway I W)

/-- The last steps: the handler is called, and what it returns is screened. -/
def execute (ambient : GatewayAmbient) (r : GatewayRequest I) (identity : AgentIdentity)
    (tool : BoundedTool W) (budget : TaskBudget) (argumentArmor : ArmorResult)
    (s : GatewayState W) : Except InvokeError Result × GatewayState W :=
  let deny (s : GatewayState W) (stage : Stage) (reason : DecisionReason)
      (armor : List ArmorResult) :=
    let decision := record ambient r (some identity.identityId) false stage reason armor
    (.error (.denied decision), s.addDecision decision)
  let (outcome, world) := tool.handler r.arguments identity r.envelope s.world
  let s := { s with
    world := world
    handled := s.handled ++ [⟨r.toolName, r.arguments, identity⟩] }
  match outcome with
  | .error exception => deny s .toolExecution (.raised exception) [argumentArmor]
  | .ok result =>
    match g.screenResult 0 result with
    | .error exception => (.error (.raised exception), s)
    | .ok screened =>
      match screened.blocked with
      | some blocked => deny s .modelArmor (.withheld blocked.findings)
        (argumentArmor :: screened.collected)
      | none =>
        (.ok screened.cleaned, s.addDecision (record ambient r (some identity.identityId) true
          .completed (.allowed budget.calls budget.tokens) (argumentArmor :: screened.collected)))

/-- `invoke`. -/
def invoke (ambient : GatewayAmbient) (r : GatewayRequest I) (s : GatewayState W) :
    Except InvokeError Result × GatewayState W :=
  let deny (s : GatewayState W) (identityId : Option String) (stage : Stage)
      (reason : DecisionReason) (armor : List ArmorResult) :=
    let decision := record ambient r identityId false stage reason armor
    (.error (.denied decision), s.addDecision decision)
  match g.verify r.signedIdentity r.envelope ambient.now with
  | .error (.raised exception) => (.error (.raised (.verification exception)), s)
  | .error (.refused text) => deny s none .identity (.identity text) []
  | .ok identity =>
    match g.admission identity r with
    | .error (.raise exception) => (.error (.raised exception), s)
    | .error (.deny stage reason) => deny s (some identity.identityId) stage reason []
    | .ok tool =>
      -- `setdefault`
      let budget := (s.budgets.lookup r.envelope.taskId).getD
        (TaskBudget.ofEnvelope r.envelope g.maxCallsPerTask)
      let s := s.setBudget r.envelope.taskId budget
      match budget.exceeded with
      | some exhausted => deny s (some identity.identityId) .budget
        (.exhausted exhausted budget.calls budget.tokens) []
      | none =>
        match inspectToolCall g.tables g.armor r.arguments identity.grantedEvidenceScopes
          identity.forbiddenActions with
        | .error e => (.error (.raised (.armor e)), s)
        | .ok argumentArmor =>
          if argumentArmor.blocked then
            deny s (some identity.identityId) .modelArmor (.arguments argumentArmor.findings)
              [argumentArmor]
          else
            let budget := budget.consume g.addCost r.estimatedTokens r.estimatedCostUsd
            execute g ambient r identity tool budget argumentArmor
              (s.setBudget r.envelope.taskId budget)

end AgentGateway

end Governance
