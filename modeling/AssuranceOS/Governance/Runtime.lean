/-
The governed agent runtime (`governance/runtime.py`): one run, from the evidence to the answer.

A run asks the model in rounds.  What the model requests goes through the gateway, what came back
is put before the model in the next round, and a reply that concludes is checked and screened.
The model, the issuer of credentials, the files of a package, `jsonschema` and `json.loads` are
functions of the runtime, and so is the prompt.  The bounds on rounds and on calls are counts.
-/
import AssuranceOS.Governance.Gateway
import AssuranceOS.Lib.Attempt
import AssuranceOS.Lib.JsonAscii
import Mathlib.Algebra.Ring.Int.Defs

namespace Governance

open JsonText Checked

structure EvidenceItem where
  evidenceId : String
  sourceType : String
  content : String

/-- `QualityContext`, as far as it is checked. -/
structure QualityContext where
  requiredControlTest : Option String := none

structure ModelResponse where
  text : String
  inputTokens : ℤ := 0
  outputTokens : ℤ := 0
  model : String := "unknown"
  finishReason : String := "stop"
  reasoning : String := ""

namespace ModelResponse

def truncated (r : ModelResponse) : Bool := r.finishReason = "length"

def reasoningOnly (r : ModelResponse) : Bool :=
  PyString.isBlank r.text && !PyString.isBlank r.reasoning

end ModelResponse

/-- What became of a requested call, with the data that is shown to the model. -/
inductive Outcome where
  | allowed (result : Result)
  | denied (decision : GatewayDecision)
  | repeated
  | notExecuted
  /-- of a reply, not of a call -/
  | rejected (problem : String)

structure Observation where
  tool : String
  arguments : Object
  outcome : Outcome

inductive RunStatus where
  | completed
  | denied
  | schemaInvalid
  | modelUnavailable
  | modelTruncated
  | contextExceeded
  | contextTruncated
  deriving DecidableEq

/-- A result; a denial is kept as its decision. -/
structure AgentRunResult where
  taskId : String
  agentRole : String
  status : RunStatus
  output : Option Object
  summary : String
  toolCalls : List String := []
  denials : List GatewayDecision := []
  armorResults : List ArmorResult := []
  modelName : String := "unknown"
  inputTokens : ℤ := 0
  outputTokens : ℤ := 0
  rawModelText : String := ""
  reasoning : String := ""
  truncated : Bool := false
  estimatedInputTokens : ℕ := 0
  contextWindowTokens : Option ℤ := none
  observations : List Observation := []
  toolRounds : ℕ := 0

/-- The arguments of `run`. -/
structure RunRequest where
  package : AgentPackage
  envelope : ExecutionEnvelope
  instruction : String
  evidence : List EvidenceItem := []
  releaseId : Option String := none
  independenceSubject : Option String := none
  independenceConstraints : List String := []
  quality : Option QualityContext := none

/-- What a prompt is made of. -/
structure PromptParts (I : Type) where
  package : AgentPackage
  envelope : ExecutionEnvelope
  instruction : String
  contextBlock : String
  signedIdentity : I
  observations : List Observation
  toolsAvailable : Bool

/-- An exception that leaves `run`. -/
inductive RunError where
  | issuing (exception : String)
  | systemPrompt (exception : String)
  | armor (error : ArmorError)
  | gateway (exception : GatewayRaised)
  | loads (exception : String)
  /-- of `int`, at the number of exceptions of a test run -/
  | exceptionCount
  /-- the assertion that there was a reply -/
  | noReply

/-- A runtime, with what it is built with and what it reads. -/
structure GovernedAgentRuntime (I W : Type) where
  gateway : AgentGateway I W
  issue : RunRequest → Except String I
  /-- the model: the system instruction, the prompt and the limit of the output -/
  generate : String → String → ℤ → W → Except String ModelResponse × W
  prompt : PromptParts I → String
  systemPrompt : AgentPackage → Except String String
  outputSchema : AgentPackage → Except String Value
  /-- what is wrong with an object by the schema -/
  jsonschema : Object → Object → Option String
  /-- `none` is a text that cannot be decoded -/
  loads : List Char → Except String (Option Value)
  /-- `str` of a mapping or a sequence -/
  containerText : Result → String
  /-- what the gateway draws on at a call -/
  ambient : ℕ → GatewayAmbient
  maxToolRounds : ℕ := 4
  maxCallsPerRound : ℕ := 8
  maxRepairRounds : ℤ := 1
  maxOutputTokens : ℤ := 4096
  contextWindowTokens : Option ℤ := none

/-- `len(text.split())` -/
def tokenFloor (text : String) : ℕ :=
  ((text.toList.splitOnP PyString.isSpace).filter fun word => word ≠ []).length

def estimateTokens (text : String) : ℕ :=
  if text = "" then 0 else max (max (text.length * 2 / 7) (tokenFloor text)) 1

/-- The object in a fenced block, from behind its opening brace: up to the first closing brace that
ends the block. -/
def fencedBody : List Char → Option (List Char)
  | [] => none
  | c :: cs =>
    if c = '\x7d' ∧ ['`', '`', '`'] <+: cs.dropWhile PyString.isSpace then some [c]
    else (fencedBody cs).map (c :: ·)

def fencedBlock (cs : List Char) : Option (List Char) :=
  if ['`', '`', '`'] <+: cs then
    let rest := cs.drop 3
    let rest := if ['j', 's', 'o', 'n'] <+: rest then rest.drop 4 else rest
    match rest.dropWhile PyString.isSpace with
    | '\x7b' :: body => (fencedBody body).map ('\x7b' :: ·)
    | _ => none
  else none

/-- `_JSON_BLOCK.search`, by the first place where there is a block. -/
def searchBlock : List Char → Option (List Char)
  | [] => none
  | c :: cs => (fencedBlock (c :: cs)).orElse fun _ => searchBlock cs

/-- `_BARE_OBJECT.search`: from the first opening brace to the last closing one behind it. -/
def bareObject (cs : List Char) : Option (List Char) :=
  let found := (cs.dropWhile fun c => c ≠ '\x7b').rdropWhile fun c => c ≠ '\x7d'
  if found = [] then none else some found

/-- `str(value or "")` -/
def textOr (c : Conversions) (v : Value) : String :=
  if c.truthy v then c.str v else ""

/-- `_requested_calls` -/
def requestedCalls (parsed : Object) : List Object :=
  match get parsed "tool_calls" with
  | .arr calls => calls.filterMap asObject
  | _ => []

/-- `str(call.get("tool") or call.get("name") or "")` -/
def requestedTool (c : Conversions) (call : Object) : String :=
  if c.truthy (get call "tool") then c.str (get call "tool") else textOr c (get call "name")

/-- `call.get("arguments") or call.get("args") or {}`, where it is a mapping. -/
def requestedArguments (c : Conversions) (call : Object) : Object :=
  let arguments := if c.truthy (get call "arguments") then get call "arguments" else get call "args"
  (asObject arguments).getD []

/-- What a call is known by: the tool, and the arguments as JSON with its keys in order. -/
structure CallSignature where
  tool : String
  arguments : List Char
  deriving DecidableEq

def signatureOf (tool : String) (arguments : Object) : CallSignature where
  tool := tool
  arguments := dumpsSpaced (.obj arguments)

/-- `_wants_more_tools` -/
def wantsMoreTools (t : ArmorTables) (parsed : Object) (requested : List Object) : Bool :=
  let nextAction := PyString.strip (textOr t.conversions (get parsed "next_action"))
  !requested.isEmpty &&
    (PyString.lower t.unicode nextAction = "use_tools" ||
      match get parsed "conclusion" with
      | .str conclusion => PyString.isBlank conclusion
      | _ => true)

namespace Atom

def text (c : Conversions) : Atom → String
  | .null => c.str .null
  | .bool b => c.str (.bool b)
  | .int n => c.str (.int n)
  | .float literal => c.str (.float literal)
  | .object o => o.text

def truthy (c : Conversions) : Atom → Bool
  | .null => false
  | .bool b => b
  | .int n => n ≠ 0
  | .float literal => c.truthy (.float literal)
  | .object o => o.truthy

/-- `int(value)` -/
def toInt (c : Conversions) : Atom → Option ℤ
  | .null => none
  | .bool b => some (if b then 1 else 0)
  | .int n => some n
  | .float literal => c.intOfFloat literal
  | .object o => o.int

end Atom

namespace Result

/-- `bool(value)` -/
def truthy (c : Conversions) : Result → Bool
  | .str s => s ≠ ""
  | .atom a => a.truthy c
  | .sequence _ items => !items.isEmpty
  | .mapping entries => !entries.isEmpty

/-- `int(value)` -/
def toInt (c : Conversions) : Result → Option ℤ
  | .str s => c.intOfString s
  | .atom a => a.toInt c
  | .sequence _ _ | .mapping _ => none

def listItems : Result → Option (List Result)
  | .sequence .list items | .sequence (.other _ true) items => some items
  | _ => none

def isKey (key : String) : Result → Bool
  | .str s => s = key
  | _ => false

/-- `entries.get(key)` -/
def getKey (entries : List (Result × Result)) (key : String) : Result :=
  ((entries.find? fun e => e.1.isKey key).map Prod.snd).getD (.atom .null)

end Result

/-! ### The checks of a reply -/

/-- The conclusions that need a test and evidence behind them. -/
def conclusive : List String := ["effective", "ineffective"]

def typeName : Value → String
  | .null => "NoneType"
  | .bool _ => "bool"
  | .int _ => "int"
  | .float _ => "float"
  | .str _ => "str"
  | .arr _ => "list"
  | .obj _ => "dict"

def unhashable : Value → Bool
  | .arr _ | .obj _ => true
  | _ => false

namespace GovernedAgentRuntime

variable {I W : Type} (rt : GovernedAgentRuntime I W)

def conversions : Conversions := rt.gateway.tables.conversions

/-- `str(value)` -/
def text : Result → String
  | .str s => s
  | .atom a => a.text rt.conversions
  | r => rt.containerText r

def idsAt (key value : Result) : Option (List String) :=
  if key.isKey "evidence_id" then
    match value with
    | .str id => if id = "" then none else some [id]
    | _ => none
  else if key.isKey "evidence_ids" then
    value.listItems.map fun items => (items.filter fun r => r.truthy rt.conversions).map rt.text
  else none

mutual

def evidenceIds (depth : Nat) : Result → List String
  | .mapping entries => if 6 < depth then [] else entryIds depth entries
  | .sequence _ items => if 6 < depth then [] else itemIds depth items
  | .str _ | .atom _ => []

def itemIds (depth : Nat) : List Result → List String
  | [] => []
  | r :: rs => evidenceIds (depth + 1) r ++ itemIds depth rs

def entryIds (depth : Nat) : List (Result × Result) → List String
  | [] => []
  | (k, v) :: es => (rt.idsAt k v).getD (evidenceIds (depth + 1) v) ++ entryIds depth es

end

/-- `_observed_evidence_ids` -/
def observedEvidenceIds (observations : List Observation) : List String :=
  observations.flatMap fun o =>
    match o.outcome with
    | .allowed result => rt.evidenceIds 0 result
    | _ => []

def schemaProblem (package : AgentPackage) (parsed : Object) : Option String :=
  match rt.outputSchema package with
  | .error exception => some exception
  | .ok (.obj schema) =>
    match get schema "required" with
    | .arr required =>
      match required.find? unhashable with
      | some v => some ("TypeError: unhashable type: '" ++ typeName v ++ "'")
      | none =>
        if required.all fun v => (asString v).any fun key => parsed.any fun e => e.1 = key then
          rt.jsonschema schema parsed
        else none
    | _ => none
  | .ok schema => some ("AttributeError: '" ++ typeName schema ++ "' object has no attribute 'get'")

def citedIds (parsed : Object) : List String :=
  match get parsed "evidence_ids" with
  | .arr cited => cited.map rt.conversions.str
  | _ => []

def citationProblem (conclusion : String) (cited citable : List String) : Option String :=
  if conclusion ∈ conclusive then
    if cited = [] then some ("conclusion '" ++ conclusion ++ "' cites no evidence")
    else
      let unresolved := (cited.filter fun id => id ∉ citable).dedup.insertionSort (· ≤ ·)
      if citable ≠ [] ∧ unresolved ≠ [] then
        some ("conclusion '" ++ conclusion ++
          "' cites evidence that was never supplied to this task: " ++ ", ".intercalate unresolved)
      else none
  else none

/-- `_validate_output`, as the problem of a reply that is not valid. -/
def validateOutput (package : AgentPackage) (parsed : Object) (citable : List String) :
    Option String :=
  match get parsed "conclusion" with
  | .str conclusion =>
    if conclusion = "" then some "missing conclusion"
    else
      match rt.schemaProblem package parsed with
      | some exception => some ("schema validation failed: " ++ exception)
      | none => citationProblem conclusion (rt.citedIds parsed) citable
  | _ => some "missing conclusion"

def testRuns (observations : List Observation) : List (List (Result × Result)) :=
  observations.filterMap fun o =>
    match o.outcome with
    | .allowed (.mapping entries) => if o.tool = "tests.execute" then some entries else none
    | _ => none

/-- `sum(int(run.get("exception_count") or 0) for run in runs)` -/
def exceptionTotal (runs : List (List (Result × Result))) : Except RunError ℤ := do
  let counts ← runs.mapM fun run =>
    let count := Result.getKey run "exception_count"
    if count.truthy rt.conversions then ofOption .exceptionCount (count.toInt rt.conversions)
    else .ok 0
  return counts.sum

/-- The conclusion, without blanks around it and in lower case. -/
def plainConclusion (parsed : Object) : String :=
  PyString.lower rt.gateway.tables.unicode
    (PyString.strip (textOr rt.conversions (get parsed "conclusion")))

/-- The last rule: whoever concludes against a control asks for approval. -/
def approvalProblem (conclusion : String) (parsed : Object) : Option String :=
  if conclusion = "ineffective" then
    match get parsed "requires_human_approval" with
    | .bool true => none
    | _ => some ("an adverse conclusion is a proposal, not a decision. Set " ++
        "requires_human_approval to true.")
  else none

/-- `_review_output`, as the problem of a reply that is not valid. -/
def reviewOutput (parsed : Object) (observations : List Observation) :
    Option QualityContext → Except RunError (Option String)
  | none => .ok none
  | some quality =>
    let conclusion := rt.plainConclusion parsed
    let runs := testRuns observations
    if PyString.truthy quality.requiredControlTest ∧ runs = [] ∧ conclusion ∈ conclusive then
      .ok (some ("this step is pinned to the signed procedure " ++
        quality.requiredControlTest.getD "" ++ ", and it was never executed. " ++
        "Call tests.execute and conclude from its result, or conclude " ++
        "'insufficient_evidence' and say the procedure did not run."))
    else if conclusion = "effective" then do
      let exceptions ← rt.exceptionTotal runs
      return if exceptions ≠ 0 then
        some ("the signed procedure returned " ++ toString exceptions ++ " exception(s) and you " ++
          "concluded 'effective'. An exception is not a finding, but it is " ++
          "also not nothing: conclude 'ineffective' and classify them, or " ++
          "conclude 'insufficient_evidence' if you cannot.")
      else none
    else .ok (approvalProblem conclusion parsed)

def problemOf (request : RunRequest) (parsed : Object) (observations : List Observation) :
    Except RunError (Option String) :=
  match rt.validateOutput request.package parsed
      (request.evidence.map EvidenceItem.evidenceId ++ rt.observedEvidenceIds observations) with
  | some problem => .ok (some problem)
  | none => rt.reviewOutput parsed observations request.quality

/-- `extract_json_object` -/
def extractJsonObject (text : String) : Except String (Option Object) :=
  if text = "" then .ok none
  else do
    let found ← match (searchBlock text.toList).orElse fun _ => bareObject text.toList with
      | none => .ok none
      | some blob => rt.loads blob
    match found with
    | some (.obj entries) => return some entries
    | _ =>
      let whole ← rt.loads (PyString.strip text).toList
      return whole.bind asObject

end GovernedAgentRuntime

/-! ### The state of a run -/

/-- A call that has reached the gateway. -/
structure Invocation where
  /-- the index of the round -/
  round : ℕ
  tool : String
  arguments : Object
  /-- where the gateway has allowed the call -/
  returned : Option Result

/-- What repeated calls are told by. -/
def Invocation.signature (x : Invocation) : CallSignature :=
  signatureOf x.tool x.arguments

/-- Which text of the model is screened. -/
inductive ScreenedText where
  | modelReasoning
  | outboundText
  deriving DecidableEq

/-- The variables of `run`.  `invoked` and `screenings` trace which calls have reached the gateway
and which texts of the model the armor has inspected. -/
structure RunState (W : Type) where
  gateway : GatewayState W
  repairsLeft : ℤ
  armorResults : List ArmorResult := []
  toolCalls : List String := []
  denials : List GatewayDecision := []
  observations : List Observation := []
  reasoning : String := ""
  /-- `response` and `parsed` -/
  reply : Option (ModelResponse × Object) := none
  estimatedInput : ℕ := 0
  roundsUsed : ℕ := 0
  firstProblem : String := ""
  alreadyInvoked : List CallSignature := []
  invoked : List Invocation := []
  screenings : List (ScreenedText × String) := []

/-- How `run` is left before its end. -/
inductive Exit where
  | returned (result : AgentRunResult)
  | raised (error : RunError)

abbrev Run (W : Type) := Attempt (RunState W) Exit

/-- What a run works with throughout. -/
structure RunContext (I : Type) where
  request : RunRequest
  signedIdentity : I
  contextBlock : String
  systemInstruction : String
  outputBudget : ℤ

/-- How a round ends. -/
inductive Flow where
  | next
  | stop

namespace GovernedAgentRuntime

variable {I W : Type} (rt : GovernedAgentRuntime I W)

/-- `_failed` -/
def failed (ctx : RunContext I) (response : ModelResponse) (status : RunStatus) (summary : String)
    (toolRounds : ℕ) (s : RunState W) : AgentRunResult where
  taskId := ctx.request.envelope.taskId
  agentRole := ctx.request.envelope.agentRole
  status := status
  output := none
  summary := summary
  toolCalls := s.toolCalls
  denials := s.denials
  armorResults := s.armorResults
  modelName := response.model
  inputTokens := response.inputTokens
  outputTokens := response.outputTokens
  rawModelText := response.text
  reasoning := s.reasoning
  truncated := response.truncated
  estimatedInputTokens := s.estimatedInput
  contextWindowTokens := rt.contextWindowTokens
  observations := s.observations
  toolRounds := toolRounds

/-- `return _failed(…)` -/
def fail (ctx : RunContext I) (response : ModelResponse) (status : RunStatus) (summary : String)
    (toolRounds : ℕ) : Run W Unit := fun s =>
  (.error (.returned (rt.failed ctx response status summary toolRounds s)), s)

/-- `_prepare_context`: the blocks of the evidence and how it was screened. -/
def prepareContext (evidence : List EvidenceItem) :
    Except ArmorError (String × List ArmorResult) := do
  let screened ← evidence.mapM fun item =>
    inspectContext rt.gateway.tables item.content item.evidenceId
  let blocks := (evidence.zip screened).map fun (item, result) =>
    "evidence_id: " ++ item.evidenceId ++ "\n" ++ "source_type: " ++ item.sourceType ++ "\n" ++
      "content:\n" ++ result.sanitizedText.getD ""
  return ("\n\n---\n\n".intercalate blocks, screened)

def raising {α ε : Type} (error : ε → RunError) (x : Except ε α) : Run W α :=
  Attempt.lift (x.mapError fun exception => .raised (error exception))

def prepare (request : RunRequest) : Run W (RunContext I) := do
  let signedIdentity ← raising .issuing (rt.issue request)
  let (contextBlock, inbound) ← raising .armor (rt.prepareContext request.evidence)
  Attempt.modify fun s => { s with armorResults := s.armorResults ++ inbound }
  let systemInstruction ← raising .systemPrompt (rt.systemPrompt request.package)
  return {
    request := request
    signedIdentity := signedIdentity
    contextBlock := contextBlock
    systemInstruction := systemInstruction
    outputBudget := min rt.maxOutputTokens request.envelope.tokenBudget }

/-! ### One round -/

variable (ctx : RunContext I) (i : ℕ)

/-- The prompt of a round; in the last one no tools are available. -/
def roundPrompt (s : RunState W) : String :=
  rt.prompt {
    package := ctx.request.package
    envelope := ctx.request.envelope
    instruction := ctx.request.instruction
    contextBlock := ctx.contextBlock
    signedIdentity := ctx.signedIdentity
    observations := s.observations
    toolsAvailable := i ≠ rt.maxToolRounds }

/-- The estimate of what the model has to read, and the refusal where it does not fit. -/
def checkContext (prompt : String) : Run W Unit := fun s =>
  let estimated := estimateTokens ctx.systemInstruction + estimateTokens prompt
  let s := { s with estimatedInput := estimated }
  let required := estimated + ctx.outputBudget
  match rt.contextWindowTokens with
  | none => (.ok (), s)
  | some window =>
    if window ≠ 0 ∧ window < required then
      (.error (.returned {
        taskId := ctx.request.envelope.taskId
        agentRole := ctx.request.envelope.agentRole
        status := .contextExceeded
        output := none
        summary := "the task needs about " ++ toString required ++ " tokens (" ++
          toString estimated ++ " of instruction, evidence and " ++
          toString s.observations.length ++ " tool results, plus " ++
          toString ctx.outputBudget ++ " reserved for the answer) and the deployed model serves " ++
          toString window ++ ". Nothing was trimmed to fit: raise the served context window or " ++
          "split the population across tasks."
        toolCalls := s.toolCalls
        denials := s.denials
        armorResults := s.armorResults
        reasoning := s.reasoning
        estimatedInputTokens := estimated
        contextWindowTokens := rt.contextWindowTokens
        toolRounds := i }), s)
    else (.ok (), s)

def askModel (prompt : String) : Run W ModelResponse := fun s =>
  let (outcome, world) :=
    rt.generate ctx.systemInstruction prompt ctx.outputBudget s.gateway.world
  let s := { s with gateway := { s.gateway with world := world } }
  match outcome with
  | .ok response => (.ok response, s)
  | .error exception => (.error (.returned {
      taskId := ctx.request.envelope.taskId
      agentRole := ctx.request.envelope.agentRole
      status := .modelUnavailable
      output := none
      summary := "model call failed: " ++ exception
      toolCalls := s.toolCalls
      denials := s.denials
      armorResults := s.armorResults
      toolRounds := i }), s)

/-- A server that reports fewer tokens than nine tenths of the words has not read them all. -/
def checkRead (prompt : String) (response : ModelResponse) : Run W Unit :=
  let sentFloor := tokenFloor prompt
  if response.inputTokens ≠ 0 ∧ 10 * response.inputTokens < 9 * sentFloor then
    rt.fail ctx response .contextTruncated
      ("the server reported reading " ++ toString response.inputTokens ++ " prompt " ++
        "tokens from a prompt that cannot encode to fewer than " ++ toString sentFloor ++
        ". Evidence was dropped before the model saw it, " ++
        "so any conclusion would rest on an unknown subset of the " ++
        "population. Raise the served context window.") i
  else pure ()

def joinLines (parts : List String) : String :=
  "\n".intercalate (parts.filter fun part => part ≠ "")

/-- What the model has deliberated is kept as far as the armor lets it pass. -/
def keepReasoning (response : ModelResponse) : Run W Unit :=
  if response.reasoning = "" then pure ()
  else
    let screened := inspectOutput rt.gateway.tables response.reasoning
    let kept := if screened.blocked then "" else screened.sanitizedText.getD ""
    Attempt.modify fun s => { s with
      armorResults := s.armorResults ++ [screened]
      reasoning := joinLines [s.reasoning, kept]
      screenings := s.screenings ++ [(.modelReasoning, response.reasoning)] }

def checkAnswered (response : ModelResponse) : Run W Unit :=
  if response.truncated ∧ PyString.isBlank response.text then
    rt.fail ctx response .modelTruncated
      ("model reached the output ceiling before committing an answer" ++
        if response.reasoningOnly then
          "; the budget was spent on " ++ toString response.outputTokens ++ " tokens " ++
            "of deliberation. Raise the output budget for this " ++
            "reasoning model."
        else ".") i
  else pure ()

/-- The object in the reply, which becomes the reply of the run. -/
def readReply (response : ModelResponse) : Run W Object := fun s =>
  match rt.extractJsonObject response.text with
  | .error exception => (.error (.raised (.loads exception)), s)
  | .ok (some parsed) => (.ok parsed, { s with reply := some (response, parsed) })
  | .ok none =>
    (.error (.returned (rt.failed ctx response
      (if response.truncated then .modelTruncated else .schemaInvalid)
      (if response.truncated then "model reply was cut off before a complete JSON object"
        else "model reply contained no JSON object") i s)), s)

def invokeCall (response : ModelResponse) (call : Object) : Run W Observation := fun s =>
  let name := requestedTool rt.conversions call
  let arguments := requestedArguments rt.conversions call
  let signature := signatureOf name arguments
  let observe (outcome : Outcome) : Observation := ⟨name, arguments, outcome⟩
  if signature ∈ s.alreadyInvoked then (.ok (observe .repeated), s)
  else
    let s := { s with alreadyInvoked := signature :: s.alreadyInvoked }
    if i = rt.maxToolRounds then (.ok (observe .notExecuted), s)
    else
      let (outcome, gateway) := rt.gateway.invoke (rt.ambient s.invoked.length) {
        signedIdentity := ctx.signedIdentity
        envelope := ctx.request.envelope
        package := ctx.request.package
        toolName := name
        arguments := arguments
        estimatedTokens := response.outputTokens } s.gateway
      let s := { s with
        gateway := gateway
        invoked := s.invoked ++ [⟨i, name, arguments, outcome.toOption⟩] }
      match outcome with
      | .ok result =>
        (.ok (observe (.allowed result)), { s with toolCalls := s.toolCalls ++ [name] })
      | .error (.denied decision) =>
        (.ok (observe (.denied decision)), { s with
          denials := s.denials ++ [decision]
          armorResults := s.armorResults ++ decision.armor })
      | .error (.raised exception) => (.error (.raised (.gateway exception)), s)

/-- `_invoke_requested` -/
def invokeRequested (response : ModelResponse) (requested : List Object) :
    Run W (List Observation) :=
  Attempt.forEach (fun observed call => do
    let observation ← rt.invokeCall ctx i response call
    return observed ++ [observation]) (requested.take rt.maxCallsPerRound) []

/-- A concluding reply is checked, and what is wrong with it goes back to the model as long as there
are rounds and repairs. -/
def checkReply (parsed : Object) : Run W Flow := fun s =>
  match rt.problemOf ctx.request parsed s.observations with
  | .error error => (.error (.raised error), s)
  | .ok none => (.ok .stop, s)
  | .ok (some problem) =>
    let s := { s with firstProblem := if s.firstProblem = "" then problem else s.firstProblem }
    if i = rt.maxToolRounds ∨ s.repairsLeft ≤ 0 then (.ok .stop, s)
    else (.ok .next, { s with
      repairsLeft := s.repairsLeft - 1
      observations := s.observations ++ [⟨"output.validation", [], .rejected problem⟩] })

def reply : Run W (ModelResponse × Object) := do
  Attempt.modify fun s => { s with roundsUsed := i + 1 }
  let s ← Attempt.get
  rt.checkContext ctx i (rt.roundPrompt ctx i s)
  let response ← rt.askModel ctx i (rt.roundPrompt ctx i s)
  rt.checkRead ctx i (rt.roundPrompt ctx i s) response
  rt.keepReasoning response
  rt.checkAnswered ctx i response
  let parsed ← rt.readReply ctx i response
  return (response, parsed)

/-- A round of the loop; where the model wants more, the next one follows at once. -/
def round : Run W Flow := do
  let (response, parsed) ← rt.reply ctx i
  let observed ← rt.invokeRequested ctx i response (requestedCalls parsed)
  Attempt.modify fun s => { s with observations := s.observations ++ observed }
  if i ≠ rt.maxToolRounds ∧ wantsMoreTools rt.gateway.tables parsed (requestedCalls parsed) then
    return .next
  else rt.checkReply ctx i parsed

def rounds : List ℕ → Run W Unit
  | [] => pure ()
  | i :: is => do
    match ← rt.round ctx i with
    | .next => rounds is
    | .stop => pure ()

/-- The summary of a reply is screened: the reply with what the armor has left of it. -/
def screenSummary (response : ModelResponse) (parsed : Object) : Run W (Object × String) := fun s =>
  let summary := textOr rt.conversions (get parsed "summary")
  if summary = "" then (.ok (parsed, summary), s)
  else
    let outbound := inspectOutput rt.gateway.tables summary
    let s := { s with
      armorResults := s.armorResults ++ [outbound]
      screenings := s.screenings ++ [(.outboundText, summary)] }
    if outbound.blocked then
      (.error (.returned (rt.failed ctx response .denied
        "generated summary withheld: secret material detected" s.roundsUsed s)), s)
    else if outbound.redactionCount ≠ 0 then
      let cleaned := outbound.sanitizedText.getD ""
      (.ok (assign parsed "summary" (.str cleaned), cleaned), s)
    else (.ok (parsed, summary), s)

def accept (response : ModelResponse) (parsed : Object) (summary : String) :
    Run W AgentRunResult := fun s =>
  match rt.problemOf ctx.request parsed s.observations with
  | .error error => (.error (.raised error), s)
  | .ok (some problem) =>
    let reported := if s.firstProblem = "" then problem else s.firstProblem
    let attempted := if s.firstProblem ≠ "" ∧ s.firstProblem ≠ problem then
      " (a correction was attempted and refused as well)" else ""
    (.ok (rt.failed ctx response .schemaInvalid
      ("output rejected by released schema: " ++ reported ++ attempted) s.roundsUsed s), s)
  | .ok none =>
    (.ok { rt.failed ctx response .completed
        (if summary = "" then "completed" else summary) s.roundsUsed s with
      output := some parsed }, s)

def conclude : Run W AgentRunResult := do
  let s ← Attempt.get
  match s.reply with
  | none => Attempt.raise (.raised .noReply)
  | some (response, parsed) => do
    let (parsed, summary) ← rt.screenSummary ctx response parsed
    rt.accept ctx response parsed summary

def perform (request : RunRequest) : Run W AgentRunResult := do
  let ctx ← rt.prepare request
  rt.rounds ctx (List.range (rt.maxToolRounds + 1))
  rt.conclude ctx

/-- `run` -/
def run (request : RunRequest) (gateway : GatewayState W) :
    Except RunError AgentRunResult × RunState W :=
  match (rt.perform request).run { gateway := gateway, repairsLeft := rt.maxRepairRounds } with
  | (.ok result, s) | (.error (.returned result), s) => (.ok result, s)
  | (.error (.raised error), s) => (.error error, s)

end GovernedAgentRuntime

end Governance
