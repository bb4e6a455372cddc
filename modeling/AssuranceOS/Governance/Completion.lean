/-
How a run comes to be completed.

Only the end of a run completes it: the last reply is valid, its summary has been screened, and what
was put before the model as the result of a call has come back from a call that the gateway has
allowed in this run (`Completes`, `completes_of_run`).
-/
import AssuranceOS.Governance.RunCalls

namespace Governance

open JsonText

variable {I W : Type}

/-- `str(parsed.get("summary") or "")` -/
def summaryOf (t : ArmorTables) (reply : Object) : String :=
  textOr t.conversions (get reply "summary")

def acceptedReply (t : ArmorTables) (reply : Object) : Object :=
  let screened := inspectOutput t (summaryOf t reply)
  if summaryOf t reply ≠ "" ∧ screened.redactionCount ≠ 0 then
    assign reply "summary" (.str (screened.sanitizedText.getD ""))
  else reply

namespace GovernedAgentRuntime

variable {rt : GovernedAgentRuntime I W} {ctx : RunContext I} {i : ℕ} {response : ModelResponse}

theorem invokeCall_answersNothing {call : Object} (s : RunState W) :
    ((rt.invokeCall ctx i response call).run s).2.record.outbound = s.record.outbound ∧
      ∀ e, ((rt.invokeCall ctx i response call).run s).1 = .error e → e.Unfinished := by
  show ((rt.invokeCall ctx i response call) s).2.record.outbound = s.record.outbound ∧
    ∀ e, ((rt.invokeCall ctx i response call) s).1 = .error e → e.Unfinished
  unfold invokeCall
  dsimp only
  split
  · exact ⟨rfl, fun _ h => nomatch h⟩
  · split
    · exact ⟨rfl, fun _ h => nomatch h⟩
    · split
      · exact ⟨rfl, fun _ h => nomatch h⟩
      · exact ⟨rfl, fun _ h => nomatch h⟩
      · refine ⟨rfl, fun e h => ?_⟩
        cases h
        trivial

variable {requested : List Object} {request : RunRequest}

theorem invokeRequested_outbound (texts : List String) :
    (rt.invokeRequested ctx i response requested).Keeps fun s => s.record.outbound = texts := by
  refine Attempt.keeps_forEach (fun observed call => ?_) _ _
  refine Attempt.Keeps.bind (fun s hs => ?_) fun _ => Attempt.keeps_pure _
  rw [(invokeCall_answersNothing s).1]
  exact hs

theorem invokeRequested_exits :
    (rt.invokeRequested ctx i response requested).Exits Exit.Unfinished := by
  refine Attempt.exits_forEach (fun observed call => ?_) _ _
  exact Attempt.Exits.bind (fun s => (invokeCall_answersNothing s).2) fun _ =>
    Attempt.exits_pure _

theorem round_outbound (texts : List String) :
    (rt.round ctx i).Keeps fun s => s.record.outbound = texts := by
  refine (reply_quiet.keeps fun c => c.outbound = texts).bind fun _ => ?_
  refine (invokeRequested_outbound texts).bind fun observed => ?_
  exact Attempt.Keeps.bind (fun _ h => h) fun _ => finish_quiet.keeps fun c => c.outbound = texts

theorem round_exits : (rt.round ctx i).Exits Exit.Unfinished := by
  refine reply_quiet.exits.bind fun _ => invokeRequested_exits.bind fun observed => ?_
  exact Attempt.Exits.bind (fun _ _ h => nomatch h) fun _ => finish_quiet.exits

theorem rounds_outbound (texts : List String) :
    ∀ is : List ℕ, (rt.rounds ctx is).Keeps fun s => s.record.outbound = texts := by
  intro is
  induction is with
  | nil => exact Attempt.keeps_pure _
  | cons i is ih =>
    refine (round_outbound texts).bind fun flow => ?_
    cases flow with
    | next => exact ih
    | stop => exact Attempt.keeps_pure _

theorem rounds_exits : ∀ is : List ℕ, (rt.rounds ctx is).Exits Exit.Unfinished := by
  intro is
  induction is with
  | nil => exact Attempt.exits_pure _
  | cons i is ih =>
    refine round_exits.bind fun flow => ?_
    cases flow with
    | next => exact ih
    | stop => exact Attempt.exits_pure _

variable {parsed : Object} {summary : String} {s s' : RunState W}

theorem screenSummary_eq_ok {reply : Object}
    (h : (rt.screenSummary ctx response reply).run s = (.ok (parsed, summary), s')) :
    s'.reply = s.reply ∧ parsed = acceptedReply rt.gateway.tables reply ∧
      s'.record.outbound = s.record.outbound ++
        (if summaryOf rt.gateway.tables reply = "" then [] else [summaryOf rt.gateway.tables reply]) ∧
      (summaryOf rt.gateway.tables reply ≠ "" →
        (inspectOutput rt.gateway.tables (summaryOf rt.gateway.tables reply)).blocked = false) := by
  have h : (rt.screenSummary ctx response reply) s = (.ok (parsed, summary), s') := h
  unfold screenSummary at h
  dsimp only at h
  split at h
  · rename_i hempty
    have hempty : summaryOf rt.gateway.tables reply = "" := hempty
    cases h
    refine ⟨rfl, ?_, by simp [hempty], fun hne => absurd hempty hne⟩
    unfold acceptedReply
    simp [hempty]
  · rename_i hne
    have hne : summaryOf rt.gateway.tables reply ≠ "" := hne
    have houtbound : ∀ s₁ : RunState W, s₁.screenings = s.screenings ++
        [(.outboundText, summaryOf rt.gateway.tables reply)] →
        s₁.record.outbound = s.record.outbound ++ (if summaryOf rt.gateway.tables reply = "" then []
          else [summaryOf rt.gateway.tables reply]) := by
      intro s₁ hs₁
      simp [RunState.record, hs₁, hne]
    split at h
    · cases h
    · rename_i hpassed
      have hblocked : (inspectOutput rt.gateway.tables
          (summaryOf rt.gateway.tables reply)).blocked = false := Bool.eq_false_iff.mpr hpassed
      split at h
      · rename_i hredacted
        cases h
        refine ⟨rfl, ?_, houtbound _ rfl, fun _ => hblocked⟩
        exact (if_pos ⟨hne, hredacted⟩).symm
      · rename_i hplain
        cases h
        refine ⟨rfl, ?_, houtbound _ rfl, fun _ => hblocked⟩
        exact (if_neg fun h => hplain h.2).symm

theorem accept_completed {result : AgentRunResult}
    (h : (rt.accept ctx response parsed summary).run s = (.ok result, s'))
    (hdone : result.status = .completed) :
    rt.problemOf ctx.request parsed s.observations = .ok none ∧ result.output = some parsed ∧
      s' = s := by
  have h : (rt.accept ctx response parsed summary) s = (.ok result, s') := h
  unfold accept at h
  split at h
  · cases h
  · cases h
    cases hdone
  · rename_i hvalid
    cases h
    exact ⟨hvalid, rfl, rfl⟩

theorem screenSummary_exits :
    (rt.screenSummary ctx response parsed).Exits Exit.Unfinished := by
  intro s e h
  have h : ((rt.screenSummary ctx response parsed) s).1 = .error e := h
  unfold screenSummary at h
  dsimp only at h
  split at h
  · cases h
  · split at h
    · cases h
      exact fun h => nomatch h
    · split at h
      · cases h
      · cases h

theorem accept_exits :
    (rt.accept ctx response parsed summary).Exits Exit.Unfinished := by
  intro s e h
  have h : ((rt.accept ctx response parsed summary) s).1 = .error e := h
  unfold accept at h
  split at h
  · cases h
    trivial
  · cases h
  · cases h

theorem conclude_exits : (rt.conclude ctx).Exits Exit.Unfinished := by
  refine Attempt.Exits.bind Quiet.get.exits fun s => ?_
  split
  · intro s e h
    cases h
    trivial
  · exact screenSummary_exits.bind fun _ => accept_exits

theorem perform_exits : (rt.perform request).Exits Exit.Unfinished :=
  prepare_quiet.exits.bind fun _ => (rounds_exits _).bind fun _ => conclude_exits

theorem prepare_request (h : (rt.prepare request).run s = (.ok ctx, s')) :
    ctx.request = request := by
  obtain ⟨signedIdentity, s₁, -, h⟩ := Attempt.run_bind_eq_ok.mp h
  obtain ⟨context, s₂, -, h⟩ := Attempt.run_bind_eq_ok.mp h
  dsimp only at h
  obtain ⟨-, s₃, -, h⟩ := Attempt.run_bind_eq_ok.mp h
  obtain ⟨systemInstruction, s₄, -, h⟩ := Attempt.run_bind_eq_ok.mp h
  cases h
  rfl

end GovernedAgentRuntime

/-- What the observation says to have come back has come back from one of the calls. -/
def Observation.BackedBy (o : Observation) (invoked : List Invocation) : Prop :=
  ∀ result, o.outcome = .allowed result →
    ∃ x ∈ invoked, x.tool = o.tool ∧ x.arguments = o.arguments ∧ x.returned = some result

theorem Observation.BackedBy.mono {o : Observation} {invoked more : List Invocation}
    (h : o.BackedBy invoked) : o.BackedBy (invoked ++ more) := by
  intro result hresult
  obtain ⟨x, hx, hcall⟩ := h result hresult
  exact ⟨x, List.mem_append_left _ hx, hcall⟩

def Backed (c : RunRecord) : Prop := ∀ o ∈ c.results, o.BackedBy c.invoked

namespace GovernedAgentRuntime

variable {rt : GovernedAgentRuntime I W} {ctx : RunContext I} {i : ℕ} {response : ModelResponse}

theorem invokeCall_spec {call : Object} {s s' : RunState W} {o : Observation}
    (h : (rt.invokeCall ctx i response call).run s = (.ok o, s')) :
    s'.record.results = s.record.results ∧ (∃ more, s'.invoked = s.invoked ++ more) ∧
      o.BackedBy s'.invoked := by
  have h : (rt.invokeCall ctx i response call) s = (.ok o, s') := h
  unfold invokeCall at h
  dsimp only at h
  split at h
  · cases h
    exact ⟨rfl, ⟨[], (List.append_nil _).symm⟩, fun _ h => nomatch h⟩
  · split at h
    · cases h
      exact ⟨rfl, ⟨[], (List.append_nil _).symm⟩, fun _ h => nomatch h⟩
    · split at h
      · rename_i result heq
        cases h
        refine ⟨rfl, ⟨_, rfl⟩, fun result' hresult => ?_⟩
        cases hresult
        refine ⟨_, List.mem_append_right _ (List.mem_singleton.mpr rfl), rfl, rfl, ?_⟩
        rw [heq]
        rfl
      · cases h
        exact ⟨rfl, ⟨_, rfl⟩, fun _ h => nomatch h⟩
      · cases h

theorem invokeRequested_backed {requested : List Object} :
    (rt.invokeRequested ctx i response requested).Yields (fun s => Backed s.record)
      fun observed s => Backed s.record ∧ ∀ o ∈ observed, o.BackedBy s.invoked := by
  have hloop := Attempt.yields_forEach
    (I := fun observed (s : RunState W) =>
      Backed s.record ∧ ∀ o ∈ observed, o.BackedBy s.invoked)
    (f := fun observed call => do
      let observation ← rt.invokeCall ctx i response call
      return observed ++ [observation]) (fun observed call => ?_)
    (requested.take rt.maxCallsPerRound) []
  · intro s observed s' hs hrun
    exact hloop s observed s' ⟨hs, fun _ h => absurd h List.not_mem_nil⟩ hrun
  · intro s observed' s' hs hrun
    obtain ⟨o, s₁, hcall, hrest⟩ := Attempt.run_bind_eq_ok.mp hrun
    cases hrest
    obtain ⟨hresults, ⟨more, hinvoked⟩, hbacked⟩ := invokeCall_spec hcall
    constructor
    · intro o' ho'
      rw [hresults] at ho'
      show o'.BackedBy s'.invoked
      rw [hinvoked]
      exact (hs.1 o' ho').mono
    · intro o' ho'
      rcases List.mem_append.mp ho' with ho' | ho'
      · rw [hinvoked]
        exact (hs.2 o' ho').mono
      · rw [List.mem_singleton.mp ho']
        exact hbacked

theorem round_backed :
    (rt.round ctx i).Yields (fun s => Backed s.record) fun _ s => Backed s.record := by
  refine (reply_quiet.keeps Backed).yields.bind fun reply => ?_
  refine invokeRequested_backed.bind fun observed => ?_
  refine Attempt.Yields.bind (R := fun _ s => Backed s.record) ?_ fun _ =>
    (finish_quiet.keeps Backed).yields
  intro s a s' hs hrun
  cases hrun
  intro o ho
  have ho : o ∈ (s.observations ++ observed).filter fun o => o.outcome.isAllowed := ho
  rw [List.filter_append] at ho
  rcases List.mem_append.mp ho with ho | ho
  · exact hs.1 o ho
  · exact hs.2 o (List.mem_filter.mp ho).1

theorem rounds_backed : ∀ is : List ℕ,
    (rt.rounds ctx is).Yields (fun s => Backed s.record) fun _ s => Backed s.record := by
  intro is
  induction is with
  | nil => exact Attempt.yields_pure fun _ h => h
  | cons i is ih =>
    refine round_backed.bind fun flow => ?_
    cases flow with
    | next => exact ih
    | stop => exact Attempt.yields_pure fun _ h => h

end GovernedAgentRuntime

/-- How a run comes to be completed with the reply. -/
structure Completes (rt : GovernedAgentRuntime I W) (request : RunRequest) (reply : Object)
    (result : AgentRunResult) (s : RunState W) : Prop where
  replied : ∃ response, s.reply = some (response, reply)
  output : result.output = some (acceptedReply rt.gateway.tables reply)
  valid : rt.problemOf request (acceptedReply rt.gateway.tables reply) s.observations = .ok none
  outbound : s.record.outbound = if summaryOf rt.gateway.tables reply = "" then []
    else [summaryOf rt.gateway.tables reply]
  backed : ∀ o ∈ s.observations, o.BackedBy s.invoked
  passed : summaryOf rt.gateway.tables reply ≠ "" →
    (inspectOutput rt.gateway.tables (summaryOf rt.gateway.tables reply)).blocked = false

namespace GovernedAgentRuntime

variable {rt : GovernedAgentRuntime I W} {ctx : RunContext I}
variable {request : RunRequest} {gateway : GatewayState W} {result : AgentRunResult}
  {s : RunState W}

theorem conclude_of_run (h : rt.run request gateway = (.ok result, s))
    (hdone : result.status = .completed) :
    ∃ ctx s₁, ctx.request = request ∧ s₁.record.outbound = [] ∧ Backed s₁.record ∧
      (rt.conclude ctx).run s₁ = (.ok result, s) := by
  have hstart : ({ gateway := gateway, repairsLeft := rt.maxRepairRounds } :
    RunState W).record.outbound = [] := rfl
  have hnothing : Backed ({ gateway := gateway, repairsLeft := rt.maxRepairRounds } :
    RunState W).record := fun _ h => absurd h List.not_mem_nil
  unfold run at h
  split at h
  · rename_i hperform
    cases h
    obtain ⟨ctx, s₁, hprepare, h⟩ := Attempt.run_bind_eq_ok.mp hperform
    obtain ⟨done, s₂, hrounds, h⟩ := Attempt.run_bind_eq_ok.mp h
    refine ⟨ctx, s₂, prepare_request hprepare, ?_, ?_, h⟩
    · exact ((rounds_outbound [] _).yields s₁ _ s₂ ((prepare_quiet.keeps fun c =>
        c.outbound = []).yields _ ctx s₁ hstart hprepare) hrounds)
    · exact rounds_backed _ s₁ _ s₂ ((prepare_quiet.keeps Backed).yields _ ctx s₁ hnothing hprepare)
        hrounds
  · rename_i hperform
    cases h
    have hexit : (rt.perform request).Exits Exit.Unfinished := perform_exits
    exact absurd hdone (hexit _ (.returned result) (by rw [hperform]))
  · cases h

theorem completes_of_run (h : rt.run request gateway = (.ok result, s))
    (hdone : result.status = .completed) : ∃ reply, Completes rt request reply result s := by
  obtain ⟨ctx, s₁, rfl, houtbound, hbacked, h⟩ := conclude_of_run h hdone
  obtain ⟨s₂, s₃, hget, h⟩ := Attempt.run_bind_eq_ok.mp h
  cases hget
  split at h
  · cases h
  · rename_i response reply hreply
    obtain ⟨⟨parsed, summary⟩, s₂, hscreen, h⟩ := Attempt.run_bind_eq_ok.mp h
    obtain ⟨hsame, rfl, hscreened, hpassed⟩ := screenSummary_eq_ok hscreen
    obtain ⟨hvalid, houtput, rfl⟩ := accept_completed h hdone
    have hcalls : ((rt.screenSummary ctx response reply).run s₁).2.invoked = s₁.invoked ∧
        ((rt.screenSummary ctx response reply).run s₁).2.observations = s₁.observations :=
      screenSummary_calls s₁
    rw [hscreen] at hcalls
    refine ⟨reply, ⟨response, hsame.trans hreply⟩, houtput, hvalid, ?_, fun o ho => ?_, hpassed⟩
    · rw [hscreened, houtbound, List.nil_append]
    · intro result hresult
      rw [hcalls.1]
      rw [hcalls.2] at ho
      exact hbacked o (List.mem_filter.mpr ⟨ho, by rw [hresult]; rfl⟩) result hresult

end GovernedAgentRuntime

end Governance
