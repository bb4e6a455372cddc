/-
Which calls of a run reach the gateway.

However a run ends, no two of its calls have the same signature, the calls of one round are at most
`maxCallsPerRound`, and they come from fewer than `maxToolRounds + 1` rounds (`run_calls_bounded`).

The calls that have reached the gateway and the signatures that are known are touched by
`invokeCall` alone.  `CallsBounded rt i m` is the invariant inside of round `i`, after at most `m`
calls of this round.
-/
import AssuranceOS.Governance.Runtime
import Mathlib.Data.Finset.Card
import Mathlib.Data.Finset.Range

namespace Governance

open JsonText

variable {I W : Type}

/-! ### What most parts of a run leave alone -/

def Outcome.isAllowed : Outcome → Bool
  | .allowed _ => true
  | _ => false

/-- What a run has done so far: the calls that have reached the gateway, the signatures that are
known, what calls have brought back, and the texts that have been screened as outbound. -/
structure RunRecord where
  invoked : List Invocation
  known : List CallSignature
  results : List Observation
  outbound : List String

def RunState.record (s : RunState W) : RunRecord where
  invoked := s.invoked
  known := s.alreadyInvoked
  results := s.observations.filter fun o => o.outcome.isAllowed
  outbound := (s.screenings.filter fun x => x.1 = .outboundText).map Prod.snd

def Exit.Unfinished : Exit → Prop
  | .returned result => result.status ≠ .completed
  | .raised _ => True

/-- From the state on nothing has been done, and no answer accepted. -/
structure Unchanged {α : Type} (s : RunState W) (r : Except Exit α × RunState W) : Prop where
  record : r.2.record = s.record
  exits : ∀ e, r.1 = .error e → e.Unfinished

variable {α : Type} {s s' : RunState W}

theorem Unchanged.ok {a : α} (h : s'.record = s.record) :
    Unchanged s (.ok a, s') :=
  ⟨h, fun _ h => nomatch h⟩

theorem Unchanged.error {e : Exit} (h : s'.record = s.record) (he : e.Unfinished) :
    Unchanged s ((.error e, s') : Except Exit α × RunState W) := by
  refine ⟨h, fun e' h => ?_⟩
  cases h
  exact he

def Quiet {α : Type} (x : Run W α) : Prop := ∀ s, Unchanged s (x.run s)

namespace Quiet

variable {α β : Type} {x : Run W α} {f : α → Run W β}

theorem keeps (h : Quiet x) (P : RunRecord → Prop) : x.Keeps fun s => P s.record := by
  intro s hs
  rwa [(h s).record]

theorem exits (h : Quiet x) : x.Exits Exit.Unfinished :=
  fun s => (h s).exits

theorem pure (a : α) : Quiet (pure a : Run W α) :=
  fun _ => .ok rfl

theorem get : Quiet (Attempt.get : Run W (RunState W)) :=
  fun _ => .ok rfl

theorem modify {f : RunState W → RunState W} (h : ∀ s, (f s).record = s.record) :
    Quiet (Attempt.modify f : Run W Unit) :=
  fun s => .ok (h s)

theorem bind (hx : Quiet x) (hf : ∀ a, Quiet (f a)) : Quiet (x >>= f) := by
  intro s
  have hkeeps : (x >>= f).Keeps fun s' => s'.record = s.record :=
    (hx.keeps fun c => c = s.record).bind fun a => (hf a).keeps fun c => c = s.record
  exact ⟨hkeeps s rfl, (hx.exits.bind fun a => (hf a).exits) s⟩

end Quiet

namespace GovernedAgentRuntime

variable {rt : GovernedAgentRuntime I W} {ctx : RunContext I} {i : ℕ} {response : ModelResponse}
variable {summary : String}

theorem fail_quiet {status : RunStatus} (h : status ≠ .completed) :
    Quiet (rt.fail ctx response status summary i) :=
  fun _ => .error rfl h

theorem raising_quiet {α ε : Type} {error : ε → RunError} {x : Except ε α} :
    Quiet (raising error x : Run W α) := by
  intro s
  cases x with
  | error e => exact .error rfl trivial
  | ok a => exact .ok rfl

theorem prepare_quiet {request : RunRequest} : Quiet (rt.prepare request) := by
  refine raising_quiet.bind fun signedIdentity => ?_
  refine raising_quiet.bind fun context => ?_
  refine Quiet.bind (Quiet.modify ?_) fun _ => ?_
  · exact fun _ => rfl
  · exact raising_quiet.bind fun _ => Quiet.pure _

variable {prompt : String} {parsed : Object}

theorem checkContext_quiet : Quiet (rt.checkContext ctx i prompt) := by
  intro s
  show Unchanged s ((rt.checkContext ctx i prompt) s)
  unfold checkContext
  dsimp only
  split
  · exact .ok rfl
  · split
    · exact .error rfl fun h => nomatch h
    · exact .ok rfl

theorem askModel_quiet : Quiet (rt.askModel ctx i prompt) := by
  intro s
  show Unchanged s ((rt.askModel ctx i prompt) s)
  unfold askModel
  dsimp only
  split
  · exact .ok rfl
  · exact .error rfl fun h => nomatch h

theorem checkRead_quiet : Quiet (rt.checkRead ctx i prompt response) := by
  unfold checkRead
  dsimp only
  split
  · exact fail_quiet fun h => nomatch h
  · exact Quiet.pure _

theorem keepReasoning_quiet : Quiet (rt.keepReasoning response) := by
  unfold keepReasoning
  split
  · exact Quiet.pure _
  · refine Quiet.modify fun s => ?_
    simp [RunState.record]

theorem checkAnswered_quiet : Quiet (rt.checkAnswered ctx i response) := by
  unfold checkAnswered
  split
  · exact fail_quiet fun h => nomatch h
  · exact Quiet.pure _

theorem readReply_quiet : Quiet (rt.readReply ctx i response) := by
  intro s
  show Unchanged s ((rt.readReply ctx i response) s)
  unfold readReply
  split
  · exact .error rfl trivial
  · exact .ok rfl
  · refine .error rfl fun h => ?_
    show False
    by_cases htruncated : response.truncated
    · simp [failed, htruncated] at h
    · simp [failed, htruncated] at h

theorem startRound_quiet (i : ℕ) :
    Quiet (Attempt.modify fun s => { s with roundsUsed := i + 1 } : Run W Unit) :=
  Quiet.modify fun _ => rfl

theorem reply_quiet : Quiet (rt.reply ctx i) := by
  refine Quiet.bind (startRound_quiet i) fun _ => ?_
  refine Quiet.get.bind fun s => ?_
  refine checkContext_quiet.bind fun _ => ?_
  refine askModel_quiet.bind fun response => ?_
  refine checkRead_quiet.bind fun _ => ?_
  refine keepReasoning_quiet.bind fun _ => ?_
  refine checkAnswered_quiet.bind fun _ => ?_
  exact readReply_quiet.bind fun parsed => Quiet.pure _

theorem checkReply_quiet : Quiet (rt.checkReply ctx i parsed) := by
  intro s
  show Unchanged s ((rt.checkReply ctx i parsed) s)
  unfold checkReply
  split
  · exact .error rfl trivial
  · exact .ok rfl
  · dsimp only
    split
    · exact .ok rfl
    · -- what is refused is put before the model, but no call has brought it back
      refine .ok ?_
      simp [RunState.record, Outcome.isAllowed]

theorem finish_quiet : Quiet (if i ≠ rt.maxToolRounds ∧
    wantsMoreTools rt.gateway.tables parsed (requestedCalls parsed) then pure .next
      else rt.checkReply ctx i parsed : Run W Flow) := by
  split
  · exact Quiet.pure _
  · exact checkReply_quiet

/-! The end of a run calls nothing either. -/

theorem screenSummary_calls (s : RunState W) :
    ((rt.screenSummary ctx response parsed).run s).2.invoked = s.invoked ∧
      ((rt.screenSummary ctx response parsed).run s).2.observations = s.observations := by
  show ((rt.screenSummary ctx response parsed) s).2.invoked = s.invoked ∧
    ((rt.screenSummary ctx response parsed) s).2.observations = s.observations
  unfold screenSummary
  dsimp only
  split
  · exact ⟨rfl, rfl⟩
  · split
    · exact ⟨rfl, rfl⟩
    · split
      · exact ⟨rfl, rfl⟩
      · exact ⟨rfl, rfl⟩

theorem accept_state (s : RunState W) :
    ((rt.accept ctx response parsed summary).run s).2 = s := by
  show ((rt.accept ctx response parsed summary) s).2 = s
  unfold accept
  split
  · rfl
  · rfl
  · rfl

theorem conclude_keepsInvoked (P : List Invocation → Prop) :
    (rt.conclude ctx).Keeps fun s => P s.invoked := by
  refine (Quiet.get.keeps fun c => P c.invoked).bind fun s => ?_
  split
  · exact Attempt.keeps_raise _
  · refine Attempt.Keeps.bind (fun s hs => ?_) fun _ s hs => ?_
    · show P ((rt.screenSummary ctx _ _).run s).2.invoked
      rw [(screenSummary_calls s).1]
      exact hs
    · rwa [accept_state]

end GovernedAgentRuntime

/-- The number of calls in round `j`. -/
def callsIn (j : ℕ) (invoked : List Invocation) : ℕ :=
  invoked.countP fun x => x.round = j

/-- The calls in round `i`, of which there are at most `m`, and in the rounds before. -/
structure CallsBounded (rt : GovernedAgentRuntime I W) (i m : ℕ) (c : RunRecord) : Prop where
  distinct : (c.invoked.map Invocation.signature).Nodup
  known : ∀ x ∈ c.invoked, x.signature ∈ c.known
  executing : ∀ x ∈ c.invoked, x.round < rt.maxToolRounds
  started : ∀ x ∈ c.invoked, x.round ≤ i
  others : ∀ j, j ≠ i → callsIn j c.invoked ≤ rt.maxCallsPerRound
  current : callsIn i c.invoked ≤ m

namespace CallsBounded

variable {rt : GovernedAgentRuntime I W} {i m : ℕ} {c c' : RunRecord}

theorem mono {n : ℕ} (h : CallsBounded rt i m c) (hn : m ≤ n) : CallsBounded rt i n c :=
  { h with current := Nat.le_trans h.current hn }

theorem of_nil (h : c.invoked = []) : CallsBounded rt 0 0 c where
  distinct := by
    rw [h]
    exact List.Pairwise.nil
  known := by simp [h]
  executing := by simp [h]
  started := by simp [h]
  others := by simp [h, callsIn]
  current := by simp [h, callsIn]

theorem keep (h : CallsBounded rt i m c) (hinvoked : c'.invoked = c.invoked)
    (hknown : ∀ x ∈ c.known, x ∈ c'.known) : CallsBounded rt i m c' where
  distinct := hinvoked ▸ h.distinct
  known := hinvoked ▸ fun x hx => hknown _ (h.known x hx)
  executing := hinvoked ▸ h.executing
  started := hinvoked ▸ h.started
  others := hinvoked ▸ h.others
  current := hinvoked ▸ h.current

theorem callsIn_append (j : ℕ) (invoked : List Invocation) (x : Invocation) :
    callsIn j (invoked ++ [x]) = callsIn j invoked + if x.round = j then 1 else 0 := by
  simp [callsIn, List.countP_append, List.countP_cons]

theorem call (h : CallsBounded rt i m c) {y : Invocation} (hy : y.round = i)
    (hnew : y.signature ∉ c.known) (hround : i < rt.maxToolRounds)
    (hinvoked : c'.invoked = c.invoked ++ [y]) (hknown : c'.known = y.signature :: c.known) :
    CallsBounded rt i (m + 1) c' where
  distinct := by
    rw [hinvoked, List.map_append, List.nodup_append]
    refine ⟨h.distinct, by simp, fun a ha b hb hab => ?_⟩
    obtain ⟨x, hx, rfl⟩ := List.mem_map.mp ha
    have hsignature : b = y.signature := by simpa using hb
    exact hnew (hsignature ▸ hab ▸ h.known x hx)
  known := by
    intro x hx
    rw [hinvoked] at hx
    rw [hknown]
    rcases List.mem_append.mp hx with hx | hx
    · exact List.mem_cons_of_mem _ (h.known x hx)
    · rw [List.mem_singleton.mp hx]
      exact List.mem_cons_self
  executing := by
    intro x hx
    rw [hinvoked] at hx
    rcases List.mem_append.mp hx with hx | hx
    · exact h.executing x hx
    · rw [List.mem_singleton.mp hx, hy]
      exact hround
  started := by
    intro x hx
    rw [hinvoked] at hx
    rcases List.mem_append.mp hx with hx | hx
    · exact h.started x hx
    · rw [List.mem_singleton.mp hx, hy]
  others := by
    intro j hj
    have hcount := h.others j hj
    rw [hinvoked, callsIn_append, if_neg (by omega)]
    omega
  current := by
    have hcount := h.current
    rw [hinvoked, callsIn_append, if_pos hy]
    omega

theorem nextRound (h : CallsBounded rt i rt.maxCallsPerRound c) :
    CallsBounded rt (i + 1) 0 c where
  distinct := h.distinct
  known := h.known
  executing := h.executing
  started := fun x hx => Nat.le_succ_of_le (h.started x hx)
  others := by
    intro j hj
    by_cases heq : j = i
    · rw [heq]
      exact h.current
    · exact h.others j heq
  current := by
    have hnone : callsIn (i + 1) c.invoked = 0 := by
      refine List.countP_eq_zero.mpr fun x hx => ?_
      have hstarted := h.started x hx
      rw [decide_eq_true_eq]
      omega
    exact Nat.le_of_eq hnone

end CallsBounded

/-- The bounds over all rounds. -/
structure RunBounded (rt : GovernedAgentRuntime I W) (invoked : List Invocation) : Prop where
  distinct : (invoked.map Invocation.signature).Nodup
  perRound : ∀ j, callsIn j invoked ≤ rt.maxCallsPerRound
  executing : ∀ x ∈ invoked, x.round < rt.maxToolRounds

theorem CallsBounded.total {rt : GovernedAgentRuntime I W} {i : ℕ} {c : RunRecord}
    (h : CallsBounded rt i rt.maxCallsPerRound c) : RunBounded rt c.invoked where
  distinct := h.distinct
  perRound := by
    intro j
    by_cases heq : j = i
    · rw [heq]
      exact h.current
    · exact h.others j heq
  executing := h.executing

namespace GovernedAgentRuntime

variable {rt : GovernedAgentRuntime I W} {ctx : RunContext I} {i : ℕ} {response : ModelResponse}

theorem invokeCall_bounded {call : Object} (hround : i ≤ rt.maxToolRounds) (m : ℕ) :
    (rt.invokeCall ctx i response call).Leads (fun s => CallsBounded rt i m s.record)
      fun s => CallsBounded rt i (m + 1) s.record := by
  intro s h
  show CallsBounded rt i (m + 1) ((rt.invokeCall ctx i response call) s).2.record
  unfold invokeCall
  dsimp only
  split
  · exact h.mono (by omega)
  · rename_i hnew
    split
    · refine CallsBounded.mono (m := m) ?_ (by omega)
      exact h.keep rfl fun x hx => List.mem_cons_of_mem _ hx
    · rename_i hexecuted
      have hlater : i < rt.maxToolRounds := by omega
      split
      · exact h.call (y := ⟨i, _, _, _⟩) rfl hnew hlater rfl rfl
      · exact h.call (y := ⟨i, _, _, _⟩) rfl hnew hlater rfl rfl
      · exact h.call (y := ⟨i, _, _, _⟩) rfl hnew hlater rfl rfl

theorem invokeRequested_bounded {requested : List Object} (hround : i ≤ rt.maxToolRounds) :
    (rt.invokeRequested ctx i response requested).Leads (fun s => CallsBounded rt i 0 s.record)
      fun s => CallsBounded rt i rt.maxCallsPerRound s.record := by
  have hloop := Attempt.leads_forEach
    (I := fun m (s : RunState W) => CallsBounded rt i m s.record)
    (f := fun (observed : List Observation) call => do
      let observation ← rt.invokeCall ctx i response call
      return observed ++ [observation])
    (fun m s h => h.mono (by omega))
    (fun observed call m => (invokeCall_bounded hround m).bind
      (fun observation => (Attempt.keeps_pure _).leads) fun _ h => h)
    (requested.take rt.maxCallsPerRound) [] 0
  refine hloop.mono (fun _ h => h) fun s h => h.mono ?_
  rw [Nat.zero_add, List.length_take]
  exact Nat.min_le_left _ _

theorem round_bounded (hround : i ≤ rt.maxToolRounds) :
    (rt.round ctx i).Leads (fun s => CallsBounded rt i 0 s.record)
      fun s => CallsBounded rt i rt.maxCallsPerRound s.record := by
  refine Attempt.Leads.bind (reply_quiet.keeps (CallsBounded rt i 0)).leads (fun reply => ?_)
    fun s h => h.mono (Nat.zero_le _)
  refine (invokeRequested_bounded hround).bind (fun observed => ?_) fun _ h => h
  refine Attempt.Keeps.leads (Attempt.Keeps.bind (fun s h => ?_) fun _ =>
    finish_quiet.keeps (CallsBounded rt i rt.maxCallsPerRound))
  exact CallsBounded.keep h rfl fun _ hx => hx

theorem rounds_bounded (n : ℕ) : ∀ {i : ℕ}, i + n = rt.maxToolRounds + 1 →
    (rt.rounds ctx (List.range' i n)).Leads (fun s => CallsBounded rt i 0 s.record)
      fun s => RunBounded rt s.invoked := by
  induction n with
  | zero =>
    intro i _ s h
    exact (h.mono (Nat.zero_le _)).total
  | succ n ih =>
    intro i hi
    refine (round_bounded (by omega)).bind (fun flow => ?_) fun s h => h.total
    cases flow with
    | next => exact (ih (i := i + 1) (by omega)).mono (fun s h => h.nextRound) fun _ h => h
    | stop => exact (Attempt.keeps_pure _).leads.mono (fun s h => h.total) fun _ h => h

theorem perform_bounded {request : RunRequest} :
    (rt.perform request).Leads (fun s => s.invoked = []) fun s => RunBounded rt s.invoked := by
  refine Attempt.Leads.bind (prepare_quiet.keeps fun c => c.invoked = []).leads (fun ctx => ?_)
    fun s h => ?_
  · have hrounds : (rt.rounds ctx (List.range (rt.maxToolRounds + 1))).Leads
        (fun s => CallsBounded rt 0 0 s.record) fun s => RunBounded rt s.invoked := by
      rw [List.range_eq_range']
      exact rounds_bounded _ (by omega)
    exact Attempt.Leads.bind (hrounds.mono (fun s h => .of_nil h) fun _ h => h)
      (fun _ => (conclude_keepsInvoked (RunBounded rt)).leads) fun _ h => h
  · exact ((CallsBounded.of_nil h).mono (Nat.zero_le _)).total

theorem run_state (request : RunRequest) (gateway : GatewayState W) :
    (rt.run request gateway).2 = ((rt.perform request).run
      { gateway := gateway, repairsLeft := rt.maxRepairRounds }).2 := by
  unfold run
  split
  · rename_i heq
    rw [heq]
  · rename_i heq
    rw [heq]
  · rename_i heq
    rw [heq]

end GovernedAgentRuntime

/-- Whatever the model requests and however the run ends: no two calls that reach the gateway have
the same tool and the same canonical arguments, at most `maxCallsPerRound` of them are in one round,
and at most `maxToolRounds` rounds have any. -/
theorem run_calls_bounded (rt : GovernedAgentRuntime I W) (request : RunRequest)
    (gateway : GatewayState W) :
    ((rt.run request gateway).2.invoked.map Invocation.signature).Nodup ∧
      (∀ i, callsIn i (rt.run request gateway).2.invoked ≤ rt.maxCallsPerRound) ∧
      ((rt.run request gateway).2.invoked.map Invocation.round).toFinset.card ≤
        rt.maxToolRounds := by
  have h : RunBounded rt (rt.run request gateway).2.invoked := by
    rw [GovernedAgentRuntime.run_state]
    exact GovernedAgentRuntime.perform_bounded _ rfl
  refine ⟨h.distinct, h.perRound, ?_⟩
  have hsubset : ((rt.run request gateway).2.invoked.map Invocation.round).toFinset ⊆
      Finset.range rt.maxToolRounds := by
    intro j hj
    obtain ⟨x, hx, rfl⟩ := List.mem_map.mp (List.mem_toFinset.mp hj)
    exact Finset.mem_range.mpr (h.executing x hx)
  calc ((rt.run request gateway).2.invoked.map Invocation.round).toFinset.card
      ≤ (Finset.range rt.maxToolRounds).card := Finset.card_le_card hsubset
    _ = rt.maxToolRounds := Finset.card_range _

end Governance
