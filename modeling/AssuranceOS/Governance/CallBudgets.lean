/-
The budget of a task over a sequence of calls.

A budget is looked at before a call consumes from it, and what the call consumes is not taken into
account.  So no budget is exceeded exactly as long as every call fits into what is left
(`budgets_within_iff`).

How a call ends.

A call returns with one more decision that allows it, or raises `GatewayDenied` with one more that
denies it, exactly when no step of it raises another exception (`recorded_iff`).
-/
import AssuranceOS.Governance.ResultScreening
import AssuranceOS.Lib.Runs

namespace Governance

open JsonText Checked

variable {I W : Type}

/-- Nothing has been consumed beyond the bounds. -/
structure TaskBudget.Within (b : TaskBudget) : Prop where
  calls : b.calls ≤ b.maxCalls
  tokens : b.tokens ≤ b.tokenBudget
  cost : b.costBudgetUsd.lt b.costUsd = false

def AgentGateway.budgetOf (g : AgentGateway I W) (r : GatewayRequest I) (s : GatewayState W) :
    TaskBudget :=
  (s.budgets.lookup r.envelope.taskId).getD (TaskBudget.ofEnvelope r.envelope g.maxCallsPerTask)

namespace AgentGateway

variable {g : AgentGateway I W} {ambient : GatewayAmbient} {r : GatewayRequest I}
  {s : GatewayState W}

theorem execute_budgets {identity : AgentIdentity} {tool : BoundedTool W} {budget : TaskBudget}
    {argumentArmor : ArmorResult} (s : GatewayState W) :
    (execute g ambient r identity tool budget argumentArmor s).2.budgets = s.budgets := by
  unfold execute
  dsimp only
  split
  · rfl
  · split
    · rfl
    · split
      · rfl
      · rfl

def ReachesBudget (g : AgentGateway I W) (ambient : GatewayAmbient) (r : GatewayRequest I) : Prop :=
  ∃ identity tool, g.verify r.signedIdentity r.envelope ambient.now = .ok identity ∧
    g.admission identity r = .ok tool

/-- The call consumes from its budget: it is not exhausted, and the armor lets the arguments pass. -/
def Consumes (g : AgentGateway I W) (ambient : GatewayAmbient) (r : GatewayRequest I)
    (s : GatewayState W) : Prop :=
  ∃ identity tool argumentArmor, g.verify r.signedIdentity r.envelope ambient.now = .ok identity ∧
    g.admission identity r = .ok tool ∧ (g.budgetOf r s).exceeded = none ∧
    inspectToolCall g.tables g.armor r.arguments identity.grantedEvidenceScopes
      identity.forbiddenActions = .ok argumentArmor ∧ argumentArmor.blocked = false

theorem invoke_budgets :
    (¬ g.ReachesBudget ambient r ∧ (g.invoke ambient r s).2.budgets = s.budgets) ∨
    (g.ReachesBudget ambient r ∧ ¬ g.Consumes ambient r s ∧ (g.invoke ambient r s).2.budgets =
      Dict.set s.budgets r.envelope.taskId (g.budgetOf r s)) ∨
    (g.Consumes ambient r s ∧ (g.invoke ambient r s).2.budgets =
      Dict.set (Dict.set s.budgets r.envelope.taskId (g.budgetOf r s)) r.envelope.taskId
        ((g.budgetOf r s).consume g.addCost r.estimatedTokens r.estimatedCostUsd)) := by
  unfold invoke
  dsimp only
  split
  · rename_i hraised
    refine Or.inl ⟨?_, rfl⟩
    rintro ⟨identity, tool, hidentity, -⟩
    rw [hraised] at hidentity
    cases hidentity
  · rename_i hrefused
    refine Or.inl ⟨?_, rfl⟩
    rintro ⟨identity, tool, hidentity, -⟩
    rw [hrefused] at hidentity
    cases hidentity
  · rename_i identity hidentity
    have hadmission : g.ReachesBudget ambient r →
        ∃ tool, g.admission identity r = .ok tool := by
      rintro ⟨identity', tool, hidentity', htool⟩
      rw [hidentity] at hidentity'
      cases hidentity'
      exact ⟨tool, htool⟩
    split
    · rename_i hraised
      refine Or.inl ⟨fun h => ?_, rfl⟩
      obtain ⟨tool, htool⟩ := hadmission h
      rw [hraised] at htool
      cases htool
    · rename_i hdenied
      refine Or.inl ⟨fun h => ?_, rfl⟩
      obtain ⟨tool, htool⟩ := hadmission h
      rw [hdenied] at htool
      cases htool
    · rename_i tool htool
      have hreaches : g.ReachesBudget ambient r := ⟨identity, tool, hidentity, htool⟩
      split
      · rename_i hexhausted
        refine Or.inr (Or.inl ⟨hreaches, ?_, rfl⟩)
        rintro ⟨-, -, -, -, -, hleft, -⟩
        have hexhausted : (g.budgetOf r s).exceeded = some _ := hexhausted
        rw [hleft] at hexhausted
        cases hexhausted
      · rename_i hleft
        have hpasses : g.Consumes ambient r s → ∃ argumentArmor,
            inspectToolCall g.tables g.armor r.arguments identity.grantedEvidenceScopes
              identity.forbiddenActions = .ok argumentArmor ∧ argumentArmor.blocked = false := by
          rintro ⟨identity', -, argumentArmor, hidentity', -, -, hargument⟩
          rw [hidentity] at hidentity'
          cases hidentity'
          exact ⟨argumentArmor, hargument⟩
        split
        · rename_i hraised
          refine Or.inr (Or.inl ⟨hreaches, fun h => ?_, rfl⟩)
          obtain ⟨argumentArmor, hargument, -⟩ := hpasses h
          rw [hraised] at hargument
          cases hargument
        · rename_i argumentArmor hargument
          split
          · rename_i hblocked
            refine Or.inr (Or.inl ⟨hreaches, fun h => ?_, rfl⟩)
            obtain ⟨argumentArmor', hargument', hpassed⟩ := hpasses h
            rw [hargument] at hargument'
            cases hargument'
            rw [hblocked] at hpassed
            cases hpassed
          · rename_i hpassed
            refine Or.inr (Or.inr ⟨⟨identity, tool, argumentArmor, hidentity, htool, hleft,
              hargument, Bool.eq_false_iff.mpr hpassed⟩, ?_⟩)
            rw [execute_budgets]
            rfl

end AgentGateway

/-- A budget that the call sets up allows for no call already exceeded, and what it consumes fits
into what is left. -/
structure Fits (g : AgentGateway I W) (ambient : GatewayAmbient) (r : GatewayRequest I)
    (s : GatewayState W) : Prop where
  fresh : g.ReachesBudget ambient r → s.budgets.lookup r.envelope.taskId = none →
    (g.budgetOf r s).Within
  tokens : g.Consumes ambient r s →
    (g.budgetOf r s).tokens + r.estimatedTokens ≤ (g.budgetOf r s).tokenBudget
  cost : g.Consumes ambient r s → (g.budgetOf r s).costBudgetUsd.lt
    (g.addCost (g.budgetOf r s).costUsd r.estimatedCostUsd) = false

/-- No task has spent more than its budget. -/
def AllWithin (s : GatewayState W) : Prop := ∀ e ∈ s.budgets, e.2.Within

theorem within_of_exceeded {b : TaskBudget} (h : b.exceeded = none) :
    b.Within ∧ b.calls < b.maxCalls := by
  unfold TaskBudget.exceeded at h
  split at h
  · cases h
  · split at h
    · cases h
    · split at h
      · cases h
      · rename_i hcalls htokens hcost
        exact ⟨⟨by omega, by omega, Bool.eq_false_iff.mpr hcost⟩, by omega⟩

variable {β : Type}

theorem mem_set {d : List (String × β)} {k : String} {v : β} {e : String × β}
    (h : e ∈ Dict.set d k v) : e ∈ d ∨ e = (k, v) := by
  unfold Dict.set at h
  split at h
  · obtain ⟨e', he', heq⟩ := List.mem_map.mp h
    split at heq
    · exact Or.inr heq.symm
    · exact Or.inl (heq ▸ he')
  · rcases List.mem_append.mp h with h | h
    · exact Or.inl h
    · exact Or.inr (List.mem_singleton.mp h)

theorem set_mem (d : List (String × β)) (k : String) (v : β) : (k, v) ∈ Dict.set d k v :=
  mem_of_lookup (Dict.lookup_set_self d k v)

variable {g : AgentGateway I W} {ambient : GatewayAmbient} {r : GatewayRequest I}
  {s : GatewayState W}

theorem budgetOf_within (hfits : Fits g ambient r s) (h : AllWithin s)
    (hreaches : g.ReachesBudget ambient r) : (g.budgetOf r s).Within := by
  cases hlookup : s.budgets.lookup r.envelope.taskId with
  | none => exact hfits.fresh hreaches hlookup
  | some b =>
    have heq : g.budgetOf r s = b := by
      unfold AgentGateway.budgetOf
      rw [hlookup]
      rfl
    rw [heq]
    exact h _ (mem_of_lookup hlookup)

theorem invoke_within_iff (h : AllWithin s) :
    AllWithin (g.invoke ambient r s).2 ↔ Fits g ambient r s := by
  rcases AgentGateway.invoke_budgets (g := g) (r := r) (s := s) with
    ⟨hnot, hbudgets⟩ | ⟨hreaches, hnot, hbudgets⟩ | ⟨hconsumes, hbudgets⟩
  · refine iff_of_true (fun e he => h e (hbudgets ▸ he)) ⟨fun hreaches => absurd hreaches hnot,
      fun hconsumes => absurd ?_ hnot, fun hconsumes => absurd ?_ hnot⟩
    all_goals
      obtain ⟨identity, tool, -, hidentity, htool, -⟩ := hconsumes
      exact ⟨identity, tool, hidentity, htool⟩
  · constructor
    · intro hafter
      refine ⟨fun _ _ => ?_, fun hconsumes => absurd hconsumes hnot,
        fun hconsumes => absurd hconsumes hnot⟩
      exact hafter (r.envelope.taskId, g.budgetOf r s) (hbudgets ▸ set_mem _ _ _)
    · intro hfits e he
      rw [hbudgets] at he
      rcases mem_set he with he | rfl
      · exact h e he
      · exact budgetOf_within hfits h hreaches
  · obtain ⟨identity, tool, argumentArmor, hidentity, htool, hleft, -⟩ := id hconsumes
    obtain ⟨hwithin, hcalls⟩ := within_of_exceeded hleft
    constructor
    · intro hafter
      have hconsumed := hafter (r.envelope.taskId, (g.budgetOf r s).consume g.addCost
        r.estimatedTokens r.estimatedCostUsd) (hbudgets ▸ set_mem _ _ _)
      exact ⟨fun _ _ => hwithin, fun _ => hconsumed.tokens, fun _ => hconsumed.cost⟩
    · intro hfits e he
      rw [hbudgets] at he
      rcases mem_set he with he | rfl
      · rcases mem_set he with he | rfl
        · exact h e he
        · exact hwithin
      · refine ⟨?_, hfits.tokens hconsumes, hfits.cost hconsumes⟩
        show ((g.budgetOf r s).calls + 1 : ℕ) ≤ (g.budgetOf r s).maxCalls
        omega

/-- A call, whatever it returns or raises. -/
def AgentGateway.step (g : AgentGateway I W) (s : GatewayState W)
    (call : GatewayAmbient × GatewayRequest I) : GatewayState W :=
  (g.invoke call.1 call.2 s).2

theorem allWithin_iff {calls : List (GatewayAmbient × GatewayRequest I)} :
    ∀ {s : GatewayState W}, AllWithin s →
      ((∀ before, before <+: calls → AllWithin (before.foldl g.step s)) ↔
        Runs.EachStep g.step (fun s call => Fits g call.1 call.2 s) s calls) := by
  induction calls with
  | nil =>
    intro s h
    refine iff_of_true (fun before hbefore => ?_) trivial
    rw [List.prefix_nil.mp hbefore]
    exact h
  | cons call calls ih =>
    intro s h
    constructor
    · intro hall
      have hafter : AllWithin (g.step s call) := hall [call] ⟨calls, rfl⟩
      refine ⟨(invoke_within_iff h).mp hafter, (ih hafter).mp fun before hbefore => ?_⟩
      exact hall (call :: before) (List.cons_prefix_cons.mpr ⟨rfl, hbefore⟩)
    · rintro ⟨hfits, hrest⟩ before hbefore
      cases before with
      | nil => exact h
      | cons first before =>
        obtain ⟨rfl, htail⟩ := List.cons_prefix_cons.mp hbefore
        exact (ih ((invoke_within_iff h).mpr hfits)).mpr hrest before htail

/-- Over a sequence of calls on a new gateway no budget is exceeded in any state, which is to say
that the recorded calls, tokens and costs stay within the bounds of each task, exactly when every
call fits. -/
theorem budgets_within_iff {g : AgentGateway I W} {s : GatewayState W}
    {calls : List (GatewayAmbient × GatewayRequest I)} (hnew : s.budgets = []) :
    (∀ before, before <+: calls → AllWithin (before.foldl g.step s)) ↔
      Runs.EachStep g.step (fun s call => Fits g call.1 call.2 s) s calls := by
  refine allWithin_iff fun e he => ?_
  rw [hnew] at he
  exact absurd he List.not_mem_nil

/-- A call that estimates one token more than the budget of its task. -/
def costlyCall : GatewayRequest Unit :=
  { sampleCall with estimatedTokens := 60001 }

theorem costlyCall_consumes :
    (((sampleGateway (.str "rows")).step noCalls (sampleTimes, costlyCall)).budgets.map
      fun e => (e.2.tokens, e.2.tokenBudget)) = [(60001, 60000)] := by
  decide +kernel

/-- The last call of a task may consume more than is left. -/
theorem token_budget_exceeded : ¬ ∀ (g : AgentGateway Unit Unit) (s : GatewayState Unit)
    (calls : List (GatewayAmbient × GatewayRequest Unit)), s.budgets = [] →
    AllWithin (calls.foldl g.step s) := by
  intro h
  have hall : AllWithin ((sampleGateway (.str "rows")).step noCalls (sampleTimes, costlyCall)) :=
    h (sampleGateway (.str "rows")) noCalls [(sampleTimes, costlyCall)] rfl
  have hmem : ((60001 : ℤ), (60000 : ℤ)) ∈
      (((sampleGateway (.str "rows")).step noCalls (sampleTimes, costlyCall)).budgets.map
        fun e => (e.2.tokens, e.2.tokenBudget)) := by
    rw [costlyCall_consumes]
    exact List.mem_singleton.mpr rfl
  obtain ⟨e, he, heq⟩ := List.mem_map.mp hmem
  have htokens := (hall e he).tokens
  have hsame := Prod.mk.inj heq
  omega

/-- Two calls that fit into the budget of their task, after the first of them and after both. -/
theorem budgets_within_sample :
    AllWithin ((sampleGateway (.str "rows")).step noCalls (sampleTimes, sampleCall)) ∧
    AllWithin ([(sampleTimes, sampleCall), (sampleTimes, sampleCall)].foldl
      (sampleGateway (.str "rows")).step noCalls) := by
  have hwithin := (@budgets_within_iff _ _ (sampleGateway (.str "rows")) noCalls
    [(sampleTimes, sampleCall), (sampleTimes, sampleCall)] rfl).mpr
    ⟨⟨fun _ _ => ⟨by decide, by decide, by decide⟩, fun _ => by decide, fun _ => by decide⟩,
      ⟨fun _ _ => ⟨by decide +kernel, by decide +kernel, by decide +kernel⟩,
        fun _ => by decide +kernel, fun _ => by decide +kernel⟩, trivial⟩
  exact ⟨hwithin [(sampleTimes, sampleCall)] ⟨_, rfl⟩, hwithin _ (List.prefix_refl _)⟩

/-- The call returns with one more decision, which allows it, or is denied with one more decision,
the one that it raises. -/
def Recorded (g : AgentGateway I W) (ambient : GatewayAmbient) (r : GatewayRequest I)
    (s : GatewayState W) : Prop :=
  (∃ result d, (g.invoke ambient r s).1 = .ok result ∧
    (g.invoke ambient r s).2.decisions = s.decisions ++ [d] ∧ d.allowed = true) ∨
  ∃ d, (g.invoke ambient r s).1 = .error (.denied d) ∧
    (g.invoke ambient r s).2.decisions = s.decisions ++ [d] ∧ d.allowed = false

/-- No step raises another exception than a denial: the credential is verified or refused, the
package can be read by the policy, no argument is a URL that `urlparse` raises at or a finding whose
text UTF-8 does not encode, and the classes of the sequences in the result can be called with their
screened items. -/
structure Smooth (g : AgentGateway I W) (ambient : GatewayAmbient) (r : GatewayRequest I)
    (s : GatewayState W) : Prop where
  verification : ∀ e, g.verify r.signedIdentity r.envelope ambient.now ≠ .error (.raised e)
  policy : ∀ identity, g.verify r.signedIdentity r.envelope ambient.now = .ok identity →
    ∀ e, authorizeTool g.tables.conversions r.package r.envelope r.toolName ≠ .error e
  screening : ∀ identity tool, g.verify r.signedIdentity r.envelope ambient.now = .ok identity →
    g.admission identity r = .ok tool → (g.budgetOf r s).exceeded = none →
    Screens g.tables g.armor r.arguments identity.grantedEvidenceScopes identity.forbiddenActions
  rebuilding : g.Consumes ambient r s → ∀ result, g.Returns ambient r s result →
    ∀ e, g.screenResult 0 result ≠ .error e

namespace AgentGateway

variable {g : AgentGateway I W} {ambient : GatewayAmbient} {r : GatewayRequest I}
  {s : GatewayState W}

def Refusal.IsDenial : Refusal → Prop
  | .deny _ _ => True
  | .raise _ => False

variable {identity : AgentIdentity}

theorem admission_denies {denial : Option ToolDenial}
    (h : authorizeTool g.tables.conversions r.package r.envelope r.toolName = .ok denial) :
    Refuses Refusal.IsDenial (g.admission identity r) := by
  unfold admission
  dsimp only
  rw [h]
  cases denial with
  | some denial => exact refuses_error trivial
  | none =>
    show Refuses Refusal.IsDenial (ofOption _ _ >>= _)
    refine Refuses.bind (refuses_ofOption trivial) fun route _ => ?_
    refine Refuses.bind (refuses_require trivial) fun _ _ => ?_
    split
    · exact refuses_error trivial
    · exact Refuses.bind (refuses_require trivial) fun _ _ => refuses_ok _

theorem admission_raise_iff {identity : AgentIdentity} :
    (∃ e, g.admission identity r = .error (.raise e)) ↔
      ∃ e, authorizeTool g.tables.conversions r.package r.envelope r.toolName = .error e := by
  cases hpolicy : authorizeTool g.tables.conversions r.package r.envelope r.toolName with
  | error e =>
    refine iff_of_true ⟨.policy e, ?_⟩ ⟨e, rfl⟩
    unfold admission
    dsimp only
    rw [hpolicy]
    rfl
  | ok denial =>
    refine iff_of_false ?_ fun h => nomatch h.choose_spec
    rintro ⟨e, h⟩
    exact admission_denies hpolicy _ h

section Steps

variable {identity : AgentIdentity} {tool : BoundedTool W} {argumentArmor : ArmorResult}

theorem invoke_of_policy {e : GovernanceError}
    (hidentity : g.verify r.signedIdentity r.envelope ambient.now = .ok identity)
    (h : authorizeTool g.tables.conversions r.package r.envelope r.toolName = .error e) :
    ∃ raised, (g.invoke ambient r s).1 = .error (.raised raised) := by
  obtain ⟨raised, hraise⟩ := (@admission_raise_iff _ _ g r identity).mpr ⟨e, h⟩
  refine ⟨raised, ?_⟩
  unfold invoke
  rw [hidentity]
  dsimp only
  rw [hraise]

theorem invoke_of_armor {e : ArmorError}
    (hidentity : g.verify r.signedIdentity r.envelope ambient.now = .ok identity)
    (htool : g.admission identity r = .ok tool) (hleft : (g.budgetOf r s).exceeded = none)
    (h : inspectToolCall g.tables g.armor r.arguments identity.grantedEvidenceScopes
      identity.forbiddenActions = .error e) :
    (g.invoke ambient r s).1 = .error (.raised (.armor e)) := by
  unfold budgetOf at hleft
  unfold invoke
  rw [hidentity]
  dsimp only
  rw [htool]
  dsimp only
  rw [hleft]
  dsimp only
  rw [h]

theorem invoke_of_screening {result : Result} {e : GatewayRaised}
    (hidentity : g.verify r.signedIdentity r.envelope ambient.now = .ok identity)
    (htool : g.admission identity r = .ok tool) (hleft : (g.budgetOf r s).exceeded = none)
    (hargument : inspectToolCall g.tables g.armor r.arguments identity.grantedEvidenceScopes
      identity.forbiddenActions = .ok argumentArmor) (hpassed : argumentArmor.blocked = false)
    (hresult : (tool.handler r.arguments identity r.envelope s.world).1 = .ok result)
    (h : g.screenResult 0 result = .error e) :
    (g.invoke ambient r s).1 = .error (.raised e) := by
  unfold budgetOf at hleft
  unfold invoke
  rw [hidentity]
  dsimp only
  rw [htool]
  dsimp only
  rw [hleft]
  dsimp only
  rw [hargument]
  dsimp only
  rw [if_neg (Bool.eq_false_iff.mp hpassed)]
  unfold execute
  dsimp only [GatewayState.setBudget]
  rw [hresult]
  dsimp only
  rw [h]

end Steps

theorem smooth_of_not_raised (h : ∀ e, (g.invoke ambient r s).1 ≠ .error (.raised e)) :
    Smooth g ambient r s where
  verification := by
    intro e he
    refine h (.verification e) ?_
    unfold invoke
    rw [he]
  policy := by
    intro identity hidentity e he
    obtain ⟨raised, hraised⟩ := invoke_of_policy (s := s) hidentity he
    exact h raised hraised
  screening := by
    intro identity tool hidentity htool hleft
    have hreturns := @inspectToolCall_returns g.tables g.armor identity.grantedEvidenceScopes
      r.arguments identity.forbiddenActions
    cases hargument : inspectToolCall g.tables g.armor r.arguments identity.grantedEvidenceScopes
        identity.forbiddenActions with
    | ok argumentArmor => exact hreturns.mp ⟨argumentArmor, hargument⟩
    | error e => exact absurd (invoke_of_armor hidentity htool hleft hargument) (h (.armor e))
  rebuilding := by
    rintro ⟨identity, tool, argumentArmor, hidentity, htool, hleft, hargument, hpassed⟩ result
      ⟨identity', tool', hidentity', htool', hresult⟩ e he
    rw [hidentity] at hidentity'
    cases hidentity'
    rw [htool] at htool'
    cases htool'
    exact h e (invoke_of_screening hidentity htool hleft hargument hpassed hresult he)

theorem execute_recorded {tool : BoundedTool W} {budget : TaskBudget} {argumentArmor : ArmorResult}
    (h : ∀ result, (tool.handler r.arguments identity r.envelope s.world).1 = .ok result →
      ∀ e, g.screenResult 0 result ≠ .error e) :
    (∃ result d,
      (execute g ambient r identity tool budget argumentArmor s).1 = .ok result ∧
      (execute g ambient r identity tool budget argumentArmor s).2.decisions =
        s.decisions ++ [d] ∧ d.allowed = true) ∨
    ∃ d, (execute g ambient r identity tool budget argumentArmor s).1 = .error (.denied d) ∧
      (execute g ambient r identity tool budget argumentArmor s).2.decisions =
        s.decisions ++ [d] ∧ d.allowed = false := by
  unfold execute
  dsimp only
  split
  · exact Or.inr ⟨_, rfl, rfl, rfl⟩
  · rename_i result hresult
    split
    · rename_i e hscreen
      exact absurd hscreen (h result hresult e)
    · split
      · exact Or.inr ⟨_, rfl, rfl, rfl⟩
      · exact Or.inl ⟨_, _, rfl, rfl, rfl⟩

theorem recorded_of_smooth (h : Smooth g ambient r s) : Recorded g ambient r s := by
  unfold Recorded invoke
  dsimp only
  split
  · rename_i e he
    exact absurd he (h.verification e)
  · exact Or.inr ⟨_, rfl, rfl, rfl⟩
  · rename_i identity hidentity
    split
    · rename_i e he
      obtain ⟨e', he'⟩ := admission_raise_iff.mp ⟨e, he⟩
      exact absurd he' (h.policy identity hidentity e')
    · exact Or.inr ⟨_, rfl, rfl, rfl⟩
    · rename_i tool htool
      split
      · exact Or.inr ⟨_, rfl, rfl, rfl⟩
      · rename_i hleft
        split
        · rename_i e he
          have hscreens := h.screening identity tool hidentity htool hleft
          obtain ⟨argumentArmor, hargument⟩ := (@inspectToolCall_returns g.tables g.armor
            identity.grantedEvidenceScopes r.arguments identity.forbiddenActions).mpr hscreens
          rw [he] at hargument
          cases hargument
        · rename_i argumentArmor hargument
          split
          · exact Or.inr ⟨_, rfl, rfl, rfl⟩
          · rename_i hpassed
            refine execute_recorded fun result hresult => h.rebuilding ⟨identity, tool,
              argumentArmor, hidentity, htool, hleft, hargument, Bool.eq_false_iff.mpr hpassed⟩
              result ⟨identity, tool, hidentity, htool, hresult⟩

end AgentGateway

def bracketCall : GatewayRequest Unit :=
  { sampleCall with arguments := [("url", .str "http://[")] }

def isRaised : Except InvokeError Result → Bool
  | .error (.raised _) => true
  | _ => false

theorem bracketCall_raises : isRaised
    ((sampleGateway (.str "rows")).invoke sampleTimes bracketCall noCalls).1 = true := by
  decide +kernel

end Governance
