/-
Which calls reach a tool.

The handler of a tool is called only for a credential that is verified and bound to the envelope,
for a tool that the package, the envelope and the credential all allow, within the budget of the
task, and with arguments that the armor lets pass (`call_authorised`).
-/
import AssuranceOS.Governance.CallBudgets
import AssuranceOS.Governance.Identity

namespace Governance

open JsonText Checked

section Policy

variable {c : Conversions} {package : AgentPackage} {envelope : ExecutionEnvelope}

theorem prohibits_of_authorize (h : authorize c package envelope = .ok .allowed) :
    ∃ prohibitions, package.prohibitions = .ok prohibitions ∧
      ∀ p ∈ prohibitions, inTexts envelope.forbiddenActions p = true := by
  unfold authorize at h
  split at h
  · cases h
  · obtain ⟨version, -, h⟩ := bind_eq_ok.mp h
    split at h
    · cases h
    · obtain ⟨declared, -, h⟩ := bind_eq_ok.mp h
      dsimp only at h
      split at h
      · cases h
      · obtain ⟨prohibitions, hprohibitions, h⟩ := bind_eq_ok.mp h
        split at h
        · rename_i hall
          exact ⟨prohibitions, hprohibitions, List.all_eq_true.mp hall⟩
        · cases h

theorem declares_of_authorizeTool {toolName : String}
    (h : authorizeTool c package envelope toolName = .ok none) :
    authorize c package envelope = .ok .allowed ∧ toolName ∈ envelope.allowedTools ∧
      ∃ entries tool, package.toolEntries = .ok entries ∧ Value.obj tool ∈ entries ∧
        tool.lookup "name" = some (.str toolName) := by
  unfold authorizeTool at h
  obtain ⟨decision, hdecision, h⟩ := bind_eq_ok.mp h
  cases decision with
  | denied reason => cases h
  | allowed =>
    dsimp only at h
    split at h
    · cases h
    · rename_i hallowed
      obtain ⟨entries, hentries, h⟩ := bind_eq_ok.mp h
      split at h
      · rename_i tool hfound
        have hname := List.find?_some hfound
        obtain ⟨name, hname, htext⟩ := (Option.any_eq_true _ _).mp hname
        have hlookup := ofOption_eq_ok.mp (toOption_eq_some.mp hname)
        rw [asString_eq_some.mp (of_decide_eq_true htext)] at hlookup
        exact ⟨hdecision, not_not.mp hallowed, entries, tool, hentries,
          List.mem_of_find?_eq_some hfound, hlookup⟩
      · cases h

end Policy

section Steps

variable {I W : Type} {g : AgentGateway I W} {ambient : GatewayAmbient} {r : GatewayRequest I}
  {s : GatewayState W}

/-- The package, the envelope and the credential allow the tool: all three list it, the envelope
has the prohibitions of the package, and a human gate if the tool needs one. -/
structure Admitted (c : Conversions) (identity : AgentIdentity) (r : GatewayRequest I) : Prop where
  declared : ∃ entries tool, r.package.toolEntries = .ok entries ∧ Value.obj tool ∈ entries ∧
    tool.lookup "name" = some (.str r.toolName)
  allowed : r.toolName ∈ r.envelope.allowedTools
  granted : r.toolName ∈ identity.grantedTools
  prohibited : ∃ prohibitions, r.package.prohibitions = .ok prohibitions ∧
    ∀ p ∈ prohibitions, inTexts r.envelope.forbiddenActions p = true
  gated : c.truthy (get (declaredTool r.package r.toolName) "requires_human_confirmation") = true →
    PyString.truthy r.envelope.humanGate = true

namespace AgentGateway

variable {identity : AgentIdentity} {tool : BoundedTool W}

theorem admitted_of_admission (h : g.admission identity r = .ok tool) :
    Admitted g.tables.conversions identity r := by
  unfold admission at h
  dsimp only at h
  obtain ⟨denial, hpolicy, h⟩ := bind_eq_ok.mp h
  cases denial with
  | some denial => cases h
  | none =>
    obtain ⟨hauthorized, hallowed, hdeclared⟩ :=
      declares_of_authorizeTool (mapError_eq_ok.mp hpolicy)
    obtain ⟨route, -, h⟩ := ofOption_bind_eq_ok.mp h
    obtain ⟨hgranted, h⟩ := require_bind_eq_ok.mp h
    split at h
    · cases h
    · obtain ⟨hgated, -⟩ := require_bind_eq_ok.mp h
      exact ⟨hdeclared, hallowed, hgranted, prohibits_of_authorize hauthorized, hgated⟩

theorem execute_handled {budget : TaskBudget} {argumentArmor : ArmorResult} (s : GatewayState W) :
    (execute g ambient r identity tool budget argumentArmor s).2.handled =
      s.handled ++ [⟨r.toolName, r.arguments, identity⟩] := by
  unfold execute
  dsimp only
  split
  · rfl
  · split
    · rfl
    · split
      · rfl
      · rfl

theorem invoke_handled : (g.invoke ambient r s).2.handled = s.handled ∨
    ∃ identity tool argumentArmor,
      g.verify r.signedIdentity r.envelope ambient.now = .ok identity ∧
      g.admission identity r = .ok tool ∧ (g.budgetOf r s).exceeded = none ∧
      inspectToolCall g.tables g.armor r.arguments identity.grantedEvidenceScopes
        identity.forbiddenActions = .ok argumentArmor ∧ argumentArmor.blocked = false ∧
      (g.invoke ambient r s).2.handled = s.handled ++ [⟨r.toolName, r.arguments, identity⟩] := by
  unfold invoke
  dsimp only
  split
  · exact Or.inl rfl
  · exact Or.inl rfl
  · rename_i identity hidentity
    split
    · exact Or.inl rfl
    · exact Or.inl rfl
    · rename_i tool htool
      split
      · exact Or.inl rfl
      · rename_i hleft
        split
        · exact Or.inl rfl
        · rename_i argumentArmor hargument
          split
          · exact Or.inl rfl
          · rename_i hpassed
            refine Or.inr ⟨identity, tool, argumentArmor, hidentity, htool, hleft, hargument,
              Bool.eq_false_iff.mpr hpassed, ?_⟩
            rw [execute_handled]
            rfl

end AgentGateway

end Steps

variable {K W : Type}

/-- The gateway with this verifier. -/
def AgentIdentityVerifier.guard (v : AgentIdentityVerifier) (lib : IdentityLibrary K)
    (g : AgentGateway Credential W) : AgentGateway Credential W :=
  { g with verify := v.verify lib }

/-- The call has all the authority that a handler is called with. -/
structure Authorised (lib : IdentityLibrary K) (v : AgentIdentityVerifier)
    (g : AgentGateway Credential W) (ambient : GatewayAmbient) (r : GatewayRequest Credential)
    (s : GatewayState W) (identity : AgentIdentity) : Prop where
  authentic : ∃ signed, AgentIdentityVerifier.read lib r.signedIdentity = .ok signed ∧
    signed.identity = identity ∧
    (∃ issuedAt expiresAt, v.Current signed ambient.now issuedAt expiresAt) ∧
    ∃ key signature, v.Signed lib signed key signature
  unrevoked : v.isRevoked identity.identityId = .ok false
  bound : AgentIdentityVerifier.Bound identity r.envelope
  admitted : Admitted g.tables.conversions identity r
  within : (g.budgetOf r s).Within
  callsLeft : (g.budgetOf r s).calls < (g.budgetOf r s).maxCalls
  screened : ∃ argumentArmor, inspectToolCall g.tables g.armor r.arguments
    identity.grantedEvidenceScopes identity.forbiddenActions = .ok argumentArmor ∧
      argumentArmor.blocked = false

/-- A call calls no handler, or it has all the authority for its tool and calls the handler of it
once, with its own arguments and the identity of the credential. -/
theorem call_authorised (lib : IdentityLibrary K) (v : AgentIdentityVerifier)
    (g : AgentGateway Credential W) (ambient : GatewayAmbient) (r : GatewayRequest Credential)
    (s : GatewayState W) :
    ((v.guard lib g).invoke ambient r s).2.handled = s.handled ∨
      ∃ identity, Authorised lib v g ambient r s identity ∧
        ((v.guard lib g).invoke ambient r s).2.handled =
          s.handled ++ [⟨r.toolName, r.arguments, identity⟩] := by
  rcases @AgentGateway.invoke_handled _ _ (v.guard lib g) ambient r s with hnone |
    ⟨identity, tool, argumentArmor, hidentity, htool, hleft, hargument, hpassed, hhandled⟩
  · exact Or.inl hnone
  · obtain ⟨signed, hread, hsame, hcurrent, hsigned, hrevoked, hbound⟩ :=
      AgentIdentityVerifier.verify_eq_ok hidentity
    obtain ⟨hwithin, hcalls⟩ := within_of_exceeded hleft
    refine Or.inr ⟨identity, ⟨⟨signed, hread, hsame, hcurrent, hsigned⟩, hrevoked, hbound, ?_,
      hwithin, hcalls, argumentArmor, hargument, hpassed⟩, hhandled⟩
    exact AgentGateway.admitted_of_admission htool

end Governance
