import CredentialPolicy.Proofs.Binding
import CredentialPolicy.Proofs.CaseMapping
import CredentialPolicy.Proofs.CredentialScopes
import CredentialPolicy.Url

namespace CredentialPolicy

open FunctionKind (credentialKinds)

namespace Text

def uncapitalized (text : String) : String :=
  match text.toList with
  | [] => ""
  | c :: rest => String.ofList (lowerAscii c :: rest)

theorem eq_of_upperFirst {literal text : String} {capital : Char} {tail : List Char}
    (hcapital : IsPlainCapital capital) (hliteral : literal.toList = capital :: tail)
    (h : upperFirst text.toList = literal.toList) :
    text = literal ∨ text = uncapitalized literal := by
  rw [hliteral] at h
  rcases upperFirst_eq_cons hcapital h with htext | htext
  · left
    rw [← String.toList_inj, htext, hliteral]
  · right
    rw [← String.toList_inj, htext, uncapitalized, hliteral, String.toList_ofList]

end Text

theorem FunctionKind.exists_capital {kind : FunctionKind} (h : kind ∈ credentialKinds) :
    ∃ capital tail, kind.literal.toList = capital :: tail ∧ Text.IsPlainCapital capital := by
  cases kind with
  | membership => exact ⟨'M', _, rfl, by decide, by decide, by decide, by decide⟩
  | certificationType => exact ⟨'C', _, rfl, by decide, by decide, by decide, by decide⟩
  | businessPartnerDid => simp [credentialKinds] at h

theorem CredentialScopeExtractor.spelled_of_mem_scopes (x : CredentialScopeExtractor)
    {kind : FunctionKind} (hkind : kind ∈ credentialKinds) {c : Constraint} {message : MessageKind}
    (hmessage : message.isSupported = true)
    (h : x.scopeOf kind.literal ∈ x.scopes c (.forMessage (some message))) :
    ∃ rest, Text.before '.' rest = "" ∧
      (c.leftOperand = x.policyNamespace ++ kind.literal ++ rest ∨
        c.leftOperand = x.policyNamespace ++ Text.uncapitalized kind.literal ++ rest) := by
  rw [x.scopes_of_isSupported c hmessage] at h
  obtain ⟨token, htoken, hscope⟩ : ∃ token, x.credentialType? c.leftOperand = some token ∧
      x.scopeOf token = x.scopeOf kind.literal := by simpa using h
  rw [x.scopeOf_inj hscope] at htoken
  obtain ⟨name, hleft, -, hupper⟩ := (x.credentialType?_eq_some_iff _ _).1 htoken
  obtain ⟨capital, tail, hliteral, hcapital⟩ := FunctionKind.exists_capital hkind
  obtain ⟨rest, hname, hrest⟩ := Text.exists_eq_before_append '.' name
  refine ⟨rest, hrest, ?_⟩
  rw [hname] at hleft
  rcases Text.eq_of_upperFirst hcapital hliteral hupper.symm with htext | htext
  · left
    rw [hleft, htext, String.append_assoc]
  · right
    rw [hleft, htext, String.append_assoc]

theorem FunctionKind.uncapitalized_append_ne {kind other : FunctionKind}
    (hkind : kind ∈ credentialKinds) (hother : other ∈ credentialKinds) (rest otherRest : String) :
    Text.uncapitalized kind.literal ++ rest ≠ other.literal ++ otherRest := by
  intro h
  have hsmall : Text.uncapitalized kind.literal ≠ "" := by cases kind <;> decide
  have hinitial : (Text.uncapitalized kind.literal).toList.head? = other.literal.toList.head? := by
    rw [← Text.head?_append hsmall rest, h, Text.head?_append other.literal_ne_empty]
  revert hkind hother hinitial
  cases kind <;> cases other <;> decide

theorem FunctionKind.not_contains_uncapitalized {kind : FunctionKind}
    (hkind : kind ∈ credentialKinds) :
    ∀ key ∈ [RuleBindings.useAction, Vocabulary.businessPartnerDid],
      Text.contains (Text.uncapitalized kind.literal) key = false := by
  revert hkind
  cases kind <;> decide

theorem RuleBindings.isInScope_uncapitalized (config : Configuration) {kind : FunctionKind}
    (hkind : kind ∈ credentialKinds) (rest : String) (scope : PolicyScope) :
    (configured config).2.isInScope
      (config.policyNamespace ++ Text.uncapitalized kind.literal ++ rest) scope = false := by
  -- wherever the namespace ends, a key that is bound as it stands does not go on with the literal
  have hne (start key : String) (hkey : key ∈ [useAction, Vocabulary.businessPartnerDid]) :
      start ++ Text.uncapitalized kind.literal ++ rest ≠ key := by
    intro h
    have hcontains : Text.contains (Text.uncapitalized kind.literal) key = true :=
      (Text.contains_iff _ _).2 ⟨start, rest, h.symm⟩
    rw [FunctionKind.not_contains_uncapitalized hkind key hkey] at hcontains
    cases hcontains
  refine Bool.eq_false_iff.2 fun h => ?_
  rcases (isInScope_configured _ _ _).1 h with ⟨other, hother, otherRest, hleft⟩ | ⟨-, hkey⟩
  · rw [String.append_assoc, String.append_assoc, String.append_right_inj] at hleft
    exact FunctionKind.uncapitalized_append_ne hkind hother rest otherRest hleft
  · simp only [namedKeys, List.mem_cons, List.not_mem_nil, or_false] at hkey
    rcases hkey with huse | hbare | hnamespaced
    · exact hne _ _ (by simp) huse
    · exact hne _ _ (by simp) hbare
    · rw [String.append_assoc, String.append_right_inj] at hnamespaced
      exact hne "" Vocabulary.businessPartnerDid (by simp) (by simpa using hnamespaced)

theorem enforced_iff_begins_literal [DateFormat] (config : Configuration) {message : MessageKind}
    (hmessage : message.isSupported = true) {kind : FunctionKind} (hkind : kind ∈ credentialKinds)
    {c : Constraint}
    (hrequested : config.credentialTypeNamespace ++ ":" ++ kind.literal ++ "Credential:read" ∈
      (CredentialScopeExtractor.ofConfiguration config).scopes c (.forMessage (some message))) :
    ((∀ scope ∈ PolicyScope.functionScopes, IsEnforced config kind scope c.leftOperand) ↔
      Text.begins (config.policyNamespace ++ kind.literal) c.leftOperand = true) ∧
    (Text.begins (config.policyNamespace ++ kind.literal) c.leftOperand = false →
      (∃ rest, c.leftOperand = config.policyNamespace ++ Text.uncapitalized kind.literal ++ rest ∧
        (rest = "" ∨ ∃ suffix, rest = "." ++ suffix)) ∧
      ∀ ctx : PolicyContext,
        (configured config).1.evaluateConstraint (configured config).2 c ctx = (true, ctx)) := by
  let x := CredentialScopeExtractor.ofConfiguration config
  have hscope : x.scopeOf kind.literal ∈ x.scopes c (.forMessage (some message)) := by
    rw [x.scopeOf_eq]
    exact hrequested
  obtain ⟨rest, hrest, hleft⟩ := x.spelled_of_mem_scopes hkind hmessage hscope
  refine ⟨?_, ?_⟩
  · rw [Text.begins_iff]
    constructor
    · intro h
      exact (isEnforced_iff config hkind (by decide) _).1 (h .catalog (by decide))
    · intro h scope hfunction
      exact (isEnforced_iff config hkind hfunction _).2 h
  · intro hbegins
    rcases hleft with hcapital | hsmall
    · have hspelled : Text.begins (config.policyNamespace ++ kind.literal) c.leftOperand = true :=
        (Text.begins_iff _ _).2 ⟨rest, hcapital⟩
      exact absurd (hbegins.symm.trans hspelled) Bool.false_ne_true
    · refine ⟨⟨rest, hsmall, (Text.before_eq_empty_iff '.' rest).1 hrest⟩, fun ctx => ?_⟩
      have hunbound : (configured config).2.isInScope c.leftOperand ctx.scope = false := by
        rw [hsmall]
        exact RuleBindings.isInScope_uncapitalized config hkind rest ctx.scope
      rw [PolicyEngine.evaluateConstraint, PolicyEngine.decide_of_unbound _ _ _ _ hunbound]
      rfl

theorem enforced_iff_begins_literal_membership :
    let small : Constraint :=
      ⟨Vocabulary.policyNamespace ++ "membership.gold", .eq, .scalar "active"⟩
    let capital : Constraint :=
      ⟨Vocabulary.policyNamespace ++ "Membership.gold", .eq, .scalar "active"⟩
    let requested (c : Constraint) : Prop := "org.factoryx.vc.type:MembershipCredential:read" ∈
      (CredentialScopeExtractor.ofConfiguration {}).scopes c (.forMessage (some .catalogRequest))
    let ctx : PolicyContext := .start .catalog none
    requested small ∧ requested capital ∧
      (configured {}).1.evaluateConstraint (configured {}).2 small ctx = (true, ctx) ∧
      ∀ scope ∈ PolicyScope.functionScopes, IsEnforced {} .membership scope capital.leftOperand := by
  intro small capital requested ctx
  have hmessage : MessageKind.isSupported .catalogRequest = true := rfl
  have hkind : FunctionKind.membership ∈ credentialKinds := by decide
  have hsmall : requested small := by decide +kernel
  have hcapital : requested capital := by decide +kernel
  refine ⟨hsmall, hcapital, ?_, ?_⟩
  · exact ((enforced_iff_begins_literal {} hmessage hkind hsmall).2 (by decide +kernel)).2 ctx
  · exact (enforced_iff_begins_literal {} hmessage hkind hcapital).1.2 (by decide +kernel)

theorem not_forall_requested_enforced :
    ¬ ∀ (config : Configuration) (message : MessageKind) (kind : FunctionKind)
      (scope : PolicyScope) (c : Constraint), config.check = .ok () →
      message.isSupported = true → kind ∈ credentialKinds → scope ∈ PolicyScope.functionScopes →
      config.credentialTypeNamespace ++ ":" ++ kind.literal ++ "Credential:read" ∈
        (CredentialScopeExtractor.ofConfiguration config).scopes c (.forMessage (some message)) →
      IsEnforced config kind scope c.leftOperand := by
  intro h
  have henforced := h {} .catalogRequest .membership .catalog
    ⟨Vocabulary.policyNamespace ++ "membership", .eq, .scalar "active"⟩
    Configuration.check_default rfl (by decide) (by decide) (by decide +kernel)
  exact absurd henforced.bound (by decide +kernel)

end CredentialPolicy
