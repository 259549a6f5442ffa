import CredentialPolicy.Proofs.Composition
import CredentialPolicy.Proofs.DefinitionCheck
import CredentialPolicy.Url

namespace CredentialPolicy

open FunctionKind (credentialKinds)

def IsPartnerSpelling (config : Configuration) (leftOperand : String) : Prop :=
  leftOperand = Vocabulary.businessPartnerDid ∨
    leftOperand = config.policyNamespace ++ Vocabulary.businessPartnerDid

theorem isEnforced_partner_iff (config : Configuration) {scope : PolicyScope}
    (hscope : scope ∈ PolicyScope.functionScopes) (leftOperand : String) :
    IsEnforced config .businessPartnerDid scope leftOperand ↔
      IsPartnerSpelling config leftOperand :=
  (isEnforced_iff_handles config _ hscope leftOperand).trans
    (ConstraintFunction.handles_partner_iff rfl leftOperand)

theorem RuleBindings.isInScope_eq_false (config : Configuration) {leftOperand : String}
    (hpartner : ¬ IsPartnerSpelling config leftOperand) (huse : leftOperand ≠ useAction)
    (hcredential : ∀ kind ∈ credentialKinds,
      Text.begins (config.policyNamespace ++ kind.literal) leftOperand = false)
    (scope : PolicyScope) : (configured config).2.isInScope leftOperand scope = false := by
  refine Bool.eq_false_iff.2 fun h => ?_
  rcases (isInScope_configured config leftOperand scope).1 h with ⟨kind, hkind, hrest⟩ | ⟨-, hkey⟩
  · have hbegins := (Text.begins_iff _ _).2 hrest
    rw [hcredential kind hkind] at hbegins
    cases hbegins
  · rcases List.mem_cons.1 hkey with huseAction | hspelled
    · exact huse huseAction
    · exact hpartner (by simpa [IsPartnerSpelling] using hspelled)

theorem partner_enforced_iff_spelled [DateFormat] (config : Configuration) {leftOperand : String}
    (hselects : PolicyDefinition.selectsPartner leftOperand = true) :
    (∀ scope ∈ PolicyScope.functionScopes,
      IsEnforced config .businessPartnerDid scope leftOperand ↔
        IsPartnerSpelling config leftOperand) ∧
    (∀ kind ∈ credentialKinds, ∀ scope ∈ PolicyScope.functionScopes,
      IsEnforced config kind scope leftOperand ↔
        Text.begins (config.policyNamespace ++ kind.literal) leftOperand = true) ∧
    (¬ IsPartnerSpelling config leftOperand →
      (∀ kind ∈ credentialKinds,
        Text.begins (config.policyNamespace ++ kind.literal) leftOperand = false) →
      ∀ (operator : Operator) (right : RightOperand) (ctx : PolicyContext),
        (configured config).1.evaluateConstraint (configured config).2
          ⟨leftOperand, operator, right⟩ ctx = (true, ctx)) := by
  refine ⟨fun scope hscope => ?_, fun kind hkind scope hscope => ?_, ?_⟩
  · exact isEnforced_partner_iff config hscope leftOperand
  · rw [isEnforced_iff config hkind hscope, Text.begins_iff]
  · intro hpartner hcredential operator right ctx
    have huse : leftOperand ≠ RuleBindings.useAction := by
      rintro rfl
      exact absurd hselects (by decide)
    have hunbound : (configured config).2.isInScope leftOperand ctx.scope = false :=
      RuleBindings.isInScope_eq_false config hpartner huse hcredential ctx.scope
    exact PolicyEngine.evaluateConstraint_of_unbound _ _ hunbound

theorem partner_enforced_iff_spelled_membership :
    let partner := Vocabulary.policyNamespace ++ "BusinessPartnerDID"
    let membership := Vocabulary.policyNamespace ++ "Membership/BusinessPartnerDID"
    let foreign := "https://other.example/terms#BusinessPartnerDid"
    let ctx : PolicyContext := .start .catalog none
    (∀ leftOperand ∈ [partner, membership, foreign],
      PolicyDefinition.selectsPartner leftOperand = true) ∧
    IsEnforced {} .businessPartnerDid .catalog partner ∧
    IsEnforced {} .membership .catalog membership ∧
    ¬ IsEnforced {} .businessPartnerDid .catalog membership ∧
    (configured {}).1.evaluateConstraint (configured {}).2
      ⟨foreign, .eq, .scalar "did:web:partner.example"⟩ ctx = (true, ctx) := by
  intro partner membership foreign ctx
  have hpartner : PolicyDefinition.selectsPartner partner = true := by decide +kernel
  have hmembership : PolicyDefinition.selectsPartner membership = true := by decide +kernel
  have hforeign : PolicyDefinition.selectsPartner foreign = true := by decide +kernel
  have hscope : PolicyScope.catalog ∈ PolicyScope.functionScopes := by decide
  have hkind : FunctionKind.membership ∈ credentialKinds := by decide
  obtain ⟨hspelled, -, -⟩ := partner_enforced_iff_spelled {} hpartner
  obtain ⟨hother, hbegins, -⟩ := partner_enforced_iff_spelled {} hmembership
  obtain ⟨-, -, hgranted⟩ := partner_enforced_iff_spelled {} hforeign
  refine ⟨by simp [hpartner, hmembership, hforeign], ?_, ?_, ?_, ?_⟩
  · exact (hspelled .catalog hscope).2 (.inr rfl)
  · exact (hbegins .membership hkind .catalog hscope).2 (by decide +kernel)
  · intro h
    exact absurd ((hother .catalog hscope).1 h) (by unfold IsPartnerSpelling; decide +kernel)
  · exact hgranted (by unfold IsPartnerSpelling; decide +kernel) (by decide +kernel) _ _ ctx

theorem not_forall_selected_partner_enforced :
    ¬ ∀ (config : Configuration) (leftOperand : String) (scope : PolicyScope),
      config.check = .ok () → PolicyDefinition.selectsPartner leftOperand = true →
      scope ∈ PolicyScope.functionScopes →
      IsEnforced config .businessPartnerDid scope leftOperand := by
  intro h
  have henforced := h {} "businesspartnerdid" .catalog Configuration.check_default
    (by decide +kernel) (by decide)
  exact absurd henforced.bound (by decide +kernel)

end CredentialPolicy
