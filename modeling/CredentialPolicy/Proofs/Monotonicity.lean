import CredentialPolicy.Proofs.Reporting

namespace CredentialPolicy

open FunctionKind (credentialKinds)

namespace ConstraintFunction

theorem Finds.mono {f : ConstraintFunction} {credentials more : List Credential}
    (h : f.Finds credentials)
    (htypes : ∀ tag ∈ Credential.typesIn credentials, tag ∈ Credential.typesIn more) :
    f.Finds more := by
  obtain ⟨tag, htag, hname⟩ := h
  exact ⟨tag, htypes tag htag, hname⟩

theorem Decides.mono [DateFormat] {f : ConstraintFunction} {operator : Operator}
    {right : RightOperand} {p q : Participant} {credentials more : List Credential}
    (hidentity : p.identity = q.identity) (hp : p.credentials = .ok credentials)
    (hq : q.credentials = .ok more)
    (htypes : ∀ tag ∈ Credential.typesIn credentials, tag ∈ Credential.typesIn more)
    (hpresence : f.kind ∈ credentialKinds → operator ≠ .neq)
    (h : f.Decides operator right (some p) true) : f.Decides operator right (some q) true := by
  cases h with
  | presence hkind hoperator hright hpresented hgranted =>
    obtain rfl := Except.ok.inj (hp.symm.trans hpresented)
    have hfound : f.Finds credentials := by simpa [hpresence hkind] using hgranted
    refine .presence hkind hoperator hright hq ?_
    simpa [hpresence hkind] using hfound.mono htypes
  | identity hkind hfits hpresented hgranted =>
    -- what is presented does not matter, in whatever direction the identity is compared
    exact .identity hkind hfits (hidentity ▸ hpresented) hgranted

end ConstraintFunction

namespace PolicyEngine

open PolicyContext

variable (engine : PolicyEngine) (bindings : RuleBindings)

def NeverAsksForAbsence (scope : PolicyScope) (policy : Policy) : Prop :=
  ∀ c ∈ policy.constraints, bindings.isInScope c.leftOperand scope = true →
    ∀ f, ConstraintFunction.select? (engine.functions scope) c.leftOperand = some f →
      f.kind ∈ credentialKinds → c.operator ≠ .neq

theorem isGrant_decide_mono [DateFormat] {scope : PolicyScope} {policy : Policy}
    (habsence : engine.NeverAsksForAbsence bindings scope policy) {p q : Participant}
    {credentials more : List Credential} (hidentity : p.identity = q.identity)
    (hp : p.credentials = .ok credentials) (hq : q.credentials = .ok more)
    (htypes : ∀ tag ∈ Credential.typesIn credentials, tag ∈ Credential.typesIn more)
    {c : Constraint} (hc : c ∈ policy.constraints)
    (h : isGrant (engine.decide bindings scope (some p) c) = true) :
    isGrant (engine.decide bindings scope (some q) c) = true := by
  rw [isGrant_iff, decide_eq_ok_iff] at h ⊢
  split at h
  · next hbound =>
    obtain ⟨f, hselected, hdecides⟩ := h
    rw [if_pos hbound]
    exact ⟨f, hselected, hdecides.mono hidentity hp hq htypes (habsence c hc hbound f hselected)⟩
  · next hunbound => rw [if_neg hunbound]

theorem evaluatePolicy_mono [DateFormat] (policy : Policy) {ctx other : PolicyContext}
    (hscope : other.scope = ctx.scope) {p q : Participant} (hp : ctx.participant = some p)
    (hq : other.participant = some q) (hidentity : p.identity = q.identity)
    {credentials more : List Credential} (hcredentials : p.credentials = .ok credentials)
    (hmore : q.credentials = .ok more)
    (htypes : ∀ tag ∈ Credential.typesIn credentials, tag ∈ Credential.typesIn more)
    (habsence : engine.NeverAsksForAbsence bindings ctx.scope policy)
    (hgranted : (engine.evaluatePolicy bindings policy ctx).1 = true) :
    (engine.evaluatePolicy bindings policy other).1 = true ∧
      (engine.evaluatePolicy bindings policy other).2.problems = other.problems := by
  rw [evaluatePolicy_eq, List.all_eq_true, hp] at hgranted
  have hkept : ∀ c ∈ policy.constraints,
      isGrant (engine.decide bindings ctx.scope (some q) c) = true := by
    intro c hc
    exact engine.isGrant_decide_mono bindings habsence hidentity hcredentials hmore htypes hc
      (hgranted c hc)
  rw [evaluatePolicy_eq, hscope, hq]
  refine ⟨List.all_eq_true.2 hkept, ?_⟩
  have hsilent : policy.constraints.flatMap (fun c =>
      problemsOf (engine.decide bindings ctx.scope (some q) c)) = [] :=
    List.flatMap_eq_nil_iff.2 fun c hc => problemsOf_eq_nil_of_isGrant (hkept c hc)
  simp [hsilent]

theorem evaluatePolicy_mono_negated :
    let policy : Policy :=
      ⟨[⟨"use", [⟨Vocabulary.policyNamespace ++ "Membership", .eq, .scalar "active"⟩,
        ⟨Vocabulary.businessPartnerDid, .isNoneOf, .list ["did:web:a"]⟩]⟩]⟩
    let membership : Credential := .ofTypes ["MembershipCredential"] (.named "did:web:issuer")
    let others : List Credential :=
      [.ofTypes ["OtherCredential"] (.named "did:web:a"),
        .ofTypes ["VerifiableCredential", "MembershipCredential"] (.named "did:web:a")]
    let plain : Participant := ⟨some "did:web:b", .empty⟩
    let p := plain.withClaim Vocabulary.credentialClaim (.credentials [membership])
    let q := plain.withClaim Vocabulary.credentialClaim (.credentials others)
    let ctx : PolicyContext := .start .catalog (some p)
    let other := (PolicyContext.start .catalog (some q)).reportText "earlier"
    let result := (configured {}).1.evaluatePolicy (configured {}).2 policy other
    NeverAsksForAbsence (configured {}).1 (configured {}).2 .catalog policy ∧
      ((configured {}).1.evaluatePolicy (configured {}).2 policy ctx).1 = true ∧
      result.1 = true ∧ result.2.problems = [⟨none, "earlier"⟩] := by
  intro policy membership others plain p q ctx other result
  have habsence : NeverAsksForAbsence (configured {}).1 (configured {}).2 .catalog policy := by
    intro c hc _ f _ _
    have hoperator : ∀ c ∈ policy.constraints, c.operator ≠ .neq := by decide
    exact hoperator c hc
  have htypes : ∀ tag ∈ Credential.typesIn [membership], tag ∈ Credential.typesIn others := by
    decide
  have hgranted : ((configured {}).1.evaluatePolicy (configured {}).2 policy ctx).1 = true := by
    decide +kernel
  have hscope : other.scope = ctx.scope := rfl
  have hp : ctx.participant = some p := rfl
  have hq : other.participant = some q := rfl
  exact ⟨habsence, hgranted,
    evaluatePolicy_mono _ _ policy hscope hp hq rfl rfl rfl htypes habsence hgranted⟩

end PolicyEngine

end CredentialPolicy
