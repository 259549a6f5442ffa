import Mathlib.Data.List.Induction
import CredentialPolicy.Proofs.CredentialScopes

namespace CredentialPolicy

structure IsListOf (p : String → Prop) (texts : List String) : Prop where
  ascending : texts.Pairwise (· < ·)
  mem_iff (text : String) : text ∈ texts ↔ p text

namespace IsListOf

variable {p q : String → Prop} {texts others : List String}

theorem congr (h : IsListOf p texts) (hpq : ∀ text, p text ↔ q text) : IsListOf q texts :=
  ⟨h.ascending, fun text => (h.mem_iff text).trans (hpq text)⟩

theorem eq (h : IsListOf p texts) (hother : IsListOf p others) : texts = others := by
  have hperm : texts.Perm others := by
    refine (List.perm_ext_iff_of_nodup ?_ ?_).2 fun text => ?_
    · exact h.ascending.imp Std.ne_of_lt
    · exact hother.ascending.imp Std.ne_of_lt
    · rw [h.mem_iff, hother.mem_iff]
  exact hperm.eq_of_pairwise (fun _ _ _ _ hlt hgt => absurd hgt (String.lt_asymm hlt))
    h.ascending hother.ascending

theorem eq_nil (h : IsListOf p texts) (hp : ∀ text, ¬ p text) : texts = [] :=
  List.eq_nil_iff_forall_not_mem.2 fun text htext => hp text ((h.mem_iff text).1 htext)

end IsListOf

theorem pairwise_sortedOnce (texts : List String) : (sortedOnce texts).Pairwise (· < ·) :=
  List.pairwise_map.2 (Members.ofList (texts.map fun t => (t, ()))).ascending

def Yields (extractors : List ScopeExtractor) (policy : Policy) (ctx : RequestPolicyContext)
    (scope : String) : Prop :=
  ∃ p ∈ policy.permissions, ∃ c ∈ p.constraints, ∃ x ∈ extractors, scope ∈ x c ctx

theorem yields_iff {extractors : List ScopeExtractor} {policy : Policy}
    {ctx : RequestPolicyContext} {scope : String} :
    Yields extractors policy ctx scope ↔
      ∃ c ∈ policy.constraints, ∃ x ∈ extractors, scope ∈ x c ctx := by
  constructor
  · rintro ⟨p, hp, c, hc, hx⟩
    exact ⟨c, List.mem_flatMap.2 ⟨p, hp, hc⟩, hx⟩
  · rintro ⟨c, hc, hx⟩
    obtain ⟨p, hp, hc⟩ := List.mem_flatMap.1 hc
    exact ⟨p, hp, c, hc, hx⟩

theorem yields_append {extractors : List ScopeExtractor} {policy other : Policy}
    {ctx : RequestPolicyContext} {scope : String} :
    Yields extractors ⟨policy.permissions ++ other.permissions⟩ ctx scope ↔
      Yields extractors policy ctx scope ∨ Yields extractors other ctx scope := by
  simp only [Yields, List.mem_append, or_and_right, exists_or]

namespace ScopeExtractorRegistry

def ofExtractors (extractors : List ScopeExtractor) : ScopeExtractorRegistry :=
  extractors.foldl register empty

theorem extractors_ofExtractors (extractors : List ScopeExtractor) :
    (ofExtractors extractors).extractors = extractors := by
  induction extractors using List.reverseRecOn with
  | nil => rfl
  | append_singleton extractors last ih =>
    rw [ofExtractors, List.foldl_append, ← ofExtractors, List.foldl_cons, List.foldl_nil, register,
      ih]

theorem isListOf_collect (extractors : List ScopeExtractor) (policy : Policy)
    (ctx : RequestPolicyContext) :
    IsListOf (Yields extractors policy ctx) ((ofExtractors extractors).collect policy ctx) := by
  refine ⟨pairwise_sortedOnce _, fun scope => ?_⟩
  rw [mem_collect, extractors_ofExtractors, yields_iff]

theorem collect_congr (extractors others : List ScopeExtractor) {policy other : Policy}
    {ctx otherCtx : RequestPolicyContext}
    (h : ∀ scope, Yields others other otherCtx scope ↔ Yields extractors policy ctx scope) :
    (ofExtractors others).collect other otherCtx = (ofExtractors extractors).collect policy ctx :=
  ((isListOf_collect others other otherCtx).congr h).eq (isListOf_collect extractors policy ctx)

end ScopeExtractorRegistry

def RequestPolicyContext.IsSupported (ctx : RequestPolicyContext) : Prop :=
  ∃ message, ctx.message = some message ∧ message.isSupported = true

namespace CredentialScopeExtractor

theorem mem_scopes_iff (x : CredentialScopeExtractor) (c : Constraint)
    (ctx : RequestPolicyContext) (scope : String) :
    scope ∈ x.scopes c ctx ↔
      ctx.IsSupported ∧
        ∃ token, x.credentialType? c.leftOperand = some token ∧ scope = x.scopeOf token := by
  have hsupported : ctx.message.any (·.isSupported) = true ↔ ctx.IsSupported :=
    Option.any_eq_true _ _
  rw [← hsupported]
  unfold scopes
  split
  · next h =>
    simp only [h, true_and, Option.mem_toList, Option.map_eq_some_iff, eq_comm (a := scope)]
  · next h => simp [h]

theorem yields_scopes_iff (x : CredentialScopeExtractor) (policy : Policy)
    (ctx : RequestPolicyContext) (scope : String) :
    Yields [x.scopes] policy ctx scope ↔
      ctx.IsSupported ∧ ∃ left ∈ policy.constraints.map (·.leftOperand),
        ∃ token, x.credentialType? left = some token ∧ scope = x.scopeOf token := by
  simp only [yields_iff, List.mem_singleton, exists_eq_left, mem_scopes_iff, List.mem_map,
    exists_exists_and_eq_and]
  constructor
  · rintro ⟨c, hc, hmessage, htoken⟩
    exact ⟨hmessage, c, hc, htoken⟩
  · rintro ⟨hmessage, c, hc, htoken⟩
    exact ⟨c, hc, hmessage, htoken⟩

end CredentialScopeExtractor

namespace ScopeExtractorRegistry

section

variable (config : Configuration) {policy other : Policy} {ctx otherCtx : RequestPolicyContext}

theorem isListOf_forCredentials (policy : Policy) (ctx : RequestPolicyContext) :
    IsListOf (Yields [(CredentialScopeExtractor.ofConfiguration config).scopes] policy ctx)
      ((forCredentials config).collect policy ctx) :=
  isListOf_collect [(CredentialScopeExtractor.ofConfiguration config).scopes] policy ctx

theorem forCredentials_of_unsupported (h : ¬ ctx.IsSupported) :
    (forCredentials config).collect policy ctx = [] :=
  (isListOf_forCredentials config policy ctx).eq_nil fun scope hscope =>
    h ((CredentialScopeExtractor.yields_scopes_iff _ policy ctx scope).1 hscope).1

theorem forCredentials_congr (h : ctx.IsSupported) (hother : otherCtx.IsSupported)
    (hleft : ∀ left, left ∈ other.constraints.map (·.leftOperand) ↔
      left ∈ policy.constraints.map (·.leftOperand)) :
    (forCredentials config).collect other otherCtx = (forCredentials config).collect policy ctx := by
  let x := CredentialScopeExtractor.ofConfiguration config
  refine collect_congr [x.scopes] [x.scopes] fun scope => ?_
  rw [x.yields_scopes_iff, x.yields_scopes_iff]
  simp only [h, hother, hleft]

end

theorem collect_is_union (extractors : List ScopeExtractor) (policy : Policy)
    (ctx : RequestPolicyContext) :
    let collected := (ofExtractors extractors).collect
    IsListOf (Yields extractors policy ctx) (collected policy ctx) ∧
    (∀ (others : List ScopeExtractor) (other : Policy), (∀ x, x ∈ others ↔ x ∈ extractors) →
      (∀ c, c ∈ other.constraints ↔ c ∈ policy.constraints) →
      (ofExtractors others).collect other ctx = collected policy ctx) ∧
    (∀ other : Policy,
      IsListOf (fun scope => scope ∈ collected policy ctx ∨ scope ∈ collected other ctx)
        (collected ⟨policy.permissions ++ other.permissions⟩ ctx)) ∧
    ∀ config : Configuration,
      let x := CredentialScopeExtractor.ofConfiguration config
      let requested := (forCredentials config).collect
      (¬ ctx.IsSupported → requested policy ctx = []) ∧
      (ctx.IsSupported →
        IsListOf
          (fun scope => ∃ p ∈ policy.permissions, ∃ c ∈ p.constraints, ∃ token,
            x.credentialType? c.leftOperand = some token ∧
              scope = config.credentialTypeNamespace ++ ":" ++ token ++ "Credential:read")
          (requested policy ctx) ∧
        ∀ (other : Policy) (otherCtx : RequestPolicyContext), otherCtx.IsSupported →
          (∀ left, left ∈ other.constraints.map (·.leftOperand) ↔
            left ∈ policy.constraints.map (·.leftOperand)) →
          requested other otherCtx = requested policy ctx) := by
  intro collected
  have hcollected := isListOf_collect extractors
  refine ⟨hcollected policy ctx, ?_, ?_, ?_⟩
  · intro others other hextractors hconstraints
    refine collect_congr extractors others fun scope => ?_
    simp only [yields_iff, hextractors, hconstraints]
  · intro other
    refine (hcollected _ ctx).congr fun scope => ?_
    rw [yields_append, ← (hcollected policy ctx).mem_iff, ← (hcollected other ctx).mem_iff]
  · intro config x requested
    refine ⟨forCredentials_of_unsupported config, fun hsupported => ⟨?_, ?_⟩⟩
    · refine (isListOf_forCredentials config policy ctx).congr fun scope => ?_
      simp only [Yields, List.mem_singleton, exists_eq_left,
        CredentialScopeExtractor.mem_scopes_iff, hsupported, true_and,
        CredentialScopeExtractor.scopeOf_eq]
      rfl
    · intro other otherCtx hother hleft
      exact forCredentials_congr config hsupported hother hleft

theorem collect_is_union_reordered :
    let partner : Constraint := ⟨"BusinessPartnerDID", .eq, .scalar "did:web:partner.example"⟩
    let membership : Constraint :=
      ⟨Vocabulary.policyNamespace ++ "membership", .eq, .scalar "active"⟩
    let certification : Constraint :=
      ⟨Vocabulary.policyNamespace ++ "CertificationType.pcf", .eq, .scalar "ISO9001"⟩
    let policy : Policy := ⟨[⟨"use", [membership, partner]⟩, ⟨"use", [certification]⟩]⟩
    let reworded : Policy :=
      ⟨[⟨"read", [certification, { membership with operator := .neq }, partner, certification]⟩]⟩
    let ctx : RequestPolicyContext := .forMessage (some .catalogRequest)
    let scopes := (CredentialScopeExtractor.ofConfiguration {}).scopes
    let operands : ScopeExtractor := fun c _ => [c.leftOperand]
    (forCredentials {}).collect policy ctx =
        ["org.factoryx.vc.type:CertificationTypeCredential:read",
          "org.factoryx.vc.type:MembershipCredential:read"] ∧
      (forCredentials {}).collect reworded (.forMessage (some .transferRequest)) =
        (forCredentials {}).collect policy ctx ∧
      (forCredentials {}).collect policy (.forMessage (some .contractAgreement)) = [] ∧
      (ofExtractors [operands, scopes, operands]).collect ⟨policy.permissions.reverse⟩ ctx =
        (ofExtractors [scopes, operands]).collect policy ctx := by
  intro partner membership certification policy reworded ctx scopes operands
  obtain ⟨-, hreordered, -, hcredentials⟩ := collect_is_union [scopes, operands] policy ctx
  obtain ⟨-, -, -, hother⟩ :=
    collect_is_union [scopes] policy (.forMessage (some .contractAgreement))
  have hsupported (message : MessageKind) (h : message.isSupported = true) :
      (RequestPolicyContext.forMessage (some message)).IsSupported := ⟨message, rfl, h⟩
  refine ⟨by decide +kernel, ?_, (hother {}).1 ?_, hreordered _ _ ?_ ?_⟩
  · refine ((hcredentials {}).2 (hsupported .catalogRequest rfl)).2 reworded _
      (hsupported .transferRequest rfl) fun left => ?_
    have hleft : policy.constraints.map (·.leftOperand) =
        [membership.leftOperand, partner.leftOperand, certification.leftOperand] := rfl
    have hreworded : reworded.constraints.map (·.leftOperand) =
        [certification.leftOperand, membership.leftOperand, partner.leftOperand,
          certification.leftOperand] := rfl
    rw [hleft, hreworded]
    simp only [List.mem_cons, List.not_mem_nil, or_false]
    grind
  · rintro ⟨message, hmessage, h⟩
    cases hmessage
    cases h
  · intro x
    simp only [List.mem_cons, List.not_mem_nil, or_false]
    grind
  · intro c
    have hconstraints : policy.constraints = [membership, partner, certification] := rfl
    have hreversed : (Policy.mk policy.permissions.reverse).constraints =
        [certification, membership, partner] := rfl
    rw [hconstraints, hreversed]
    simp only [List.mem_cons, List.not_mem_nil, or_false]
    grind

end ScopeExtractorRegistry

end CredentialPolicy
