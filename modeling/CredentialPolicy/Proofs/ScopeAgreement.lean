import CredentialPolicy.Proofs.CredentialScopes
import CredentialPolicy.Proofs.Decision
import CredentialPolicy.Url

namespace CredentialPolicy

open FunctionKind (credentialKinds)

structure AsksFor (config : Configuration) (kind : FunctionKind) (c : Constraint) : Prop where
  leftOperand : c.leftOperand = config.policyNamespace ++ kind.literal ∨
    ∃ suffix, c.leftOperand = config.policyNamespace ++ kind.literal ++ "." ++ suffix
  operator : c.operator = .eq
  rightOperand : IsAccepted kind c.rightOperand

structure IsForeign (config : Configuration) (scope : PolicyScope) (c : Constraint) : Prop where
  outside : Text.begins config.policyNamespace c.leftOperand = false
  unbound : (configured config).2.isInScope c.leftOperand scope = false

namespace AsksFor

variable {config : Configuration} {kind : FunctionKind} {c : Constraint}

theorem mem_credentialKinds (h : AsksFor config kind c) : kind ∈ credentialKinds :=
  h.rightOperand.mem_credentialKinds

theorem leftOperand_eq (h : AsksFor config kind c) :
    ∃ rest, c.leftOperand = config.policyNamespace ++ kind.literal ++ rest ∧
      Text.before '.' rest = "" := by
  rcases h.leftOperand with hleft | ⟨suffix, hleft⟩
  · exact ⟨"", by simpa using hleft, rfl⟩
  · refine ⟨"." ++ suffix, by rw [hleft, String.append_assoc], ?_⟩
    exact (Text.before_eq_empty_iff _ _).2 (.inr ⟨suffix, rfl⟩)

theorem decide_eq [DateFormat] (h : AsksFor config kind c) {scope : PolicyScope}
    (hscope : scope ∈ PolicyScope.functionScopes) {p : Participant} {credentials : List Credential}
    (hcredentials : p.credentials = .ok credentials) :
    (configured config).1.decide (configured config).2 scope (some p) c =
      .ok (credentials.any (·.hasType config.credentialNamespace kind.credentialType)) := by
  have hkind := h.mem_credentialKinds
  obtain ⟨rest, hleft, -⟩ := h.leftOperand_eq
  obtain ⟨hbound, hselect⟩ := (isEnforced_iff config hkind hscope c.leftOperand).2 ⟨rest, hleft⟩
  let f : ConstraintFunction := ⟨kind, config⟩
  rw [PolicyEngine.decide, if_pos hbound, hselect, h.operator]
  refine (f.decide_eq_ok_iff .eq c.rightOperand (some p) _).2 ?_
  exact .presence hkind (.inl rfl) h.rightOperand hcredentials (f.any_hasType_iff credentials)

theorem scopes_eq (h : AsksFor config kind c) {message : MessageKind}
    (hmessage : message.isSupported = true) :
    (CredentialScopeExtractor.ofConfiguration config).scopes c (.forMessage (some message)) =
      [(CredentialScopeExtractor.ofConfiguration config).scopeOf kind.literal] := by
  obtain ⟨rest, hleft, hrest⟩ := h.leftOperand_eq
  rw [CredentialScopeExtractor.scopes_literal_append _ c hmessage h.mem_credentialKinds hleft,
    hrest, String.append_empty]

end AsksFor

namespace IsForeign

variable {config : Configuration} {scope : PolicyScope} {c : Constraint}

theorem decide_eq [DateFormat] (h : IsForeign config scope c) (participant : Option Participant) :
    (configured config).1.decide (configured config).2 scope participant c = .ok true :=
  PolicyEngine.decide_of_unbound _ _ scope participant h.unbound

theorem scopes_eq (h : IsForeign config scope c) (ctx : RequestPolicyContext) :
    (CredentialScopeExtractor.ofConfiguration config).scopes c ctx = [] :=
  CredentialScopeExtractor.scopes_of_foreign _ c ctx h.outside

end IsForeign

def IsAgreed (config : Configuration) (scope : PolicyScope) (policy : Policy) : Prop :=
  ∀ c ∈ policy.constraints, (∃ kind, AsksFor config kind c) ∨ IsForeign config scope c

namespace IsAgreed

variable {config : Configuration} {scope : PolicyScope} {policy : Policy}

theorem mem_collect_iff (h : IsAgreed config scope policy) {message : MessageKind}
    (hmessage : message.isSupported = true) (kind : FunctionKind) :
    (CredentialScopeExtractor.ofConfiguration config).scopeOf kind.literal ∈
        (ScopeExtractorRegistry.forCredentials config).collect policy
          (.forMessage (some message)) ↔
      ∃ c ∈ policy.constraints, AsksFor config kind c := by
  rw [mem_collect_forCredentials]
  constructor
  · rintro ⟨c, hc, hscope⟩
    rcases h c hc with ⟨other, hasks⟩ | hforeign
    · rw [hasks.scopes_eq hmessage, List.mem_singleton] at hscope
      -- a scope gives the kind away that it was made for
      have hliteral := CredentialScopeExtractor.scopeOf_inj _ hscope
      have hkind : kind = other :=
        FunctionKind.eq_of_literal_append (congrArg (· ++ "") hliteral)
      exact ⟨c, hc, hkind ▸ hasks⟩
    · rw [hforeign.scopes_eq] at hscope
      exact absurd hscope List.not_mem_nil
  · rintro ⟨c, hc, hasks⟩
    refine ⟨c, hc, ?_⟩
    rw [hasks.scopes_eq hmessage]
    exact List.mem_singleton_self _

theorem decide_eq [DateFormat] (h : IsAgreed config scope policy)
    (hscope : scope ∈ PolicyScope.functionScopes) {p : Participant} {credentials : List Credential}
    (hcredentials : p.credentials = .ok credentials) {c : Constraint}
    (hc : c ∈ policy.constraints) :
    ∃ granted, (configured config).1.decide (configured config).2 scope (some p) c = .ok granted ∧
      (granted = true ↔ ∀ kind, AsksFor config kind c →
        credentials.any (·.hasType config.credentialNamespace kind.credentialType) = true) := by
  rcases h c hc with ⟨kind, hasks⟩ | hforeign
  · refine ⟨_, hasks.decide_eq hscope hcredentials, fun hgranted other hother => ?_,
      fun hall => hall kind hasks⟩
    -- whatever other kind `c` may ask for as well, its decision is still only one
    have hsame := (hasks.decide_eq hscope hcredentials).symm.trans
      (hother.decide_eq hscope hcredentials)
    rw [← Except.ok.inj hsame]
    exact hgranted
  · refine ⟨true, hforeign.decide_eq (some p), fun _ kind hasks => ?_, fun _ => rfl⟩
    have hsame := (hasks.decide_eq hscope hcredentials).symm.trans (hforeign.decide_eq (some p))
    exact Except.ok.inj hsame

end IsAgreed

theorem granted_iff_holds_collected [DateFormat] (config : Configuration) {message : MessageKind}
    (hmessage : message.isSupported = true) {scope : PolicyScope}
    (hscope : scope ∈ PolicyScope.functionScopes) {policy : Policy}
    (hpolicy : IsAgreed config scope policy) {participant : Participant}
    {credentials : List Credential} (hcredentials : participant.credentials = .ok credentials) :
    let report := evaluate config policy participant scope
    let collected := (ScopeExtractorRegistry.forCredentials config).collect policy
      (.forMessage (some message))
    (report.granted = true ↔
      ∀ kind ∈ credentialKinds,
        config.credentialTypeNamespace ++ ":" ++ kind.literal ++ "Credential:read" ∈ collected →
          ∃ credential ∈ credentials,
            credential.hasType config.credentialNamespace (kind.literal ++ "Credential") = true) ∧
      report.problems = [] := by
  intro report collected
  have hreport : report = _ := evaluate_eq config policy participant scope
  have hcollected (kind : FunctionKind) :
      config.credentialTypeNamespace ++ ":" ++ kind.literal ++ "Credential:read" ∈ collected ↔
        ∃ c ∈ policy.constraints, AsksFor config kind c := by
    rw [← hpolicy.mem_collect_iff hmessage kind, CredentialScopeExtractor.scopeOf_eq]
    rfl
  rw [hreport]
  refine ⟨?_, ?_⟩
  · simp only [List.all_eq_true]
    constructor
    · intro hgranted kind _ hmem
      obtain ⟨c, hc, hasks⟩ := (hcollected kind).1 hmem
      obtain ⟨granted, hdecide, hiff⟩ := hpolicy.decide_eq hscope hcredentials hc
      have := hgranted c hc
      rw [hdecide] at this
      exact List.any_eq_true.1 (hiff.1 this kind hasks)
    · intro hholds c hc
      obtain ⟨granted, hdecide, hiff⟩ := hpolicy.decide_eq hscope hcredentials hc
      rw [hdecide]
      refine hiff.2 fun kind hasks => ?_
      exact List.any_eq_true.2
        (hholds kind hasks.mem_credentialKinds ((hcollected kind).2 ⟨c, hc, hasks⟩))
  · refine List.flatMap_eq_nil_iff.2 fun c hc => ?_
    obtain ⟨granted, hdecide, -⟩ := hpolicy.decide_eq hscope hcredentials hc
    rw [hdecide]
    rfl

theorem granted_iff_holds_collected_missing :
    let membership : Constraint :=
      ⟨Vocabulary.policyNamespace ++ "Membership.gold", .eq, .scalar "active"⟩
    let certification : Constraint :=
      ⟨Vocabulary.policyNamespace ++ "CertificationType", .eq, .scalar "ISO9001"⟩
    let policy : Policy :=
      ⟨[⟨"use", [membership, ⟨"Dismantler", .lt, .list []⟩]⟩, ⟨"use", [certification]⟩]⟩
    let credential : Credential := .ofTypes ["MembershipCredential"] (.named "did:web:issuer")
    let member := Participant.anonymous.withClaim Vocabulary.credentialClaim
      (.credentials [credential])
    let report := evaluate {} policy member .catalog
    IsAgreed {} .catalog policy ∧
      (ScopeExtractorRegistry.forCredentials {}).collect policy
          (.forMessage (some .catalogRequest)) =
        ["org.factoryx.vc.type:CertificationTypeCredential:read",
          "org.factoryx.vc.type:MembershipCredential:read"] ∧
      report.granted = false ∧ report.problems = [] := by
  intro membership certification policy credential member report
  have hmembership : AsksFor {} .membership membership := ⟨.inr ⟨"gold", rfl⟩, rfl, rfl⟩
  have hcertification : AsksFor {} .certificationType certification :=
    ⟨.inl rfl, rfl, .iso9001, rfl⟩
  have hforeign : IsForeign {} .catalog ⟨"Dismantler", .lt, .list []⟩ :=
    ⟨by decide +kernel, by decide +kernel⟩
  have hpolicy : IsAgreed {} .catalog policy := by
    intro c hc
    rcases List.mem_cons.1 hc with rfl | hc
    · exact .inl ⟨_, hmembership⟩
    rcases List.mem_cons.1 hc with rfl | hc
    · exact .inr hforeign
    rcases List.mem_cons.1 hc with rfl | hc
    · exact .inl ⟨_, hcertification⟩
    exact absurd hc List.not_mem_nil
  have hcollected : (ScopeExtractorRegistry.forCredentials {}).collect policy
      (.forMessage (some .catalogRequest)) =
        ["org.factoryx.vc.type:CertificationTypeCredential:read",
          "org.factoryx.vc.type:MembershipCredential:read"] := by decide +kernel
  have hmessage : MessageKind.isSupported .catalogRequest = true := rfl
  have hscope : PolicyScope.catalog ∈ PolicyScope.functionScopes := by decide
  have hcredentials : member.credentials = .ok [credential] := rfl
  obtain ⟨hgranted, hproblems⟩ :=
    granted_iff_holds_collected {} hmessage hscope hpolicy hcredentials
  refine ⟨hpolicy, hcollected, Bool.eq_false_iff.2 fun hreport => ?_, hproblems⟩
  obtain ⟨held, hheld, htype⟩ := hgranted.1 hreport .certificationType (by decide)
    (hcollected ▸ by decide +kernel)
  rw [List.mem_singleton.1 hheld] at htype
  exact absurd htype (by decide +kernel)

theorem scopes_of_selected (config : Configuration) {message : MessageKind}
    (hmessage : message.isSupported = true) {scope : PolicyScope} {c : Constraint}
    {f : ConstraintFunction}
    (hselect : ConstraintFunction.select? ((configured config).1.functions scope) c.leftOperand =
      some f)
    (hkind : f.kind ∈ credentialKinds) :
    let scopes := (CredentialScopeExtractor.ofConfiguration config).scopes c
      (.forMessage (some message))
    ∃ rest, c.leftOperand = config.policyNamespace ++ f.kind.literal ++ rest ∧
      scopes = [config.credentialTypeNamespace ++ ":" ++
        (f.kind.literal ++ Text.before '.' rest) ++ "Credential:read"] ∧
      (scopes = [config.credentialTypeNamespace ++ ":" ++ f.kind.credentialType ++ ":read"] ↔
        rest = "" ∨ ∃ suffix, rest = "." ++ suffix) := by
  intro scopes
  obtain ⟨-, hconfig, hhandles⟩ := (select?_configured_iff config scope _ f).1 hselect
  obtain ⟨rest, hrest⟩ := (ConstraintFunction.handles_iff hkind _).1 hhandles
  rw [hconfig] at hrest
  let x := CredentialScopeExtractor.ofConfiguration config
  have hscopes : scopes = [x.scopeOf (f.kind.literal ++ Text.before '.' rest)] :=
    x.scopes_literal_append c hmessage hkind hrest
  have hrequested :
      config.credentialTypeNamespace ++ ":" ++ f.kind.credentialType ++ ":read" =
        x.scopeOf f.kind.literal := by
    simp [CredentialScopeExtractor.scopeOf, FunctionKind.credentialType, String.append_assoc, x,
      CredentialScopeExtractor.ofConfiguration]
  have hdot : Text.before '.' rest = "" ↔ rest = "" ∨ ∃ suffix, rest = "." ++ suffix :=
    Text.before_eq_empty_iff '.' rest
  refine ⟨rest, hrest, ?_, ?_⟩
  · rw [hscopes, CredentialScopeExtractor.scopeOf_eq]
    rfl
  · rw [hscopes, hrequested, List.singleton_inj, ← hdot]
    constructor
    · intro h
      have hliteral := x.scopeOf_inj h
      simpa using hliteral
    · intro h
      rw [h, String.append_empty]

theorem scopes_of_selected_longer :
    let c : Constraint :=
      ⟨Vocabulary.policyNamespace ++ "Membership" ++ "Level.gold", .neq, .list []⟩
    ConstraintFunction.select? ((configured {}).1.functions .catalog) c.leftOperand =
        some ⟨.membership, {}⟩ ∧
      (CredentialScopeExtractor.ofConfiguration {}).scopes c (.forMessage (some .catalogRequest)) =
        ["org.factoryx.vc.type:MembershipLevelCredential:read"] := by
  intro c
  have hmessage : MessageKind.isSupported .catalogRequest = true := rfl
  have hselect : ConstraintFunction.select? ((configured {}).1.functions .catalog) c.leftOperand =
      some ⟨.membership, {}⟩ := by decide +kernel
  obtain ⟨rest, hleft, hscopes, -⟩ := scopes_of_selected {} hmessage hselect (by decide)
  have hrest : "Level.gold" = rest := (String.append_right_inj _).1 hleft
  refine ⟨hselect, hscopes.trans ?_⟩
  rw [← hrest]
  decide +kernel

theorem not_forall_selected_requested :
    ¬ ∀ (config : Configuration) (message : MessageKind) (scope : PolicyScope) (c : Constraint)
      (f : ConstraintFunction), config.check = .ok () → message.isSupported = true →
      ConstraintFunction.select? ((configured config).1.functions scope) c.leftOperand = some f →
      f.kind ∈ credentialKinds →
      (CredentialScopeExtractor.ofConfiguration config).scopes c (.forMessage (some message)) =
        [config.credentialTypeNamespace ++ ":" ++ f.kind.credentialType ++ ":read"] := by
  intro h
  have hscopes := h {} .catalogRequest .catalog
    ⟨Vocabulary.policyNamespace ++ "MembershipLevel", .eq, .scalar "active"⟩ ⟨.membership, {}⟩
    Configuration.check_default rfl (by decide +kernel) (by decide)
  exact absurd hscopes (by decide +kernel)

end CredentialPolicy
