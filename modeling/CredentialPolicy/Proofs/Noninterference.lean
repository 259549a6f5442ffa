import CredentialPolicy.Proofs.Decision

namespace CredentialPolicy

/-- Credentials in which the same types occur, or none that can be had, for the same reason. -/
inductive SameTypes [DateFormat] (p q : Participant) : Prop
  | unavailable {fault : ExtractionError} (hp : p.credentials = .error fault)
      (hq : q.credentials = .error fault) : SameTypes p q
  | available {credentials others : List Credential} (hp : p.credentials = .ok credentials)
      (hq : q.credentials = .ok others)
      (htypes : ∀ tag, tag ∈ Credential.typesIn credentials ↔ tag ∈ Credential.typesIn others) :
      SameTypes p q

inductive Reissue : List Credential → List Credential → Prop
  | order {cs ds : List Credential} (h : cs.Perm ds) : Reissue cs ds
  | repetition {c : Credential} {cs : List Credential} (h : c ∈ cs) : Reissue cs (c :: cs)
  | details (before after : List Credential) {c d : Credential} (h : c.types = d.types) :
      Reissue (before ++ c :: after) (before ++ d :: after)

theorem Reissue.mem_typesIn_iff {cs ds : List Credential} (h : Reissue cs ds) (tag : String) :
    tag ∈ Credential.typesIn cs ↔ tag ∈ Credential.typesIn ds := by
  cases h with
  | order h => exact (h.flatMap_right _).mem_iff
  | @repetition c _ hc =>
    rw [Credential.typesIn, Credential.typesIn, List.flatMap_cons, List.mem_append]
    constructor
    · exact .inr
    · rintro (htag | htag)
      · exact List.mem_flatMap.2 ⟨c, hc, htag⟩
      · exact htag
  | details before after h => simp [Credential.typesIn, h]

def Reissued : List Credential → List Credential → Prop :=
  Relation.EqvGen Reissue

theorem Reissued.mem_typesIn_iff {cs ds : List Credential} (h : Reissued cs ds) (tag : String) :
    tag ∈ Credential.typesIn cs ↔ tag ∈ Credential.typesIn ds := by
  induction h with
  | rel cs ds h => exact h.mem_typesIn_iff tag
  | refl cs => exact Iff.rfl
  | symm cs ds _ ih => exact ih.symm
  | trans cs ds es _ _ ihcs ihds => exact ihcs.trans ihds

theorem SameTypes.of_credentials [DateFormat] {p q : Participant}
    (h : p.credentials = q.credentials) :
    SameTypes p q := by
  cases hq : q.credentials with
  | ok credentials => exact .available (h.trans hq) hq fun tag => Iff.rfl
  | error fault => exact .unavailable (h.trans hq) hq

theorem Participant.credentials_congr [DateFormat] {p q : Participant}
    (h : p.claims.get? Vocabulary.credentialClaim = q.claims.get? Vocabulary.credentialClaim) :
    p.credentials = q.credentials := by
  rw [credentials, credentials, h]

theorem SameTypes.of_claim [DateFormat] {p q : Participant}
    (h : p.claims.get? Vocabulary.credentialClaim = q.claims.get? Vocabulary.credentialClaim) :
    SameTypes p q :=
  .of_credentials (Participant.credentials_congr h)

namespace ConstraintFunction

theorem any_hasType_congr (f : ConstraintFunction) {credentials others : List Credential}
    (h : ∀ tag, tag ∈ Credential.typesIn credentials ↔ tag ∈ Credential.typesIn others) :
    credentials.any (·.hasType f.config.credentialNamespace f.kind.credentialType) =
      others.any (·.hasType f.config.credentialNamespace f.kind.credentialType) := by
  rw [Bool.eq_iff_iff, any_hasType_iff, any_hasType_iff]
  exact exists_congr fun tag => and_congr_left fun _ => h tag

theorem decidePresence_congr [DateFormat] (f : ConstraintFunction) (operator : Operator)
    (right : RightOperand) {p q : Participant} (h : SameTypes p q) :
    f.decidePresence operator right (some p) = f.decidePresence operator right (some q) := by
  unfold decidePresence
  refine bind_congr fun _ => bind_congr fun value => ?_
  -- both are there, so that the first difference can be in what they present
  change extracted p.credentials >>= _ = extracted q.credentials >>= _
  cases h with
  | unavailable hp hq => rw [hp, hq]
  | available hp hq htypes =>
    rw [hp, hq]
    change requireLiteral f.kind value >>= _ = requireLiteral f.kind value >>= _
    rw [f.any_hasType_congr htypes]

theorem decideIdentity_congr (operator : Operator) (right : RightOperand) {p q : Participant}
    (h : p.identity = q.identity) :
    decideIdentity operator right (some p) = decideIdentity operator right (some q) := by
  have hidentity : p.requireIdentity = q.requireIdentity := by
    rw [Participant.requireIdentity, Participant.requireIdentity, h]
  unfold decideIdentity
  refine bind_congr fun _ => ?_
  change extracted p.requireIdentity >>= _ = extracted q.requireIdentity >>= _
  rw [hidentity]

theorem decide_congr [DateFormat] (f : ConstraintFunction) (operator : Operator)
    (right : RightOperand) {p q : Participant} (hidentity : p.identity = q.identity)
    (htypes : SameTypes p q) :
    f.decide operator right (some p) = f.decide operator right (some q) := by
  unfold decide
  split
  · exact decideIdentity_congr operator right hidentity
  · exact f.decidePresence_congr operator right htypes

end ConstraintFunction

namespace PolicyEngine

variable (engine : PolicyEngine) (bindings : RuleBindings)

theorem decide_congr [DateFormat] (scope : PolicyScope) {p q : Participant}
    (hidentity : p.identity = q.identity) (htypes : SameTypes p q) :
    engine.decide bindings scope (some p) = engine.decide bindings scope (some q) := by
  funext c
  unfold decide
  split
  · split
    · next f _ => exact f.decide_congr c.operator c.rightOperand hidentity htypes
    · rfl
  · rfl

theorem evaluatePolicy_noninterference [DateFormat] (policy : Policy) {ctx other : PolicyContext}
    (hscope : other.scope = ctx.scope) (hproblems : other.problems = ctx.problems)
    {p q : Participant} (hp : ctx.participant = some p) (hq : other.participant = some q)
    (hidentity : p.identity = q.identity) :
    let result := engine.evaluatePolicy bindings policy ctx
    let otherResult := engine.evaluatePolicy bindings policy other
    let same := otherResult.1 = result.1 ∧ otherResult.2.problems = result.2.problems
    (SameTypes p q → same) ∧
    (p.claims.get? Vocabulary.credentialClaim = q.claims.get? Vocabulary.credentialClaim → same) ∧
    ∀ credentials others : List Credential, p.credentials = .ok credentials →
      q.credentials = .ok others → Reissued credentials others → same := by
  intro result otherResult same
  have hsame : SameTypes p q → same := by
    intro htypes
    have hresult : result = _ := evaluatePolicy_eq engine bindings policy ctx
    have hother : otherResult = _ := evaluatePolicy_eq engine bindings policy other
    rw [hscope, hq, ← engine.decide_congr bindings ctx.scope hidentity htypes, ← hp] at hother
    refine ⟨?_, ?_⟩
    · rw [hresult, hother]
    · rw [hresult, hother, PolicyContext.problems_adding, PolicyContext.problems_adding, hproblems]
  refine ⟨hsame, fun hclaim => hsame (.of_claim hclaim), fun credentials others hc ho h => ?_⟩
  exact hsame (.available hc ho h.mem_typesIn_iff)

theorem evaluatePolicy_noninterference_copy :
    let policy : Policy :=
      ⟨[⟨"use", [⟨Vocabulary.policyNamespace ++ "Membership", .eq, .scalar "active"⟩,
        ⟨Vocabulary.businessPartnerDid, .lt, .scalar "did:web:a"⟩]⟩]⟩
    let membership : Credential := .ofTypes ["MembershipCredential"] (.named "did:web:issuer")
    let certificate : Credential := .ofTypes ["OtherCredential"] (.named "did:web:issuer")
    let copy : Credential := { membership with id := some "urn:copy", issuer := .named "did:web:b" }
    let plain : Participant := ⟨some "did:web:a", .empty⟩
    let p := plain.withClaim Vocabulary.credentialClaim (.credentials [membership, certificate])
    let q := (plain.withClaim "role" (.text "admin")).withClaim Vocabulary.credentialClaim
      (.credentials [copy, certificate, membership])
    let context (participant : Participant) : PolicyContext :=
      (PolicyContext.start .catalog (some participant)).reportText "earlier"
    let result := (configured {}).1.evaluatePolicy (configured {}).2 policy (context p)
    let otherResult := (configured {}).1.evaluatePolicy (configured {}).2 policy (context q)
    Reissued [membership, certificate] [copy, certificate, membership] ∧
      otherResult.1 = result.1 ∧ otherResult.2.problems = result.2.problems ∧
      result.2.problems.length = 2 := by
  intro policy membership certificate copy plain p q context result otherResult
  have hrepeated : Reissue [membership, certificate] [membership, membership, certificate] :=
    .repetition List.mem_cons_self
  have hcopied : Reissue [membership, membership, certificate] [copy, membership, certificate] :=
    .details [] [membership, certificate] rfl
  have hordered : Reissue [copy, membership, certificate] [copy, certificate, membership] :=
    .order (.cons _ (.swap _ _ _))
  have hreissued : Reissued [membership, certificate] [copy, certificate, membership] :=
    .trans _ _ _ (.rel _ _ hrepeated) (.trans _ _ _ (.rel _ _ hcopied) (.rel _ _ hordered))
  have hscope : (context q).scope = (context p).scope := rfl
  have hearlier : (context q).problems = (context p).problems := rfl
  have hidentity : p.identity = q.identity := rfl
  obtain ⟨-, -, hsame⟩ := evaluatePolicy_noninterference (configured {}).1 (configured {}).2 policy
    hscope hearlier rfl rfl hidentity
  obtain ⟨hgranted, hproblems⟩ := hsame _ _ rfl rfl hreissued
  exact ⟨hreissued, hgranted, hproblems, by decide +kernel⟩

end PolicyEngine

end CredentialPolicy
