import CredentialPolicy.Proofs.Decision

namespace CredentialPolicy

open FunctionKind (credentialKinds)

/-- The first failure of checks in their order, each of which may fail whatever the others do. -/
inductive FirstFailure {ι : Type} (fails : ι → EvaluationError → Prop) :
    List ι → EvaluationError → Prop
  | head {check : ι} {rest : List ι} {e : EvaluationError} (h : fails check e) :
      FirstFailure fails (check :: rest) e
  | tail {check : ι} {rest : List ι} {e : EvaluationError} (hnone : ∀ other, ¬ fails check other)
      (h : FirstFailure fails rest e) : FirstFailure fails (check :: rest) e

namespace FirstFailure

variable {ι : Type} {fails : ι → EvaluationError → Prop}

theorem exists_or_forall_not (checks : List ι) :
    (∃ e, FirstFailure fails checks e) ∨ ∀ check ∈ checks, ∀ e, ¬ fails check e := by
  induction checks with
  | nil => exact .inr nofun
  | cons check rest ih =>
    by_cases hfails : ∃ e, fails check e
    · obtain ⟨e, he⟩ := hfails
      exact .inl ⟨e, .head he⟩
    · have hnone : ∀ e, ¬ fails check e := not_exists.1 hfails
      rcases ih with ⟨e, he⟩ | hrest
      · exact .inl ⟨e, .tail hnone he⟩
      · exact .inr (List.forall_mem_cons.2 ⟨hnone, hrest⟩)

theorem exists_fails {checks : List ι} {e : EvaluationError}
    (h : FirstFailure fails checks e) : ∃ check, fails check e := by
  induction h with
  | head hfails => exact ⟨_, hfails⟩
  | tail _ _ ih => exact ih

theorem bind_eq_error_iff {α β : Type} {result : Except EvaluationError α}
    {next : α → Except EvaluationError β} {check : ι} {rest : List ι} {e : EvaluationError}
    (hcheck : ∀ other, result = .error other ↔ fails check other)
    (hnext : ∀ a, result = .ok a → (next a = .error e ↔ FirstFailure fails rest e)) :
    result >>= next = .error e ↔ FirstFailure fails (check :: rest) e := by
  cases result with
  | ok a =>
    have hnone : ∀ other, ¬ fails check other := by
      intro other hother
      cases (hcheck other).2 hother
    constructor
    · intro h
      exact .tail hnone ((hnext a rfl).1 h)
    · intro h
      cases h with
      | head hfails => exact absurd hfails (hnone e)
      | tail _ hrest => exact (hnext a rfl).2 hrest
  | error first =>
    have hfirst : fails check first := (hcheck first).1 rfl
    constructor
    · intro h
      obtain rfl : first = e := Except.error.inj h
      exact .head hfirst
    · intro h
      cases h with
      | head hfails =>
        obtain rfl : first = e := Except.error.inj ((hcheck e).2 hfails)
        rfl
      | tail hnone _ => exact absurd hfirst (hnone first)

end FirstFailure

inductive PresenceCheck
  | operator
  | shape
  | participant
  | claim
  | literal

def PresenceCheck.order : List PresenceCheck :=
  [operator, shape, participant, claim, literal]

inductive PresenceFault [DateFormat] (kind : FunctionKind) (operator : Operator)
    (right : RightOperand) (participant : Option Participant) :
    PresenceCheck → EvaluationError → Prop
  | operator (heq : operator ≠ .eq) (hneq : operator ≠ .neq) :
      PresenceFault kind operator right participant .operator
        (.unsupportedOperator operator [.eq, .neq])
  | shape {values : List String} (hright : right = .list values) :
      PresenceFault kind operator right participant .shape
        (.invalidRightOperandShape operator "String" "List")
  | participant (hnone : participant = none) :
      PresenceFault kind operator right participant .participant (.extraction .participantMissing)
  | claimMissing {p : Participant} (hp : participant = some p)
      (hclaim : p.claims.get? Vocabulary.credentialClaim = none) :
      PresenceFault kind operator right participant .claim
        (.extraction (.claimMissing Vocabulary.credentialClaim))
  | claimWrongType {p : Participant} {claim : ClaimValue} (hp : participant = some p)
      (hclaim : p.claims.get? Vocabulary.credentialClaim = some claim)
      (hin : Participant.credentialsIn claim = none) :
      PresenceFault kind operator right participant .claim
        (.extraction (.claimWrongType Vocabulary.credentialClaim claim.typeName))
  | claimEmpty {p : Participant} {claim : ClaimValue} (hp : participant = some p)
      (hclaim : p.claims.get? Vocabulary.credentialClaim = some claim)
      (hin : Participant.credentialsIn claim = some []) :
      PresenceFault kind operator right participant .claim
        (.extraction (.claimEmpty Vocabulary.credentialClaim))
  | membership {value : String} (hkind : kind = .membership) (hright : right = .scalar value)
      (hvalue : value ≠ Vocabulary.active) :
      PresenceFault kind operator right participant .literal
        (.invalidLiteral Vocabulary.active value)
  | certification {value : String} (hkind : kind = .certificationType)
      (hright : right = .scalar value)
      (hvalue : ∀ certification : Certification, value ≠ certification.name) :
      PresenceFault kind operator right participant .literal (.unrecognizedLiteral value)

namespace PresenceFault

variable [DateFormat] {kind : FunctionKind} {operator : Operator} {right : RightOperand}
  {participant : Option Participant}

open ConstraintFunction

theorem requireOperator_iff (e : EvaluationError) :
    requireOperator operator presenceOperators = .error e ↔
      PresenceFault kind operator right participant .operator e := by
  rw [requireOperator, guard_eq_error_iff, List.contains_iff_mem, mem_presenceOperators_iff, not_or]
  constructor
  · rintro ⟨⟨heq, hneq⟩, rfl⟩
    exact .operator heq hneq
  · intro h
    cases h with
    | operator heq hneq => exact ⟨⟨heq, hneq⟩, rfl⟩

theorem requireScalar_iff (e : EvaluationError) :
    requireScalar operator right = .error e ↔
      PresenceFault kind operator right participant .shape e := by
  constructor
  · intro h
    cases right with
    | scalar value => cases h
    | list values =>
      cases h
      exact .shape rfl
  · intro h
    cases h with
    | shape hright =>
      subst hright
      rfl

theorem requireParticipant_iff (e : EvaluationError) :
    extracted (requireParticipant participant) = .error e ↔
      PresenceFault kind operator right participant .participant e := by
  constructor
  · intro h
    cases participant with
    | none =>
      cases h
      exact .participant rfl
    | some p => cases h
  · intro h
    cases h with
    | participant hnone =>
      subst hnone
      rfl

theorem of_credentials {p : Participant} {fault : ExtractionError}
    (h : p.credentials = .error fault) :
    PresenceFault kind operator right (some p) .claim (.extraction fault) := by
  cases hclaim : p.claims.get? Vocabulary.credentialClaim with
  | none =>
    simp only [Participant.credentials, hclaim, Except.error.injEq] at h
    exact h ▸ .claimMissing rfl hclaim
  | some claim =>
    cases hin : Participant.credentialsIn claim with
    | none =>
      rw [Participant.credentials_of_none hclaim hin, Except.error.injEq] at h
      exact h ▸ .claimWrongType rfl hclaim hin
    | some list =>
      rw [Participant.credentials_of_some hclaim hin] at h
      split at h
      · next hnil =>
        rw [Except.error.injEq] at h
        exact h ▸ .claimEmpty rfl hclaim (hnil ▸ hin)
      · cases h

theorem credentials_iff {p : Participant} (e : EvaluationError) :
    extracted p.credentials = .error e ↔
      PresenceFault kind operator right (some p) .claim e := by
  constructor
  · intro h
    cases hcredentials : p.credentials with
    | ok credentials =>
      rw [hcredentials] at h
      cases h
    | error fault =>
      rw [hcredentials] at h
      cases h
      exact of_credentials hcredentials
  · intro h
    cases h with
    | claimMissing hp hclaim =>
      cases hp
      simp only [Participant.credentials, hclaim, extracted_error]
    | claimWrongType hp hclaim hin =>
      cases hp
      rw [Participant.credentials_of_none hclaim hin, extracted_error]
    | claimEmpty hp hclaim hin =>
      cases hp
      rw [Participant.credentials_of_some hclaim hin, if_pos rfl, extracted_error]

theorem requireLiteral_iff (hkind : kind ∈ credentialKinds) {value : String}
    (e : EvaluationError) :
    requireLiteral kind value = .error e ↔
      PresenceFault kind operator (.scalar value) participant .literal e := by
  cases kind with
  | membership =>
    rw [requireLiteral, guard_eq_error_iff]
    constructor
    · rintro ⟨hvalue, rfl⟩
      exact .membership rfl rfl hvalue
    · intro h
      cases h with
      | membership _ hright hvalue =>
        cases hright
        exact ⟨hvalue, rfl⟩
      | certification hkind => cases hkind
  | certificationType =>
    rw [requireLiteral, guard_eq_error_iff, Certification.isSome_ofName?_iff, not_exists]
    constructor
    · rintro ⟨hvalue, rfl⟩
      exact .certification rfl rfl hvalue
    · intro h
      cases h with
      | membership hkind => cases hkind
      | certification _ hright hvalue =>
        cases hright
        exact ⟨hvalue, rfl⟩
  | businessPartnerDid => exact absurd hkind (by decide)

theorem eq_literal_of_kind {check : PresenceCheck} {e : EvaluationError}
    (h : PresenceFault kind operator right participant check e)
    (hkind : e.kind = .invalidLiteral ∨ e.kind = .unrecognizedLiteral) : check = .literal := by
  cases h with
  | operator | shape | participant | claimMissing | claimWrongType | claimEmpty =>
    rcases hkind with hkind | hkind <;> cases hkind
  | membership | certification => rfl

theorem exists_credentials_of_literal {e : EvaluationError}
    (h : FirstFailure (PresenceFault kind operator right participant) PresenceCheck.order e)
    (hkind : e.kind = .invalidLiteral ∨ e.kind = .unrecognizedLiteral) :
    ∃ p credentials, participant = some p ∧ p.credentials = .ok credentials := by
  rcases h with h | ⟨-, h | ⟨-, h | ⟨hparticipant, h | ⟨hclaim, -⟩⟩⟩⟩
  · cases h.eq_literal_of_kind hkind
  · cases h.eq_literal_of_kind hkind
  · cases h.eq_literal_of_kind hkind
  · cases h.eq_literal_of_kind hkind
  · cases participant with
    | none => exact absurd (.participant rfl) (hparticipant _)
    | some p =>
      cases hcredentials : p.credentials with
      | ok credentials => exact ⟨p, credentials, rfl, hcredentials⟩
      | error fault => exact absurd (of_credentials hcredentials) (hclaim _)

end PresenceFault

theorem PresenceCheck.mem_order (check : PresenceCheck) : check ∈ order := by
  cases check <;> simp [order]

namespace ConstraintFunction

open PresenceFault

variable {f : ConstraintFunction} (hkind : f.kind ∈ credentialKinds) (operator : Operator)
  (right : RightOperand)

include hkind

theorem decidePresence_eq_error_iff [DateFormat] (participant : Option Participant)
    (e : EvaluationError) :
    f.decidePresence operator right participant = .error e ↔
      FirstFailure (PresenceFault f.kind operator right participant) PresenceCheck.order e := by
  unfold decidePresence
  refine FirstFailure.bind_eq_error_iff requireOperator_iff fun _ _ => ?_
  refine FirstFailure.bind_eq_error_iff requireScalar_iff fun value hvalue => ?_
  refine FirstFailure.bind_eq_error_iff requireParticipant_iff fun p hp => ?_
  -- from here on the operand is a value and there is a participant
  rw [requireScalar_eq_ok_iff] at hvalue
  rw [extracted_eq_ok_iff, requireParticipant_eq_ok_iff] at hp
  subst hvalue hp
  refine FirstFailure.bind_eq_error_iff credentials_iff fun credentials _ => ?_
  refine FirstFailure.bind_eq_error_iff (requireLiteral_iff hkind) fun _ _ => ?_
  constructor
  · intro h
    cases h
  · intro h
    cases h

theorem decide_eq_ok_true_iff [DateFormat] (participant : Option Participant) :
    f.decide operator right participant = .ok true ↔
      (operator = .eq ∨ operator = .neq) ∧ IsAccepted f.kind right ∧
        ∃ p credentials, participant = some p ∧ p.credentials = .ok credentials ∧
          ¬ (f.Finds credentials ↔ operator = .neq) := by
  have hdiffers (credentials : List Credential) :
      (if operator = .neq then ¬ f.Finds credentials else f.Finds credentials) ↔
        ¬ (f.Finds credentials ↔ operator = .neq) := by
    split
    · next hneq => simp [hneq]
    · next hneq => simp [hneq]
  rw [f.decide_eq_ok_iff]
  constructor
  · intro h
    cases h with
    | presence _ hoperator hright hcredentials hgranted =>
      exact ⟨hoperator, hright, _, _, rfl, hcredentials, (hdiffers _).1 (hgranted.1 rfl)⟩
    | identity hpartner => simp [hpartner, credentialKinds] at hkind
  · rintro ⟨hoperator, hright, p, credentials, rfl, hcredentials, hfound⟩
    exact .presence hkind hoperator hright hcredentials
      ⟨fun _ => (hdiffers credentials).2 hfound, fun _ => rfl⟩

variable (ctx : PolicyContext)

theorem evaluate_of_firstFailure [DateFormat] {e : EvaluationError}
    (h : FirstFailure (PresenceFault f.kind operator right ctx.participant)
      PresenceCheck.order e) :
    f.evaluate operator right ctx = (false, ctx.report e) := by
  rw [← decidePresence_eq_error_iff hkind] at h
  rw [evaluate, decide_eq_decidePresence hkind, h]
  rfl

theorem evaluate_cases [DateFormat] :
    (∃ e, (∀ other, FirstFailure (PresenceFault f.kind operator right ctx.participant)
          PresenceCheck.order other ↔ other = e) ∧
        f.evaluate operator right ctx = (false, ctx.report e)) ∨
      (∀ check e, ¬ PresenceFault f.kind operator right ctx.participant check e) ∧
        (f.evaluate operator right ctx).2 = ctx := by
  have herror := decidePresence_eq_error_iff hkind operator right ctx.participant
  cases hdecision : f.decidePresence operator right ctx.participant with
  | ok granted =>
    have hnone : ¬ ∃ e, FirstFailure (PresenceFault f.kind operator right ctx.participant)
        PresenceCheck.order e := by
      rintro ⟨e, he⟩
      cases hdecision.symm.trans ((herror e).2 he)
    refine .inr ⟨fun check => ?_, ?_⟩
    · exact (FirstFailure.exists_or_forall_not _).resolve_left hnone check check.mem_order
    · rw [evaluate, decide_eq_decidePresence hkind, hdecision]
      rfl
  | error e =>
    refine .inl ⟨e, fun other => ?_, ?_⟩
    · rw [← herror other, hdecision, Except.error.injEq, eq_comm]
    · exact evaluate_of_firstFailure hkind operator right ctx ((herror e).1 hdecision)

omit hkind

theorem presence_settled [DateFormat] (config : Configuration) {kind : FunctionKind}
    (hkind : kind ∈ credentialKinds) (operator : Operator) (right : RightOperand)
    (ctx : PolicyContext) :
    let f : ConstraintFunction := ⟨kind, config⟩
    let outcome := f.evaluate operator right ctx
    let fails := PresenceFault kind operator right ctx.participant
    (outcome.1 = true ↔
        (operator = .eq ∨ operator = .neq) ∧ IsAccepted kind right ∧
          ∃ p credentials, ctx.participant = some p ∧ p.credentials = .ok credentials ∧
            ¬ (f.Finds credentials ↔ operator = .neq)) ∧
      ((∃ e, (∀ other, FirstFailure fails PresenceCheck.order other ↔ other = e) ∧
          outcome = (false, ctx.report e)) ∨
        (∀ check e, ¬ fails check e) ∧ outcome.2 = ctx) ∧
      (operator ≠ .eq → operator ≠ .neq →
        outcome = (false, ctx.report (.unsupportedOperator operator [.eq, .neq]))) ∧
      (∀ problem, outcome.2.problems = ctx.problems ++ [problem] →
        problem.kind = some .invalidLiteral ∨ problem.kind = some .unrecognizedLiteral →
        ∃ p credentials, ctx.participant = some p ∧ p.credentials = .ok credentials) := by
  intro f outcome fails
  have hf : f.kind ∈ credentialKinds := hkind
  have hcases := evaluate_cases hf operator right ctx
  refine ⟨?_, hcases, ?_, ?_⟩
  · have hgrant : outcome.1 = PolicyContext.isGrant (f.decide operator right ctx.participant) :=
      congrArg Prod.fst (ctx.settle_eq _)
    rw [hgrant, PolicyContext.isGrant_iff]
    exact decide_eq_ok_true_iff hf operator right ctx.participant
  · intro heq hneq
    exact evaluate_of_firstFailure hf operator right ctx (.head (.operator heq hneq))
  · intro problem hproblems hliteral
    rcases hcases with ⟨e, hfirst, houtcome⟩ | ⟨-, houtcome⟩
    · have hproblem : e.problem = problem := by
        have hsingle : [e.problem] = [problem] :=
          List.append_cancel_left ((congrArg (·.2.problems) houtcome).symm.trans hproblems)
        exact List.singleton_inj.1 hsingle
      subst hproblem
      refine exists_credentials_of_literal ((hfirst e).2 rfl) ?_
      exact hliteral.imp Option.some.inj Option.some.inj
    · rw [show outcome.2 = ctx from houtcome] at hproblems
      exact absurd hproblems (by simp)

theorem presence_settled_unknown :
    let f : ConstraintFunction := ⟨.certificationType, {}⟩
    let unknown : RightOperand := .scalar "iso9001"
    let holder := Participant.anonymous.withClaim Vocabulary.credentialClaim
      (.credentials [.ofTypes ["CertificationTypeCredential"] (.named "did:web:issuer")])
    let other := Participant.anonymous.withClaim Vocabulary.credentialClaim (.credentials [])
    let ctx : PolicyContext := .start .catalog (some other)
    f.kind ∈ credentialKinds ∧
      f.evaluate .neq unknown ctx =
        (false, ctx.report (.extraction (.claimEmpty Vocabulary.credentialClaim))) ∧
      f.evaluate .isNoneOf unknown (.start .catalog none) =
        (false, (PolicyContext.start .catalog none).report
          (.unsupportedOperator .isNoneOf [.eq, .neq])) ∧
      (f.evaluate .eq unknown (.start .catalog (some holder))).2.problems =
        [⟨some .unrecognizedLiteral, "Certification type 'iso9001' is not of a defined type."⟩] ∧
      (∃ p credentials, some holder = some p ∧ p.credentials = .ok credentials) := by
  intro f unknown holder other ctx
  have hkind : f.kind ∈ credentialKinds := by decide
  have hempty : FirstFailure (PresenceFault f.kind .neq unknown (some other))
      PresenceCheck.order (.extraction (.claimEmpty Vocabulary.credentialClaim)) := by
    refine .tail ?_ (.tail ?_ (.tail ?_ (.head (.claimEmpty rfl rfl rfl))))
    · rintro e ⟨-, hneq⟩
      exact hneq rfl
    · intro e h
      cases h with
      | shape hright => exact RightOperand.noConfusion hright
    · intro e h
      cases h with
      | participant hnone => cases hnone
  obtain ⟨-, hcases, -⟩ := presence_settled {} hkind .neq unknown ctx
  obtain ⟨-, -, hoperator, -⟩ :=
    presence_settled {} hkind .isNoneOf unknown (.start .catalog none)
  obtain ⟨-, -, -, hliteral⟩ :=
    presence_settled {} hkind .eq unknown (.start .catalog (some holder))
  have hproblems : (f.evaluate .eq unknown (.start .catalog (some holder))).2.problems =
      [⟨some .unrecognizedLiteral, "Certification type 'iso9001' is not of a defined type."⟩] := by
    decide +kernel
  refine ⟨hkind, ?_, hoperator nofun nofun, hproblems, hliteral _ hproblems (.inr rfl)⟩
  rcases hcases with ⟨e, hfirst, houtcome⟩ | ⟨hnone, -⟩
  · rw [(hfirst _).1 hempty]
    exact houtcome
  · exact absurd (.claimEmpty rfl rfl rfl) (hnone .claim _)

end ConstraintFunction

end CredentialPolicy
