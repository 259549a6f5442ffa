import CredentialPolicy.Proofs.Composition
import CredentialPolicy.Proofs.Dispatch

/-!
When a constraint is decided, and what the decision is then. Each function makes its checks and
compares at the end: `Decides` says so without an order, and `decide_eq_ok_iff` that nothing else is
decided.
-/

namespace CredentialPolicy

open FunctionKind (credentialKinds)

theorem bind_eq_ok_iff {ε α β : Type} {result : Except ε α} {next : α → Except ε β} {b : β} :
    result >>= next = .ok b ↔ ∃ a, result = .ok a ∧ next a = .ok b := by
  cases result with
  | ok a =>
    constructor
    · intro h
      exact ⟨a, rfl, h⟩
    · rintro ⟨_, ha, h⟩
      cases ha
      exact h
  | error e =>
    constructor
    · intro h
      cases h
    · rintro ⟨_, ha, -⟩
      cases ha

theorem map_eq_ok_iff {ε α β : Type} {result : Except ε α} {f : α → β} {b : β} :
    result.map f = .ok b ↔ ∃ a, result = .ok a ∧ f a = b := by
  cases result with
  | ok a =>
    constructor
    · intro h
      exact ⟨a, rfl, Except.ok.inj h⟩
    · rintro ⟨_, ha, rfl⟩
      cases ha
      rfl
  | error e =>
    constructor
    · intro h
      cases h
    · rintro ⟨_, ha, -⟩
      cases ha

theorem guard_eq_error_iff {c : Prop} [Decidable c] {fault e : EvaluationError} :
    (if c then .ok () else .error fault : Except EvaluationError Unit) = .error e ↔
      ¬ c ∧ fault = e := by
  split
  · next hc => simp [hc]
  · next hc => simp [hc]

theorem ok_eq_ok_iff_of_iff {granted outcome : Bool} {p : Prop} (h : outcome = true ↔ p) :
    (.ok outcome : Except EvaluationError Bool) = .ok granted ↔ (granted = true ↔ p) := by
  rw [Except.ok.injEq, ← h, eq_comm, Bool.eq_iff_iff]

namespace Matching

def fits : Operator → RightOperand → Bool
  | .eq, _ | .neq, _ | .isAllOf, _ => true
  | .isIn, right | .isA, right | .isAnyOf, right | .isNoneOf, right => right.list?.isSome
  | .hasPart, right => right.scalar?.isSome
  | .lt, _ | .gt, _ | .lteq, _ | .gteq, _ => false

def Holds (identity : String) (right : RightOperand) : Operator → Prop
  | .eq | .isAllOf => ∀ value ∈ right.values, value = identity
  | .neq => ∃ value ∈ right.values, value ≠ identity
  | .isIn | .isA | .isAnyOf => identity ∈ right.values
  | .isNoneOf => identity ∉ right.values
  | .hasPart => ∃ part ∈ right.values, ∃ before after, identity = before ++ part ++ after
  | .lt | .gt | .lteq | .gteq => False

theorem equals_iff (identity : String) (right : RightOperand) :
    equals identity right = true ↔ ∀ value ∈ right.values, value = identity := by
  cases right with
  | scalar value => simp [equals, RightOperand.values]
  | list values => simp [equals, RightOperand.values]

theorem decide_eq_ok_iff (identity : String) (right : RightOperand) (operator : Operator)
    (granted : Bool) :
    decide identity right operator = .ok granted ↔
      fits operator right = true ∧ (granted = true ↔ Holds identity right operator) := by
  cases operator with
  | eq | isAllOf =>
    rw [decide, ok_eq_ok_iff_of_iff (equals_iff identity right)]
    simp [fits, Holds]
  | neq =>
    have hneq : (!equals identity right) = true ↔ ∃ value ∈ right.values, value ≠ identity := by
      rw [Bool.not_eq_true', Bool.eq_false_iff, Ne, equals_iff]
      simp
    rw [decide, ok_eq_ok_iff_of_iff hneq]
    simp [fits, Holds]
  | hasPart =>
    cases right with
    | scalar part =>
      rw [decide, hasPart, ok_eq_ok_iff_of_iff (Text.contains_iff part identity)]
      simp [fits, Holds, RightOperand.values, RightOperand.scalar?]
    | list values => simp [decide, hasPart, fits, RightOperand.scalar?]
  | isIn | isA | isAnyOf =>
    cases right with
    | scalar value => simp [decide, isAmong, fits, RightOperand.list?]
    | list values =>
      rw [decide, isAmong, ok_eq_ok_iff_of_iff List.contains_iff_mem]
      simp [fits, Holds, RightOperand.values, RightOperand.list?]
  | isNoneOf =>
    cases right with
    | scalar value =>
      have hshape : decide identity (.scalar value) .isNoneOf =
          .error (.invalidRightOperandShape .isNoneOf "List" "String") := rfl
      simp [hshape, fits, RightOperand.list?]
    | list values =>
      have hnone : (!values.contains identity) = true ↔ identity ∉ values := by simp
      have hmap : decide identity (.list values) .isNoneOf = .ok (!values.contains identity) := rfl
      rw [hmap, ok_eq_ok_iff_of_iff hnone]
      simp [fits, Holds, RightOperand.values, RightOperand.list?]
  | lt | gt | lteq | gteq => simp [decide, fits]

theorem mem_operators_of_fits {operator : Operator} {right : RightOperand}
    (h : fits operator right = true) : operator ∈ operators := by
  cases operator with
  | lt | gt | lteq | gteq => cases h
  | eq | neq | isIn | isA | isAnyOf | isNoneOf | isAllOf | hasPart => decide

end Matching

theorem Certification.isSome_ofName?_iff (value : String) :
    (ofName? value).isSome = true ↔ ∃ certification : Certification, value = certification.name := by
  rw [Option.isSome_iff_exists]
  constructor
  · rintro ⟨certification, h⟩
    have hname : certification.name = value := by simpa using List.find?_some h
    exact ⟨certification, hname.symm⟩
  · rintro ⟨certification, rfl⟩
    refine ⟨certification, ?_⟩
    cases certification <;> decide

def IsAccepted : FunctionKind → RightOperand → Prop
  | .membership, right => right = .scalar Vocabulary.active
  | .certificationType, right =>
    ∃ certification : Certification, right = .scalar certification.name
  | .businessPartnerDid, _ => False

namespace IsAccepted

theorem mem_credentialKinds {kind : FunctionKind} {right : RightOperand}
    (h : IsAccepted kind right) : kind ∈ credentialKinds := by
  cases kind with
  | membership => decide
  | certificationType => decide
  | businessPartnerDid => exact h.elim

theorem exists_scalar {kind : FunctionKind} {right : RightOperand} (h : IsAccepted kind right) :
    ∃ value, right = .scalar value := by
  cases kind with
  | membership => exact ⟨_, h⟩
  | certificationType =>
    obtain ⟨certification, hright⟩ := h
    exact ⟨_, hright⟩
  | businessPartnerDid => exact h.elim

end IsAccepted

def Credential.typesIn (credentials : List Credential) : List String :=
  credentials.flatMap (·.types)

namespace Participant

theorem requireIdentity_eq_ok_iff (p : Participant) (identity : String) :
    p.requireIdentity = .ok identity ↔ p.identity = some identity := by
  unfold requireIdentity
  cases p.identity <;> simp

theorem credentials_of_none [DateFormat] {p : Participant} {claim : ClaimValue}
    (h : p.claims.get? Vocabulary.credentialClaim = some claim) (hin : credentialsIn claim = none) :
    p.credentials = .error (.claimWrongType Vocabulary.credentialClaim claim.typeName) := by
  simp only [credentials, h, hin]

theorem credentials_of_some [DateFormat] {p : Participant} {claim : ClaimValue}
    {list : List Credential} (h : p.claims.get? Vocabulary.credentialClaim = some claim)
    (hin : credentialsIn claim = some list) :
    p.credentials =
      if list = [] then .error (.claimEmpty Vocabulary.credentialClaim) else .ok list := by
  simp only [credentials, h, hin]
  cases list <;> rfl

end Participant

theorem requireParticipant_eq_ok_iff (participant : Option Participant) (p : Participant) :
    requireParticipant participant = .ok p ↔ participant = some p := by
  cases participant <;> simp [requireParticipant]

namespace ConstraintFunction

theorem requireOperator_eq_ok_iff (operator : Operator) (supported : List Operator) (u : Unit) :
    requireOperator operator supported = .ok u ↔ operator ∈ supported := by
  simp [requireOperator]

theorem mem_presenceOperators_iff (operator : Operator) :
    operator ∈ presenceOperators ↔ operator = .eq ∨ operator = .neq := by
  simp [presenceOperators]

theorem requireScalar_eq_ok_iff (operator : Operator) (right : RightOperand) (value : String) :
    requireScalar operator right = .ok value ↔ right = .scalar value := by
  cases right <;> simp [requireScalar]

theorem extracted_eq_ok_iff {α : Type} (result : Except ExtractionError α) (a : α) :
    extracted result = .ok a ↔ result = .ok a := by
  cases result <;> simp

theorem requireLiteral_eq_ok_iff {kind : FunctionKind} (hkind : kind ∈ credentialKinds)
    (value : String) (u : Unit) :
    requireLiteral kind value = .ok u ↔ IsAccepted kind (.scalar value) := by
  cases kind with
  | membership => simp [requireLiteral, IsAccepted]
  | certificationType => simp [requireLiteral, IsAccepted, Certification.isSome_ofName?_iff]
  | businessPartnerDid => simp [credentialKinds] at hkind

def Finds (f : ConstraintFunction) (credentials : List Credential) : Prop :=
  ∃ tag ∈ Credential.typesIn credentials,
    tag = f.kind.credentialType ∨ tag = f.config.credentialNamespace ++ f.kind.credentialType

theorem any_hasType_iff (f : ConstraintFunction) (credentials : List Credential) :
    credentials.any (·.hasType f.config.credentialNamespace f.kind.credentialType) = true ↔
      f.Finds credentials := by
  simp only [Finds, Credential.typesIn, Credential.hasType, List.any_eq_true, List.mem_flatMap,
    Bool.or_eq_true, decide_eq_true_eq, Text.after?_eq_some_iff]
  constructor
  · rintro ⟨c, hc, tag, htag, hname⟩
    exact ⟨tag, ⟨c, hc, htag⟩, hname⟩
  · rintro ⟨tag, ⟨c, hc, htag⟩, hname⟩
    exact ⟨c, hc, tag, htag, hname⟩

theorem negated_any_hasType_iff (f : ConstraintFunction) (operator : Operator)
    (credentials : List Credential) :
    let found :=
      credentials.any (·.hasType f.config.credentialNamespace f.kind.credentialType)
    (if operator = .neq then !found else found) = true ↔
      if operator = .neq then ¬ f.Finds credentials else f.Finds credentials := by
  rw [← any_hasType_iff]
  split <;> simp

/-- All that the function asks for is in order, and its comparison comes out as `granted`. -/
inductive Decides [DateFormat] (f : ConstraintFunction) :
    Operator → RightOperand → Option Participant → Bool → Prop
  | presence {operator : Operator} {right : RightOperand} {p : Participant}
      {credentials : List Credential} {granted : Bool} (hkind : f.kind ∈ credentialKinds)
      (hoperator : operator = .eq ∨ operator = .neq) (hright : IsAccepted f.kind right)
      (hcredentials : p.credentials = .ok credentials)
      (hgranted : granted = true ↔
        if operator = .neq then ¬ f.Finds credentials else f.Finds credentials) :
      Decides f operator right (some p) granted
  | identity {operator : Operator} {right : RightOperand} {p : Participant} {identity : String}
      {granted : Bool} (hkind : f.kind = .businessPartnerDid)
      (hfits : Matching.fits operator right = true) (hidentity : p.identity = some identity)
      (hgranted : granted = true ↔ Matching.Holds identity right operator) :
      Decides f operator right (some p) granted

theorem decidePresence_eq_ok_iff [DateFormat] (f : ConstraintFunction)
    (hkind : f.kind ∈ credentialKinds) (operator : Operator) (right : RightOperand)
    (participant : Option Participant) (granted : Bool) :
    f.decidePresence operator right participant = .ok granted ↔
      f.Decides operator right participant granted := by
  simp only [decidePresence, bind_eq_ok_iff, requireOperator_eq_ok_iff, requireScalar_eq_ok_iff,
    extracted_eq_ok_iff, requireParticipant_eq_ok_iff, requireLiteral_eq_ok_iff hkind,
    mem_presenceOperators_iff]
  constructor
  · rintro ⟨-, hoperator, value, rfl, p, rfl, credentials, hcredentials, -, hright, hgranted⟩
    have hcompared := f.negated_any_hasType_iff operator credentials
    exact .presence hkind hoperator hright hcredentials
      ((ok_eq_ok_iff_of_iff hcompared).1 hgranted)
  · intro h
    cases h with
    | presence _ hoperator hright hcredentials hgranted =>
      obtain ⟨value, rfl⟩ := hright.exists_scalar
      exact ⟨(), hoperator, value, rfl, _, rfl, _, hcredentials, (), hright,
        (ok_eq_ok_iff_of_iff (f.negated_any_hasType_iff operator _)).2 hgranted⟩
    | identity hpartner => simp [hpartner, credentialKinds] at hkind

theorem decideIdentity_eq_ok_iff [DateFormat] (f : ConstraintFunction)
    (hkind : f.kind = .businessPartnerDid) (operator : Operator) (right : RightOperand)
    (participant : Option Participant) (granted : Bool) :
    decideIdentity operator right participant = .ok granted ↔
      f.Decides operator right participant granted := by
  simp only [decideIdentity, bind_eq_ok_iff, requireOperator_eq_ok_iff, extracted_eq_ok_iff,
    requireParticipant_eq_ok_iff, Participant.requireIdentity_eq_ok_iff, Matching.decide_eq_ok_iff]
  constructor
  · rintro ⟨-, -, p, rfl, identity, hidentity, hfits, hgranted⟩
    exact .identity hkind hfits hidentity hgranted
  · intro h
    cases h with
    | presence hcredential => simp [hkind, credentialKinds] at hcredential
    | identity _ hfits hidentity hgranted =>
      exact ⟨(), Matching.mem_operators_of_fits hfits, _, rfl, _, hidentity, hfits, hgranted⟩

theorem decide_eq_ok_iff [DateFormat] (f : ConstraintFunction) (operator : Operator)
    (right : RightOperand) (participant : Option Participant) (granted : Bool) :
    f.decide operator right participant = .ok granted ↔
      f.Decides operator right participant granted := by
  by_cases hkind : f.kind ∈ credentialKinds
  · rw [decide_eq_decidePresence hkind]
    exact f.decidePresence_eq_ok_iff hkind operator right participant granted
  · have hpartner := FunctionKind.eq_businessPartnerDid hkind
    rw [← f.decideIdentity_eq_ok_iff hpartner, decide, hpartner]

end ConstraintFunction

theorem PolicyEngine.decide_eq_ok_iff [DateFormat] (engine : PolicyEngine) (bindings : RuleBindings)
    (scope : PolicyScope) (participant : Option Participant) (c : Constraint) (granted : Bool) :
    engine.decide bindings scope participant c = .ok granted ↔
      if bindings.isInScope c.leftOperand scope then
        ∃ f, ConstraintFunction.select? (engine.functions scope) c.leftOperand = some f ∧
          f.Decides c.operator c.rightOperand participant granted
      else granted = true := by
  rw [decide]
  cases bindings.isInScope c.leftOperand scope with
  | false => simp [eq_comm]
  | true =>
    cases ConstraintFunction.select? (engine.functions scope) c.leftOperand with
    | none => simp
    | some f => simp [f.decide_eq_ok_iff]

end CredentialPolicy
