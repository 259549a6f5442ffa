import CredentialPolicy.Certification
import CredentialPolicy.Configuration
import CredentialPolicy.Extraction
import CredentialPolicy.Matching
import CredentialPolicy.PolicyContext
import CredentialPolicy.Text.Case

namespace CredentialPolicy

inductive FunctionKind
  | membership
  | certificationType
  | businessPartnerDid
deriving DecidableEq, Repr

namespace FunctionKind

def all : List FunctionKind :=
  [membership, certificationType, businessPartnerDid]

def name : FunctionKind → String
  | membership => "Membership"
  | certificationType => "CertificationType"
  | businessPartnerDid => "BusinessPartnerDid"

def ofName? (value : String) : Option FunctionKind :=
  all.find? (·.name = value)

def literal : FunctionKind → String
  | membership => Vocabulary.membership
  | certificationType => Vocabulary.certificationType
  | businessPartnerDid => Vocabulary.businessPartnerDid

def credentialType (kind : FunctionKind) : String :=
  kind.literal ++ Vocabulary.credentialSuffix

end FunctionKind

structure ConstraintFunction where
  kind : FunctionKind
  config : Configuration
deriving DecidableEq, Repr

namespace ConstraintFunction

def standard (config : Configuration) : List ConstraintFunction :=
  FunctionKind.all.map (⟨·, config⟩)

def beginsInNamespace (namespaceText literal leftOperand : String) : Bool :=
  (Text.after? namespaceText leftOperand).any (Text.begins literal)

def handles (f : ConstraintFunction) (leftOperand : String) : Bool :=
  match f.kind with
  | .businessPartnerDid =>
    leftOperand = Vocabulary.businessPartnerDid ||
      leftOperand = f.config.policyNamespace ++ Vocabulary.businessPartnerDid
  | kind => beginsInNamespace f.config.policyNamespace kind.literal leftOperand

def select? (functions : List ConstraintFunction) (leftOperand : String) :
    Option ConstraintFunction :=
  functions.find? (·.handles leftOperand)

def presenceOperators : List Operator :=
  [.eq, .neq]

def requireOperator (operator : Operator) (supported : List Operator) :
    Except EvaluationError Unit :=
  if supported.contains operator then .ok ()
  else .error (.unsupportedOperator operator supported)

def requireScalar (operator : Operator) (right : RightOperand) : Except EvaluationError String :=
  match right with
  | .scalar value => .ok value
  | .list _ => .error (.invalidRightOperandShape operator "String" right.shapeName)

def requireLiteral (kind : FunctionKind) (value : String) : Except EvaluationError Unit :=
  match kind with
  | .membership =>
    if value = Vocabulary.active then .ok ()
    else .error (.invalidLiteral Vocabulary.active value)
  | .certificationType =>
    if (Certification.ofName? value).isSome then .ok () else .error (.unrecognizedLiteral value)
  | .businessPartnerDid => .ok ()

def extracted {α : Type} (result : Except ExtractionError α) : Except EvaluationError α :=
  result.mapError .extraction

@[simp]
theorem extracted_ok {α : Type} (value : α) : extracted (.ok value) = .ok value :=
  rfl

@[simp]
theorem extracted_error {α : Type} (fault : ExtractionError) :
    extracted (.error fault : Except ExtractionError α) = .error (.extraction fault) :=
  rfl

def decidePresence [DateFormat] (f : ConstraintFunction) (operator : Operator)
    (right : RightOperand) (participant : Option Participant) : Except EvaluationError Bool := do
  requireOperator operator presenceOperators
  let value ← requireScalar operator right
  let p ← extracted (requireParticipant participant)
  let credentials ← extracted p.credentials
  requireLiteral f.kind value
  let found :=
    credentials.any fun c => c.hasType f.config.credentialNamespace f.kind.credentialType
  return if operator = .neq then !found else found

def decideIdentity (operator : Operator) (right : RightOperand)
    (participant : Option Participant) : Except EvaluationError Bool := do
  requireOperator operator Matching.operators
  let p ← extracted (requireParticipant participant)
  let identity ← extracted p.requireIdentity
  Matching.decide identity right operator

def decide [DateFormat] (f : ConstraintFunction) (operator : Operator) (right : RightOperand)
    (participant : Option Participant) : Except EvaluationError Bool :=
  match f.kind with
  | .businessPartnerDid => decideIdentity operator right participant
  | _ => f.decidePresence operator right participant

def evaluate [DateFormat] (f : ConstraintFunction) (operator : Operator) (right : RightOperand)
    (ctx : PolicyContext) : Bool × PolicyContext :=
  ctx.settle (f.decide operator right ctx.participant)

def namedStart (didStart : String) : String :=
  Text.dropEnd ':' didStart

/-- Whether the right operand may stand in a policy. A single DID may be written in any case. -/
def check (f : ConstraintFunction) (right : RightOperand) : Except ValidationError Unit :=
  match f.kind with
  | .businessPartnerDid =>
    let start := f.config.didStart
    match right with
    | .scalar value =>
      if Text.begins start (Text.lower value) then .ok ()
      else .error (.rightOperandStart (namedStart start) value)
    | .list values =>
      if values.all (Text.begins start) then .ok ()
      else .error (.rightOperandListStart (namedStart start) values)
  | _ => .ok ()

end ConstraintFunction

end CredentialPolicy
