import CredentialPolicy.Operator

namespace CredentialPolicy

inductive ExtractionError
  | participantMissing
  | identityMissing
  | claimMissing (claim : String)
  | claimWrongType (claim received : String)
  | claimEmpty (claim : String)
deriving DecidableEq, Repr

def ExtractionError.message : ExtractionError → String
  | participantMissing => "Required PolicyContext data not found: ParticipantAgent"
  | identityMissing => "Identity of the participant agent cannot be null"
  | claimMissing claim => "ParticipantAgent did not contain a '" ++ claim ++ "' claim."
  | claimWrongType claim received =>
    "ParticipantAgent contains a '" ++ claim ++ "' claim, but the type is incorrect. " ++
      "Expected List<VerifiableCredential>, received " ++ received ++ "."
  | claimEmpty claim =>
    "ParticipantAgent contains a '" ++ claim ++
      "' claim but it did not contain any VerifiableCredentials."

inductive EvaluationError
  | unsupportedOperator (operator : Operator) (supported : List Operator)
  | invalidRightOperandShape (operator : Operator) (expected received : String)
  | unrecognizedLiteral (value : String)
  | invalidLiteral (expected value : String)
  | extraction (fault : ExtractionError)
  | noFunction (leftOperand scope : String)
deriving DecidableEq, Repr

def EvaluationError.message : EvaluationError → String
  | unsupportedOperator operator supported =>
    "Invalid operator: this constraint only allows the following operators: " ++
      Operator.displayList supported ++ ", but received '" ++ operator.display ++ "'."
  | invalidRightOperandShape operator expected received =>
    "Invalid right-value: operator '" ++ operator.display ++ "' requires a '" ++ expected ++
      "' but got a '" ++ received ++ "'"
  | unrecognizedLiteral value => "Certification type '" ++ value ++ "' is not of a defined type."
  | invalidLiteral expected value =>
    "Right-operand must be equal to '" ++ expected ++ "', but was '" ++ value ++ "'"
  | extraction fault => fault.message
  | noFunction leftOperand scope =>
    "No constraint function registered for left operand '" ++ leftOperand ++ "' in scope '" ++
      scope ++ "'"

inductive EvaluationErrorKind
  | unsupportedOperator
  | missingParticipant
  | missingIdentity
  | invalidRightOperandShape
  | claimMissing
  | claimWrongType
  | claimEmpty
  | unrecognizedLiteral
  | invalidLiteral
  | noFunction
deriving DecidableEq, Repr

namespace EvaluationErrorKind

def all : List EvaluationErrorKind :=
  [unsupportedOperator, missingParticipant, missingIdentity, invalidRightOperandShape,
    claimMissing, claimWrongType, claimEmpty, unrecognizedLiteral, invalidLiteral, noFunction]

def name : EvaluationErrorKind → String
  | unsupportedOperator => "UnsupportedOperator"
  | missingParticipant => "MissingParticipantAgent"
  | missingIdentity => "MissingIdentity"
  | invalidRightOperandShape => "InvalidRightOperandShape"
  | claimMissing => "ClaimMissing"
  | claimWrongType => "ClaimWrongType"
  | claimEmpty => "ClaimEmpty"
  | unrecognizedLiteral => "UnrecognizedLiteral"
  | invalidLiteral => "InvalidLiteral"
  | noFunction => "NoFunction"

def ofName? (value : String) : Option EvaluationErrorKind :=
  all.find? (·.name = value)

end EvaluationErrorKind

def ExtractionError.kind : ExtractionError → EvaluationErrorKind
  | participantMissing => .missingParticipant
  | identityMissing => .missingIdentity
  | claimMissing _ => .claimMissing
  | claimWrongType _ _ => .claimWrongType
  | claimEmpty _ => .claimEmpty

def EvaluationError.kind : EvaluationError → EvaluationErrorKind
  | unsupportedOperator _ _ => .unsupportedOperator
  | invalidRightOperandShape _ _ _ => .invalidRightOperandShape
  | unrecognizedLiteral _ => .unrecognizedLiteral
  | invalidLiteral _ _ => .invalidLiteral
  | extraction fault => fault.kind
  | noFunction _ _ => .noFunction

end CredentialPolicy
