import CredentialPolicy.EvaluationError
import CredentialPolicy.Policy

namespace CredentialPolicy.Matching

def operators : List Operator :=
  [.eq, .isIn, .neq, .isAnyOf, .isA, .isNoneOf, .isAllOf, .hasPart]

/-- Every value of the operand is the identity; there may be none. -/
def equals (identity : String) : RightOperand → Bool
  | .scalar value => value = identity
  | .list values => values.all (· = identity)

def hasPart (identity : String) : RightOperand → Except EvaluationError Bool
  | .scalar part => .ok (Text.contains part identity)
  | .list values =>
    .error (.invalidRightOperandShape .hasPart "String" (RightOperand.list values).shapeName)

def isAmong (identity : String) (operator : Operator) : RightOperand → Except EvaluationError Bool
  | .list values => .ok (values.contains identity)
  | .scalar value =>
    .error (.invalidRightOperandShape operator "List" (RightOperand.scalar value).shapeName)

def decide (identity : String) (right : RightOperand) (operator : Operator) :
    Except EvaluationError Bool :=
  match operator with
  | .eq | .isAllOf => .ok (equals identity right)
  | .neq => .ok (!equals identity right)
  | .hasPart => hasPart identity right
  | .isIn | .isA | .isAnyOf => isAmong identity operator right
  | .isNoneOf => (isAmong identity operator right).map (!·)
  | .lt | .gt | .lteq | .gteq => .error (.unsupportedOperator operator operators)

end CredentialPolicy.Matching
