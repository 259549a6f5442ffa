import CredentialPolicy.Operator

namespace CredentialPolicy

inductive RightOperand
  | scalar (value : String)
  | list (values : List String)
deriving DecidableEq, Repr

namespace RightOperand

def values : RightOperand → List String
  | scalar value => [value]
  | list values => values

def scalar? : RightOperand → Option String
  | scalar value => some value
  | list _ => none

def list? : RightOperand → Option (List String)
  | scalar _ => none
  | list values => some values

def shapeName : RightOperand → String
  | scalar _ => "String"
  | list _ => "List"

def display : RightOperand → String
  | scalar value => value
  | list values => "[" ++ ", ".intercalate values ++ "]"

end RightOperand

structure Constraint where
  leftOperand : String
  operator : Operator
  rightOperand : RightOperand
deriving DecidableEq, Repr

structure Permission where
  action : String
  constraints : List Constraint
deriving DecidableEq, Repr

def Permission.defaultAction : String :=
  "use"

structure Policy where
  permissions : List Permission
deriving DecidableEq, Repr

def Policy.constraints (p : Policy) : List Constraint :=
  p.permissions.flatMap (·.constraints)

structure PolicyDefinition where
  id : Option String
  policy : Policy
deriving DecidableEq, Repr

end CredentialPolicy
