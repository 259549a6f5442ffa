import CredentialPolicy.Document
import CredentialPolicy.Policy

namespace CredentialPolicy

namespace Operator

def ofJson? : Json → Option Operator
  | .text value => parse? value
  | _ => none

def writtenName : Operator → String
  | eq => "eq"
  | neq => "neq"
  | isIn => "in"
  | isA => "isA"
  | isAnyOf => "isAnyOf"
  | isNoneOf => "isNoneOf"
  | isAllOf => "isAllOf"
  | hasPart => "hasPart"
  | lt => "lt"
  | gt => "gt"
  | lteq => "lteq"
  | gteq => "gteq"

def toJson (op : Operator) : Json :=
  .text op.writtenName

instance : Document Operator :=
  ⟨.text, ofJson?, toJson⟩

end Operator

namespace RightOperand

def ofJson? : Json → Option RightOperand
  | .text value => some (scalar value)
  | .list items => (items.mapM Json.text?).map list
  | _ => none

def toJson : RightOperand → Json
  | scalar value => .text value
  | list values => Json.texts values

instance : Document RightOperand :=
  ⟨.any, ofJson?, toJson⟩

end RightOperand

namespace Constraint

def fields : Fields :=
  [(["leftOperand"], .text), (["operator"], .text), (["rightOperand"], .any)]

def ofJson? (json : Json) : Option Constraint := do
  let entries ← json.entries? fields 3
  let leftOperand ← entries.required? ["leftOperand"] Json.text?
  let operator ← entries.required? ["operator"] Operator.ofJson?
  let rightOperand ← entries.required? ["rightOperand"] RightOperand.ofJson?
  return ⟨leftOperand, operator, rightOperand⟩

def toJson (c : Constraint) : Json :=
  .object
    [("leftOperand", .text c.leftOperand), ("operator", c.operator.toJson),
      ("rightOperand", c.rightOperand.toJson)]

instance : Document Constraint :=
  ⟨.record fields .ignored, ofJson?, toJson⟩

end Constraint

namespace Permission

def fields : Fields :=
  [(["action"], .text), (["constraint"], .list (Document.shape Constraint))]

def ofJson? (json : Json) : Option Permission := do
  let entries ← json.entries? fields 0
  let action ← entries.withDefault? ["action"] defaultAction Json.text?
  let constraints ← entries.withDefault? ["constraint"] [] (Json.listOf? Constraint.ofJson?)
  return ⟨action, constraints⟩

def toJson (p : Permission) : Json :=
  .object [("action", .text p.action), ("constraint", .list (p.constraints.map Constraint.toJson))]

instance : Document Permission :=
  ⟨.record fields .ignored, ofJson?, toJson⟩

end Permission

namespace Policy

def fields : Fields :=
  [(["permission"], .list (Document.shape Permission))]

def ofJson? (json : Json) : Option Policy := do
  let entries ← json.entries? fields 0
  let permissions ← entries.withDefault? ["permission"] [] (Json.listOf? Permission.ofJson?)
  return ⟨permissions⟩

def toJson (p : Policy) : Json :=
  .object [("permission", .list (p.permissions.map Permission.toJson))]

instance : Document Policy :=
  ⟨.record fields .ignored, ofJson?, toJson⟩

end Policy

namespace PolicyDefinition

def fields : Fields :=
  [(["@id"], .optional .text), (["policy"], Document.shape Policy)]

def ofJson? (json : Json) : Option PolicyDefinition := do
  let entries ← json.entries? fields 0
  let id ← entries.optional? ["@id"] Json.text?
  let policy ← entries.withDefault? ["policy"] ⟨[]⟩ Policy.ofJson?
  return ⟨id, policy⟩

def toJson (d : PolicyDefinition) : Json :=
  .object (optionalEntry "@id" .text d.id ++ [("policy", d.policy.toJson)])

instance : Document PolicyDefinition :=
  ⟨.record fields .ignored, ofJson?, toJson⟩

end PolicyDefinition

end CredentialPolicy
