import CredentialPolicy.Text.Quoted

namespace CredentialPolicy

inductive ValidationError
  | invalidDid (value : String)
  | unknownOperator (value : String)
  | rightOperandStart (start value : String)
  | rightOperandListStart (start : String) (values : List String)
  | blank (field : String)
  | invalidNamespace (value reason : String)
deriving DecidableEq, Repr

namespace ValidationError

def message : ValidationError → String
  | invalidDid value =>
    "invalid DID: \"" ++ value ++ "\" (expected did:web:<host>[:<path>])"
  | unknownOperator value => "unknown operator \"" ++ value ++ "\""
  | rightOperandStart start value =>
    "The right-operand must start with " ++ start ++ ", but was '" ++ value ++ "'"
  | rightOperandListStart start values =>
    "All the elements in the right-operand list must start with " ++ start ++ ", but was '" ++
      Text.quotedList values ++ "'"
  | blank field => field ++ " must not be blank"
  | invalidNamespace value reason => "invalid namespace \"" ++ value ++ "\": " ++ reason

end ValidationError

end CredentialPolicy
