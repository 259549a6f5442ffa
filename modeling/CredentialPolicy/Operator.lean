import CredentialPolicy.Text.Affix
import CredentialPolicy.Vocabulary

namespace CredentialPolicy

inductive Operator
  | eq
  | neq
  | isIn
  | isA
  | isAnyOf
  | isNoneOf
  | isAllOf
  | hasPart
  | lt
  | gt
  | lteq
  | gteq
deriving DecidableEq, Repr

namespace Operator

def all : List Operator :=
  [eq, neq, isIn, isA, isAnyOf, isNoneOf, isAllOf, hasPart, lt, gt, lteq, gteq]

def name : Operator → String
  | eq => "eq"
  | neq => "neq"
  | isIn => "in"
  | isA => "isA"
  | isAnyOf => "isAnyOf"
  | isNoneOf => "isNoneOf"
  | isAllOf => "isAllOf"
  | hasPart => "hasPart"
  | lt => "lt"
  | gt => "gt"
  | lteq => "lteq"
  | gteq => "gteq"

def display : Operator → String
  | eq => "EQ"
  | neq => "NEQ"
  | isIn => "IN"
  | isA => "IS_A"
  | isAnyOf => "IS_ANY_OF"
  | isNoneOf => "IS_NONE_OF"
  | isAllOf => "IS_ALL_OF"
  | hasPart => "HAS_PART"
  | lt => "LT"
  | gt => "GT"
  | lteq => "LEQ"
  | gteq => "GEQ"

def localName (value : String) : String :=
  match Text.after? Vocabulary.odrlNamespace value with
  | some name => name
  | none => (Text.after? "odrl:" value).getD value

def parse? (value : String) : Option Operator :=
  all.find? fun op => Text.sameIgnoringAsciiCase op.name (localName value)

def displayList (ops : List Operator) : String :=
  "[" ++ ", ".intercalate (ops.map display) ++ "]"

end Operator

end CredentialPolicy
