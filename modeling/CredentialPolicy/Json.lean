import CredentialPolicy.Members

/-!
JSON values. The members of an object are listed as they were written, repeated names included;
`Json.canonical` is the value as it is kept.
-/

namespace CredentialPolicy

structure Decimal where
  mantissa : Int
  exponent : Int
deriving DecidableEq, Repr

inductive Json
  | null
  | bool (value : Bool)
  | int (value : Int)
  | decimal (value : Decimal)
  | text (value : String)
  | list (items : List Json)
  | object (members : List (String × Json))
deriving Inhabited

namespace Json

mutual

/-- Members in ascending order of their names, at every depth; of repeated names the last
counts. -/
def canonical : Json → Json
  | .list items => .list (canonicalItems items)
  | .object members => .object (Members.ofList (canonicalMembers members)).entries
  | value => value

def canonicalItems : List Json → List Json
  | [] => []
  | item :: rest => item.canonical :: canonicalItems rest

def canonicalMembers : List (String × Json) → List (String × Json)
  | [] => []
  | (name, value) :: rest => (name, value.canonical) :: canonicalMembers rest

end

def texts (values : List String) : Json :=
  .list (values.map .text)

def text? : Json → Option String
  | .text value => some value
  | _ => none

def typeName : Json → String
  | .null => "null"
  | .bool _ => "Boolean"
  | .int _ => "Number"
  | .decimal _ => "Number"
  | .text _ => "String"
  | .list _ => "List"
  | .object _ => "Object"

end Json

end CredentialPolicy
