import CredentialPolicy.Number

namespace CredentialPolicy

inductive Leaf
  | null
  | bool (value : Bool)
  | int (value : Int)
  | decimal (value : Decimal)
  | text (value : String)
  /-- A scalar without quotes. What it means depends on what is expected in its place. -/
  | plain (value : String)
  /-- Correct in form, but without a value: half a surrogate pair, a number out of range. -/
  | valueless
deriving DecidableEq, Repr

inductive Node
  | leaf (value : Leaf)
  | list (items : List Node)
  | object (members : List (Leaf × Node))
deriving Inhabited

end CredentialPolicy
