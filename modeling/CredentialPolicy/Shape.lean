/-!
What a document is expected to look like. A shape gives plain scalars their meaning and passes over
what nobody asks for; it does not check the rest, so a document of another shape stays what it is.
-/

namespace CredentialPolicy

inductive Shape
  | ignored
  | any
  | text
  | optional (value : Shape)
  | list (item : Shape)
  /-- Named fields, each with all its spellings. They may also be listed in their order. -/
  | record (fields : List (List String × Shape)) (others : Shape)

namespace Shape

def mapping (value : Shape) : Shape :=
  .record [] value

def itemAt (i : Nat) : Shape → Shape
  | .optional value => value.itemAt i
  | .list item => item
  | .record fields _ => ((fields[i]?).map (·.2)).getD .any
  | _ => .any

def member (name : String) : Shape → Shape
  | .optional value => value.member name
  | .record fields others => ((fields.find? (·.1.contains name)).map (·.2)).getD others
  | _ => .any

def isRecord : Shape → Bool
  | .optional value => value.isRecord
  | .record _ _ => true
  | _ => false

def isText : Shape → Bool
  | .optional value => value.isText
  | .text => true
  | _ => false

end Shape

end CredentialPolicy
