import CredentialPolicy.Did
import CredentialPolicy.Policy
import CredentialPolicy.Registration

namespace CredentialPolicy

structure Violation where
  message : String
  path : String
deriving DecidableEq, Repr

def Violation.display (v : Violation) : String :=
  v.message ++ " (at " ++ v.path ++ ")"

namespace Did

def check (text path : String) : Except Violation Did :=
  match parse text with
  | .ok did => .ok did
  | .error _ => .error ⟨text ++ " should be a valid did", path⟩

def memberPath (path : String) (i : Nat) : String :=
  path ++ "/" ++ toString i

def checkMembers (path : String) (texts : List String) : List (Except Violation Did) :=
  texts.zipIdx.map fun (text, i) => check text (memberPath path i)

def checkGroup (texts : List String) (path : String) : Except (List Violation) (List Did) :=
  if texts.isEmpty then .error [⟨"array must contain at least 1 element", path⟩]
  else
    let results := checkMembers path texts
    let violations := results.filterMap fun
      | .error v => some v
      | .ok _ => none
    if violations.isEmpty then
      .ok <| results.filterMap fun
        | .ok did => some did
        | .error _ => none
    else .error violations

end Did

namespace PolicyDefinition

def checkId (d : PolicyDefinition) : List Violation :=
  if d.id.all Text.isBlank then [⟨"mandatory value '@id' is missing or it is blank", "@id"⟩] else []

def checkPermissions (d : PolicyDefinition) : List Violation :=
  if d.policy.permissions.isEmpty then [⟨"No permission constraints added", "policy/permission"⟩]
  else []

/-- Whether a left operand names a business partner, in any namespace and any case. -/
def selectsPartner (leftOperand : String) : Bool :=
  Text.sameIgnoringAsciiCase (Text.lastSegment ['/', '#', ':'] leftOperand)
    Vocabulary.businessPartnerDid

def rightOperandPath (permission constraint : Nat) : String :=
  "policy/permission/" ++ toString permission ++ "/constraint/" ++ toString constraint ++
    "/rightOperand"

def checkSelector (didStart : String) (permission constraint : Nat) (c : Constraint) :
    List Violation :=
  if selectsPartner c.leftOperand && c.rightOperand.values.any (!Text.begins didStart ·) then
    let path := rightOperandPath permission constraint
    [⟨path ++ " should start with " ++ didStart, path⟩]
  else []

def checkSelectors (didStart : String) (d : PolicyDefinition) : List Violation :=
  d.policy.permissions.zipIdx.flatMap fun (p, i) =>
    p.constraints.zipIdx.flatMap fun (c, j) => checkSelector didStart i j c

def checkForm (config : Configuration) (d : PolicyDefinition) : List Violation :=
  if config.checksDidSelectors then
    d.checkId ++ d.checkPermissions ++ d.checkSelectors config.didStart
  else []

def check (config : Configuration) (d : PolicyDefinition) : List Violation :=
  let (engine, _) := configured config
  d.checkForm config ++ (engine.check d.policy).map fun e => ⟨e.message, "policy"⟩

end PolicyDefinition

end CredentialPolicy
