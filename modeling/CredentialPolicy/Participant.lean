import CredentialPolicy.Credential

namespace CredentialPolicy

inductive ClaimValue
  | text (value : String)
  | credentials (list : List Credential)
  | json (value : Json)

def ClaimValue.typeName : ClaimValue → String
  | text _ => "String"
  | credentials _ => "List<VerifiableCredential>"
  | json value => value.typeName

structure Participant where
  identity : Option String
  claims : Members ClaimValue

def Participant.anonymous : Participant :=
  ⟨none, .empty⟩

def Participant.withClaim (p : Participant) (name : String) (value : ClaimValue) : Participant :=
  { p with claims := p.claims.insert name value }

end CredentialPolicy
