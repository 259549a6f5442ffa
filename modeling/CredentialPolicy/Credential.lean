import CredentialPolicy.Instant
import CredentialPolicy.Json
import CredentialPolicy.Text.Affix

namespace CredentialPolicy

structure Issuer where
  id : String
  properties : Members Json

structure CredentialSubject where
  id : Option String
  claims : Members Json

structure Credential where
  id : Option String
  types : List String
  issuer : Issuer
  issuanceDate : Option Instant
  expirationDate : Option Instant
  subjects : List CredentialSubject

def Issuer.named (id : String) : Issuer :=
  ⟨id, .empty⟩

def CredentialSubject.named (id : String) : CredentialSubject :=
  ⟨some id, .empty⟩

def CredentialSubject.withClaim (s : CredentialSubject) (name : String) (value : Json) :
    CredentialSubject :=
  { s with claims := s.claims.insert name value }

namespace Credential

def ofTypes (types : List String) (issuer : Issuer) : Credential :=
  ⟨none, types, issuer, none, none, []⟩

def hasType (c : Credential) (namespaceText name : String) : Bool :=
  c.types.any fun tag => tag = name || Text.after? namespaceText tag = some name

end Credential

end CredentialPolicy
