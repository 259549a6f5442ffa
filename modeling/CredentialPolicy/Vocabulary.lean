namespace CredentialPolicy.Vocabulary

def policyNamespace : String :=
  "https://w3id.org/factoryx/policy/v1.0/"

def credentialNamespace : String :=
  "https://w3id.org/factoryx/credentials/v1.0/"

def credentialTypeNamespace : String :=
  "org.factoryx.vc.type"

def odrlNamespace : String :=
  "http://www.w3.org/ns/odrl/2/"

def webDid : String :=
  "did:web:"

def credentialClaim : String :=
  "vc"

def credentialSuffix : String :=
  "Credential"

def membership : String :=
  "Membership"

def certificationType : String :=
  "CertificationType"

def businessPartnerDid : String :=
  "BusinessPartnerDID"

def active : String :=
  "active"

end CredentialPolicy.Vocabulary
