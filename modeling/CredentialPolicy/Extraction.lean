import CredentialPolicy.Document.Credential
import CredentialPolicy.EvaluationError

namespace CredentialPolicy

def requireParticipant (participant : Option Participant) : Except ExtractionError Participant :=
  match participant with
  | some p => .ok p
  | none => .error .participantMissing

namespace Participant

def requireIdentity (p : Participant) : Except ExtractionError String :=
  match p.identity with
  | some identity => .ok identity
  | none => .error .identityMissing

/-- The credentials in a claim. In a list of JSON values what is no credential is passed over, so
that it cannot hide the rest; a list of nothing else is not taken for a list of credentials. -/
def credentialsIn [DateFormat] (claim : ClaimValue) : Option (List Credential) :=
  match claim with
  | .credentials list => some list
  | .json (.list items) =>
    let list := items.filterMap Credential.ofJson?
    if list.isEmpty ∧ !items.isEmpty then none else some list
  | _ => none

def credentials [DateFormat] (p : Participant) : Except ExtractionError (List Credential) :=
  match p.claims.get? Vocabulary.credentialClaim with
  | none => .error (.claimMissing Vocabulary.credentialClaim)
  | some claim =>
    match credentialsIn claim with
    | none => .error (.claimWrongType Vocabulary.credentialClaim claim.typeName)
    | some [] => .error (.claimEmpty Vocabulary.credentialClaim)
    | some list => .ok list

end Participant

end CredentialPolicy
