import CredentialPolicy.Document
import CredentialPolicy.Participant

namespace CredentialPolicy

def keptMembers (entries : Entries) : Members Json :=
  Members.ofList (Json.canonicalMembers entries)

/-- A member of the same name takes the place of an identifier. -/
def objectWith (id : Entries) (members : Members Json) : Json :=
  .object (Members.ofList (id ++ members.entries)).entries

variable [DateFormat]

def Instant.ofJson? : Json → Option Instant
  | .text value => DateFormat.read? value
  | _ => none

def Instant.toJson (i : Instant) : Json :=
  .text (DateFormat.render i)

namespace Issuer

def ofJson? : Json → Option Issuer
  | .text value => some (named value)
  | .object entries => do
    let id ← Entries.required? entries ["id"] Json.text?
    return ⟨id, keptMembers (Entries.without entries ["id"])⟩
  | _ => none

def toJson (i : Issuer) : Json :=
  objectWith [("id", .text i.id)] i.properties

instance : Document Issuer :=
  ⟨.any, ofJson?, toJson⟩

end Issuer

namespace CredentialSubject

def ofJson? : Json → Option CredentialSubject
  | .object entries => do
    let id ← Entries.optional? entries ["id"] Json.text?
    return ⟨id, keptMembers (Entries.without entries ["id"])⟩
  | _ => none

def toJson (s : CredentialSubject) : Json :=
  objectWith (optionalEntry "id" .text s.id) s.claims

instance : Document CredentialSubject :=
  ⟨.record [(["id"], .optional .text)] .any, ofJson?, toJson⟩

end CredentialSubject

def Json.oneOrMany? {α : Type} (decode : Json → Option α) : Json → Option (List α)
  | .list items => items.mapM decode
  | value => (decode value).map ([·])

namespace Credential

def fields : Fields :=
  [(["id"], .optional .text), (["type"], .any), (["issuer"], .any),
    (["issuanceDate", "validFrom"], .optional .text),
    (["expirationDate", "validUntil"], .optional .text), (["credentialSubject"], .any)]

def ofJson? (json : Json) : Option Credential := do
  let entries ← json.entries? fields 3
  let id ← entries.optional? ["id"] Json.text?
  let types ← entries.required? ["type"] (Json.oneOrMany? Json.text?)
  let issuer ← entries.required? ["issuer"] Issuer.ofJson?
  let issuanceDate ← entries.optional? ["issuanceDate", "validFrom"] Instant.ofJson?
  let expirationDate ← entries.optional? ["expirationDate", "validUntil"] Instant.ofJson?
  let subjects ←
    entries.withDefault? ["credentialSubject"] [] (Json.oneOrMany? CredentialSubject.ofJson?)
  return ⟨id, types, issuer, issuanceDate, expirationDate, subjects⟩

def toJson (c : Credential) : Json :=
  .object
    (optionalEntry "id" .text c.id ++ [("type", Json.texts c.types), ("issuer", c.issuer.toJson)] ++
      optionalEntry "issuanceDate" Instant.toJson c.issuanceDate ++
      optionalEntry "expirationDate" Instant.toJson c.expirationDate ++
      [("credentialSubject", .list (c.subjects.map CredentialSubject.toJson))])

instance : Document Credential :=
  ⟨.record fields .ignored, ofJson?, toJson⟩

end Credential

namespace ClaimValue

/-- A list of nothing but credentials becomes one; every value that is no text and no such list is
kept as it is. -/
def ofJson : Json → ClaimValue
  | .text value => text value
  | .list items =>
    match items.mapM Credential.ofJson? with
    | some list => credentials list
    | none => json (Json.list items).canonical
  | value => json value.canonical

def toJson : ClaimValue → Json
  | text value => .text value
  | credentials list => .list (list.map Credential.toJson)
  | json value => value

instance : Document ClaimValue :=
  ⟨.any, fun json => some (ofJson json), toJson⟩

end ClaimValue

namespace Participant

def fields : Fields :=
  [(["identity"], .optional .text), (["claims"], .mapping .any)]

def claimsOfJson? : Json → Option (Members ClaimValue)
  | .object entries => some (Members.ofList (entries.map fun e => (e.1, ClaimValue.ofJson e.2)))
  | _ => none

def ofJson? (json : Json) : Option Participant := do
  let entries ← json.entries? fields 0
  let identity ← entries.optional? ["identity"] Json.text?
  let claims ← entries.withDefault? ["claims"] .empty claimsOfJson?
  return ⟨identity, claims⟩

def toJson (p : Participant) : Json :=
  .object
    (optionalEntry "identity" .text p.identity ++
      [("claims", .object (p.claims.entries.map fun e => (e.1, e.2.toJson)))])

instance : Document Participant :=
  ⟨.record fields .ignored, ofJson?, toJson⟩

end Participant

end CredentialPolicy
