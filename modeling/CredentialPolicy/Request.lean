import CredentialPolicy.Document
import CredentialPolicy.PolicyScope

namespace CredentialPolicy

inductive MessageKind
  | catalogRequest
  | contractRequest
  | transferRequest
  | datasetRequest
  | contractAgreement
  | transferStart
  | transferTermination
deriving DecidableEq, Repr

namespace MessageKind

def all : List MessageKind :=
  [catalogRequest, contractRequest, transferRequest, datasetRequest, contractAgreement,
    transferStart, transferTermination]

def name : MessageKind → String
  | catalogRequest => "catalogRequest"
  | contractRequest => "contractRequest"
  | transferRequest => "transferRequest"
  | datasetRequest => "datasetRequest"
  | contractAgreement => "contractAgreement"
  | transferStart => "transferStart"
  | transferTermination => "transferTermination"

def ofName? (value : String) : Option MessageKind :=
  all.find? (·.name = value)

def requestScope? : MessageKind → Option PolicyScope
  | catalogRequest => some .requestCatalog
  | contractRequest => some .requestContractNegotiation
  | transferRequest => some .requestTransferProcess
  | _ => none

def supported : List MessageKind :=
  [catalogRequest, contractRequest, transferRequest]

def isSupported (kind : MessageKind) : Bool :=
  supported.contains kind

end MessageKind

structure RequestContext where
  message : Option MessageKind
deriving DecidableEq, Repr

structure RequestPolicyContext where
  request : Option RequestContext
deriving DecidableEq, Repr

def RequestPolicyContext.forMessage (message : Option MessageKind) : RequestPolicyContext :=
  ⟨message.map fun kind => ⟨some kind⟩⟩

def RequestPolicyContext.message (ctx : RequestPolicyContext) : Option MessageKind :=
  ctx.request.bind (·.message)

namespace RequestContext

def fields : Fields :=
  [(["message"], .optional .text)]

def ofJson? (json : Json) : Option RequestContext := do
  let entries ← json.entries? fields 1
  let message ← entries.optional? ["message"] (Json.ofNames? MessageKind.ofName?)
  return ⟨message⟩

def toJson (r : RequestContext) : Json :=
  .object [("message", (r.message.map fun kind => Json.text kind.name).getD .null)]

instance : Document RequestContext :=
  ⟨.record fields .ignored, ofJson?, toJson⟩

end RequestContext

namespace RequestPolicyContext

def fields : Fields :=
  [(["request_context"], .optional (Document.shape RequestContext))]

def ofJson? (json : Json) : Option RequestPolicyContext := do
  let entries ← json.entries? fields 1
  let request ← entries.optional? ["request_context"] RequestContext.ofJson?
  return ⟨request⟩

def toJson (ctx : RequestPolicyContext) : Json :=
  .object [("request_context", (ctx.request.map RequestContext.toJson).getD .null)]

instance : Document RequestPolicyContext :=
  ⟨.record fields .ignored, ofJson?, toJson⟩

end RequestPolicyContext

end CredentialPolicy
