import CredentialPolicy.Configuration
import CredentialPolicy.Document

namespace CredentialPolicy

def Entries.onlyOf (entries : Entries) (fields : Fields) : Bool :=
  entries.all fun e => fields.any (·.1.contains e.1)

structure ValidatorSwitches where
  checksDidSelectors : Bool := true
deriving DecidableEq, Repr

namespace ValidatorSwitches

def fields : Fields :=
  [(["incorrect_did_selector"], .any)]

def ofJson? (json : Json) : Option ValidatorSwitches := do
  let entries ← json.entries? fields 0
  if entries.onlyOf fields then
    let checksDidSelectors ← entries.withDefault? ["incorrect_did_selector"] true Json.flag?
    return ⟨checksDidSelectors⟩
  else none

def toJson (s : ValidatorSwitches) : Json :=
  .object [("incorrect_did_selector", .bool s.checksDidSelectors)]

instance : Document ValidatorSwitches :=
  ⟨.record fields .ignored, ofJson?, toJson⟩

end ValidatorSwitches

namespace Configuration

def fields : Fields :=
  [(["policy_namespace"], .text), (["credential_namespace"], .text),
    (["credential_type_namespace"], .text), (["did_prefix"], .text),
    (["validator"], Document.shape ValidatorSwitches)]

def ofJson? (json : Json) : Option Configuration := do
  let entries ← json.entries? fields 0
  let default : Configuration := {}
  if entries.onlyOf fields then
    let policyNamespace ←
      entries.withDefault? ["policy_namespace"] default.policyNamespace Json.text?
    let credentialNamespace ←
      entries.withDefault? ["credential_namespace"] default.credentialNamespace Json.text?
    let credentialTypeNamespace ←
      entries.withDefault? ["credential_type_namespace"] default.credentialTypeNamespace Json.text?
    let didStart ← entries.withDefault? ["did_prefix"] default.didStart Json.text?
    let switches ← entries.withDefault? ["validator"] {} ValidatorSwitches.ofJson?
    return ⟨policyNamespace, credentialNamespace, credentialTypeNamespace, didStart,
      switches.checksDidSelectors⟩
  else none

def toJson (c : Configuration) : Json :=
  .object
    [("policy_namespace", .text c.policyNamespace),
      ("credential_namespace", .text c.credentialNamespace),
      ("credential_type_namespace", .text c.credentialTypeNamespace),
      ("did_prefix", .text c.didStart),
      ("validator", (ValidatorSwitches.mk c.checksDidSelectors).toJson)]

instance : Document Configuration :=
  ⟨.record fields .ignored, ofJson?, toJson⟩

end Configuration

end CredentialPolicy
