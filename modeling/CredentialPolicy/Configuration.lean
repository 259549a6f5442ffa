import CredentialPolicy.Text.Affix
import CredentialPolicy.Text.Blank
import CredentialPolicy.ValidationError
import CredentialPolicy.Vocabulary

namespace CredentialPolicy

structure Configuration where
  policyNamespace : String := Vocabulary.policyNamespace
  credentialNamespace : String := Vocabulary.credentialNamespace
  credentialTypeNamespace : String := Vocabulary.credentialTypeNamespace
  didStart : String := Vocabulary.webDid
  /-- Whether policy definitions that name a partner by something else than a DID are refused. -/
  checksDidSelectors : Bool := true
deriving DecidableEq, Repr

def isTerminated (namespaceText : String) : Bool :=
  Text.endsWithAny ['/', '#'] namespaceText

/-- Parsing of URLs. All that matters here is what keeps a text from being one. -/
class UrlParser where
  fault? : String → Option String

def checkNamespace [UrlParser] (value : String) : Except ValidationError Unit :=
  if isTerminated value then
    match UrlParser.fault? value with
    | none => .ok ()
    | some reason => .error (.invalidNamespace value reason)
  else .error (.invalidNamespace value "must end with '/' or '#'")

def checkNotBlank (field value : String) : Except ValidationError Unit :=
  if Text.isBlank value then .error (.blank field) else .ok ()

inductive ConfigurationError
  | invalidOverride (key value : String)
  | invalid (fault : ValidationError)
deriving DecidableEq, Repr

def ConfigurationError.message : ConfigurationError → String
  | invalidOverride key value => "invalid value for " ++ key ++ ": \"" ++ value ++ "\""
  | invalid fault => fault.message

namespace Configuration

def check [UrlParser] (c : Configuration) : Except ValidationError Unit := do
  checkNamespace c.policyNamespace
  checkNamespace c.credentialNamespace
  checkNotBlank "credential_type_namespace" c.credentialTypeNamespace
  checkNotBlank "did_prefix" c.didStart

theorem check_eq_ok [UrlParser] {c : Configuration} (h : c.check.isOk = true) :
    c.check = .ok () := by
  cases hcheck : c.check with
  | ok _ => rfl
  | error fault => rw [hcheck] at h; cases h

def policyNamespaceKey : String :=
  "FX_POLICY_NS"

def credentialNamespaceKey : String :=
  "FX_CREDENTIAL_NS"

def credentialTypeNamespaceKey : String :=
  "FX_CREDENTIAL_TYPE_NS"

def didStartKey : String :=
  "FX_DID_PREFIX"

def checksDidSelectorsKey : String :=
  "FX_VALIDATOR_INCORRECT_DID_SELECTOR"

def overrideKeys : List String :=
  [policyNamespaceKey, credentialNamespaceKey, credentialTypeNamespaceKey, didStartKey,
    checksDidSelectorsKey]

def overriddenFlag (flag : Bool) : Option String → Except ConfigurationError Bool
  | none => .ok flag
  | some value =>
    if Text.trim value = "true" then .ok true
    else if Text.trim value = "false" then .ok false
    else .error (.invalidOverride checksDidSelectorsKey value)

def overrideWith [UrlParser] (c : Configuration) (lookup : String → Option String) :
    Except ConfigurationError Configuration := do
  let checksDidSelectors ← overriddenFlag c.checksDidSelectors (lookup checksDidSelectorsKey)
  let overridden : Configuration :=
    { policyNamespace := (lookup policyNamespaceKey).getD c.policyNamespace
      credentialNamespace := (lookup credentialNamespaceKey).getD c.credentialNamespace
      credentialTypeNamespace :=
        (lookup credentialTypeNamespaceKey).getD c.credentialTypeNamespace
      didStart := (lookup didStartKey).getD c.didStart
      checksDidSelectors }
  match overridden.check with
  | .ok _ => return overridden
  | .error fault => throw (.invalid fault)

end Configuration

end CredentialPolicy
