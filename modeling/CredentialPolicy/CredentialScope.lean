import CredentialPolicy.Configuration
import CredentialPolicy.Policy
import CredentialPolicy.Request
import CredentialPolicy.Text.Case

namespace CredentialPolicy

def sortedOnce (texts : List String) : List String :=
  (Members.ofList (texts.map fun t => (t, ()))).entries.map (·.1)

abbrev ScopeExtractor := Constraint → RequestPolicyContext → List String

structure CredentialScopeExtractor where
  policyNamespace : String
  credentialTypeNamespace : String
deriving DecidableEq, Repr

namespace CredentialScopeExtractor

def ofConfiguration (config : Configuration) : CredentialScopeExtractor :=
  ⟨config.policyNamespace, config.credentialTypeNamespace⟩

def credentialType? (x : CredentialScopeExtractor) (leftOperand : String) : Option String :=
  match Text.after? x.policyNamespace leftOperand with
  | none => none
  | some name =>
    let token := Text.before '.' name
    if token.isEmpty then none else some (String.ofList (Text.upperFirst token.toList))

def scopeOf (x : CredentialScopeExtractor) (token : String) : String :=
  x.credentialTypeNamespace ++ ":" ++ token ++ Vocabulary.credentialSuffix ++ ":read"

def scopes (x : CredentialScopeExtractor) : ScopeExtractor := fun c ctx =>
  if ctx.message.any (·.isSupported) then
    ((x.credentialType? c.leftOperand).map x.scopeOf).toList
  else []

end CredentialScopeExtractor

structure ScopeExtractorRegistry where
  extractors : List ScopeExtractor

namespace ScopeExtractorRegistry

def empty : ScopeExtractorRegistry :=
  ⟨[]⟩

def register (r : ScopeExtractorRegistry) (x : ScopeExtractor) : ScopeExtractorRegistry :=
  ⟨r.extractors ++ [x]⟩

def forCredentials (config : Configuration) : ScopeExtractorRegistry :=
  empty.register (CredentialScopeExtractor.ofConfiguration config).scopes

def collect (r : ScopeExtractorRegistry) (policy : Policy) (ctx : RequestPolicyContext) :
    List String :=
  sortedOnce (policy.constraints.flatMap fun c => r.extractors.flatMap fun x => x c ctx)

end ScopeExtractorRegistry

end CredentialPolicy
