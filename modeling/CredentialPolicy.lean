import CredentialPolicy.Text.Affix
import CredentialPolicy.Text.Blank
import CredentialPolicy.Json.Pretty
import CredentialPolicy.Json.Reader
import CredentialPolicy.Yaml.Reader
import CredentialPolicy.Shape
import CredentialPolicy.Instant
import CredentialPolicy.Url
import CredentialPolicy.Policy
import CredentialPolicy.PolicyScope
import CredentialPolicy.Certification
import CredentialPolicy.Did
import CredentialPolicy.Configuration
import CredentialPolicy.Participant
import CredentialPolicy.Document.Policy
import CredentialPolicy.Document.Credential
import CredentialPolicy.Document.Configuration
import CredentialPolicy.Violation
import CredentialPolicy.CredentialScope
import CredentialPolicy.Main
import CredentialPolicy.Document.Names
import CredentialPolicy.Proofs.Composition
import CredentialPolicy.Proofs.FailClosed
import CredentialPolicy.Proofs.CredentialScopes
import CredentialPolicy.Proofs.ScopeAgreement
import CredentialPolicy.Proofs.Binding
import CredentialPolicy.Proofs.CaseMapping
import CredentialPolicy.Proofs.Enforcement
import CredentialPolicy.Proofs.DefinitionCheck
import CredentialPolicy.Proofs.PartnerSelector
import CredentialPolicy.Proofs.Decision
import CredentialPolicy.Proofs.Reporting
import CredentialPolicy.Proofs.Duality
import CredentialPolicy.Proofs.Noninterference
import CredentialPolicy.Proofs.Monotonicity
import CredentialPolicy.Proofs.KeptJson
import CredentialPolicy.Proofs.RecordReading
import CredentialPolicy.Proofs.CredentialClaim
import CredentialPolicy.Proofs.InstantText
import CredentialPolicy.Proofs.CredentialRoundTrip
import CredentialPolicy.Proofs.CredentialSpelling
import CredentialPolicy.Proofs.Reconfiguration
import CredentialPolicy.Proofs.PolicyDocument
import CredentialPolicy.Proofs.ConfigurationLoading
import CredentialPolicy.Proofs.Comparison
import CredentialPolicy.Proofs.CredentialPresence
import CredentialPolicy.Proofs.FunctionRegistry
import CredentialPolicy.Proofs.BindingHistory
import CredentialPolicy.Proofs.ScopeCollection
import CredentialPolicy.Proofs.CredentialToken
import CredentialPolicy.Proofs.DefinitionViolations
import CredentialPolicy.Proofs.OperatorName
import CredentialPolicy.Proofs.RightOperandCheck
import CredentialPolicy.Proofs.DidGroup
import CredentialPolicy.Proofs.CommandOutcome
