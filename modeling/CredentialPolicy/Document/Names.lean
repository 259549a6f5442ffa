import CredentialPolicy.Certification
import CredentialPolicy.ConstraintFunction
import CredentialPolicy.Document
import CredentialPolicy.Request

namespace CredentialPolicy

abbrev Document.ofNames {α : Type} (ofName? : String → Option α) (name : α → String) : Document α :=
  ⟨.text, Json.ofNames? ofName?, fun value => .text (name value)⟩

instance : Document Certification :=
  .ofNames Certification.ofName? Certification.name

instance : Document PolicyScope :=
  .ofNames PolicyScope.ofName? PolicyScope.name

instance : Document FunctionKind :=
  .ofNames FunctionKind.ofName? FunctionKind.name

instance : Document EvaluationErrorKind :=
  .ofNames EvaluationErrorKind.ofName? EvaluationErrorKind.name

instance : Document MessageKind :=
  .ofNames MessageKind.ofName? MessageKind.name

end CredentialPolicy
