import CredentialPolicy.Record

namespace CredentialPolicy

/-- The reading of texts in the two written forms, which is told what the value should look like. -/
class TextReader where
  json? : Shape → String → Option Json
  yaml? : Shape → String → Option Json

class Document (α : Type) where
  shape : Shape
  decode? : Json → Option α
  encode : α → Json

namespace Document

variable {α : Type} [TextReader] [Document α]

def ofJsonText? (text : String) : Option α :=
  (TextReader.json? (shape α) text).bind decode?

def ofYamlText? (text : String) : Option α :=
  (TextReader.yaml? (shape α) text).bind decode?

end Document

end CredentialPolicy
