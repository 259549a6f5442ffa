import CredentialPolicy.Text.Affix
import CredentialPolicy.Text.Blank
import CredentialPolicy.ValidationError
import CredentialPolicy.Vocabulary

namespace CredentialPolicy

def isWebDid (text : String) : Bool :=
  !Text.isBlank text && Text.begins Vocabulary.webDid text && !Text.endsWithAny [':'] text

structure Did where
  text : String
  isWeb : isWebDid text = true

def Did.parse (text : String) : Except ValidationError Did :=
  if h : isWebDid text = true then .ok ⟨text, h⟩ else .error (.invalidDid text)

end CredentialPolicy
