import CredentialPolicy.Text.Affix
import CredentialPolicy.Number
import CredentialPolicy.Url.Image
import CredentialPolicy.Url.Composition
import CredentialPolicy.Url.Direction
import CredentialPolicy.Url.Joining
import CredentialPolicy.Url.Punycode
import CredentialPolicy.Url.Address

namespace CredentialPolicy.Url

def isForbiddenInDomain (c : Char) : Bool :=
  c.toNat ≤ 0x20 || c.toNat = 0x7F || "#%/:<>?@[\\]^|".toList.contains c

def percentDecoded : List Char → List UInt8
  | '%' :: a :: b :: rest =>
    match Number.ofDigits? 16 [a, b] with
    | some byte => byte.toUInt8 :: percentDecoded rest
    | none => '%'.toUInt8 :: percentDecoded (a :: b :: rest)
  | c :: rest => (String.singleton c).toUTF8.toList ++ percentDecoded rest
  | [] => []

def isSettled (text : List Char) : Bool :=
  (text.all fun c => Image.ofChar? c = some [c]) && Composition.composed text = text

def codedLabel? (digits : List Char) : Option (List Char) := do
  guard (Text.isAscii digits ∧ digits.length ≤ 2000)
  let label ← Punycode.decode? digits
  guard (!Text.isAscii label ∧ isSettled label)
  return label

def plainLabel? (label : List Char) : Option (List Char) :=
  match Text.listAfter? ['x', 'n', '-', '-'] label with
  | some digits => codedLabel? digits
  | none => some label

def isLabel (label : List Char) : Bool :=
  !(label.head?.any (Text.inRanges MarkTable.marks)) && Joining.areJoinersPlaced [] label &&
    (Text.isAscii label || label.length ≤ 1000)

def domain? (host : List Char) : Option (List Char) := do
  let text ← String.fromUTF8? (percentDecoded host).toByteArray
  let images ← text.toList.mapM Image.ofChar?
  let domain := Composition.composed images.flatten
  let labels ← (splitOn '.' domain).mapM plainLabel?
  guard (!domain.any isForbiddenInDomain ∧ labels.all isLabel ∧ keepDirection labels)
  return domain

end CredentialPolicy.Url
