import CredentialPolicy.Text.Affix
import CredentialPolicy.Text.Case
import CredentialPolicy.Url.ArabicTable
import CredentialPolicy.Url.DomainTable
import CredentialPolicy.Url.IdeographTable
import CredentialPolicy.Url.ImageTable

namespace CredentialPolicy.Url.Image

def singles : List (List (Nat × Nat)) :=
  [ImageTable.single, ArabicTable.forms, IdeographTable.radicals, IdeographTable.compatible,
   IdeographTable.supplementary]

def expansions : List (List (Nat × List Nat)) :=
  [ImageTable.several, ImageTable.squared, ArabicTable.ligatures]

def spelled (c : Char) : List Char :=
  match expansions.findSome? (·.lookup c.toNat), singles.findSome? (·.lookup c.toNat) with
  | some images, _ => images.map Char.ofNat
  | none, some n => [Char.ofNat n]
  | none, none => Text.mapCase DomainTable.shifted [] c

/-- Nothing for a character that no name may hold; of some, no character is left. -/
def ofChar? (c : Char) : Option (List Char) :=
  if c.toNat < 128 then some [Text.lowerAscii c]
  else if Text.inRanges DomainTable.disallowed c then none
  else if Text.inRanges DomainTable.ignored c then some []
  else some (spelled c)

end CredentialPolicy.Url.Image
