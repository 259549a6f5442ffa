import CredentialPolicy.Text.Affix
import CredentialPolicy.Text.Case
import CredentialPolicy.Url.DirectionTable
import CredentialPolicy.Url.MarkTable

namespace CredentialPolicy.Url

inductive Direction
  | leftToRight
  | rightToLeft
  | europeanNumber
  | arabicNumber
  | neutral
  | mark
deriving DecidableEq, Repr

namespace Direction

def ofChar (c : Char) : Direction :=
  if Text.inRanges MarkTable.nonspacing c then .mark
  else if Text.inRanges DirectionTable.rightToLeft c then .rightToLeft
  else if Text.inRanges DirectionTable.europeanNumber c then .europeanNumber
  else if Text.inRanges DirectionTable.arabicNumber c then .arabicNumber
  else if Text.inRanges DirectionTable.neutral c then .neutral
  else .leftToRight

def turns (d : Direction) : Bool :=
  d = .rightToLeft || d = .arabicNumber

def isKept (label : List Direction) : Bool :=
  let ending := (label.reverse.dropWhile (· = .mark)).head?
  match label.head? with
  | none => true
  | some .leftToRight =>
    !label.any turns && (ending = some .leftToRight || ending = some .europeanNumber)
  | some .rightToLeft =>
    !label.contains .leftToRight && ending ≠ some .neutral &&
      !(label.contains .europeanNumber && label.contains .arabicNumber)
  | some _ => false

end Direction

/-- The rule binds all labels of a name once one of its characters turns. None of ASCII does. -/
def keepDirection (labels : List (List Char)) : Bool :=
  let directions := labels.map (·.map Direction.ofChar)
  labels.all Text.isAscii || !directions.any (·.any Direction.turns) ||
    directions.all Direction.isKept

end CredentialPolicy.Url
