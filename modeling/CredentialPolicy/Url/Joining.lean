import CredentialPolicy.Text.Case
import CredentialPolicy.Url.Composition
import CredentialPolicy.Url.JoiningTable

namespace CredentialPolicy.Url.Joining

def isVirama (c : Char) : Bool :=
  Composition.combiningClass c = 9

def isTransparent (c : Char) : Bool :=
  Text.inRanges MarkTable.nonspacing c || Text.inRanges JoiningTable.transparent c

def joinsLeft (c : Char) : Bool :=
  Text.inRanges JoiningTable.both c || Text.inRanges JoiningTable.left c

def joinsRight (c : Char) : Bool :=
  Text.inRanges JoiningTable.both c || Text.inRanges JoiningTable.right c

def wouldJoin (before after : List Char) : Bool :=
  (before.dropWhile isTransparent).head?.any joinsLeft &&
    (after.dropWhile isTransparent).head?.any joinsRight

def isPlaced (before : List Char) (c : Char) (after : List Char) : Bool :=
  if c.toNat = 0x200C then before.head?.any isVirama || wouldJoin before after
  else if c.toNat = 0x200D then before.head?.any isVirama
  else true

def areJoinersPlaced (before : List Char) : List Char → Bool
  | [] => true
  | c :: rest => isPlaced before c rest && areJoinersPlaced (c :: before) rest

end CredentialPolicy.Url.Joining
