import CredentialPolicy.Yaml.Token
import CredentialPolicy.Node

namespace CredentialPolicy.Yaml

def nothing : Node :=
  .leaf (.plain "")

def keyLeaf : Node → Leaf
  | .leaf leaf => leaf
  | _ => .valueless

def Token.endsEntry : Token → Bool
  | .item | .key | .value | .closeBlock => true
  | _ => false

def Token.endsBlockValue : Token → Bool
  | .key | .value | .closeBlock => true
  | _ => false

def Token.endsFlowEntry : Token → Bool
  | .comma | .value | .closeFlowList | .closeFlowMapping => true
  | _ => false

def endsHere (ends : Token → Bool) (ts : List Token) : Bool :=
  ts.head?.any ends

abbrev Parsed (α : Type) := Option (α × List Token)

mutual

def nodeFrom (fuel : Nat) (inBlock indentless : Bool) (ts : List Token) : Parsed Node :=
  match fuel with
  | 0 => none
  | fuel + 1 =>
    match ts with
    | .item :: _ => if indentless then indentlessItems fuel [] ts else none
    | .plain text :: rest => some (.leaf (.plain text), rest)
    | .quoted text :: rest => some (.leaf (.text text), rest)
    | .openFlowList :: rest => flowItems fuel true [] rest
    | .openFlowMapping :: rest => flowMembers fuel true [] rest
    | .openBlockList :: rest => if inBlock then blockItems fuel [] rest else none
    | .openBlockMapping :: rest => if inBlock then blockMembers fuel [] rest else none
    | _ => none

def nodeUnless (fuel : Nat) (ends : Token → Bool) (inBlock indentless : Bool) (ts : List Token) :
    Parsed Node :=
  match fuel with
  | 0 => none
  | fuel + 1 => if endsHere ends ts then some (nothing, ts) else nodeFrom fuel inBlock indentless ts

def blockItems (fuel : Nat) (reversed : List Node) (ts : List Token) : Parsed Node :=
  match fuel with
  | 0 => none
  | fuel + 1 =>
    match ts with
    | .item :: rest =>
      (nodeUnless fuel Token.endsEntry true false rest).bind fun (node, rest) =>
        blockItems fuel (node :: reversed) rest
    | .closeBlock :: rest => some (.list reversed.reverse, rest)
    | _ => none

def indentlessItems (fuel : Nat) (reversed : List Node) (ts : List Token) : Parsed Node :=
  match fuel with
  | 0 => none
  | fuel + 1 =>
    match ts with
    | .item :: rest =>
      (nodeUnless fuel Token.endsEntry true false rest).bind fun (node, rest) =>
        indentlessItems fuel (node :: reversed) rest
    | rest => some (.list reversed.reverse, rest)

def blockMembers (fuel : Nat) (reversed : List (Leaf × Node)) (ts : List Token) : Parsed Node :=
  match fuel with
  | 0 => none
  | fuel + 1 =>
    match ts with
    | .key :: rest =>
      (nodeUnless fuel Token.endsBlockValue true true rest).bind fun (key, rest) =>
        (valueFrom fuel Token.endsBlockValue true rest).bind fun (value, rest) =>
          blockMembers fuel ((keyLeaf key, value) :: reversed) rest
    | .closeBlock :: rest => some (.object reversed.reverse, rest)
    | _ => none

def valueFrom (fuel : Nat) (ends : Token → Bool) (inBlock : Bool) (ts : List Token) : Parsed Node :=
  match fuel with
  | 0 => none
  | fuel + 1 =>
    match ts with
    | .value :: rest => nodeUnless fuel ends inBlock inBlock rest
    | rest => some (nothing, rest)

def flowItems (fuel : Nat) (first : Bool) (reversed : List Node) (ts : List Token) : Parsed Node :=
  match fuel with
  | 0 => none
  | fuel + 1 =>
    match ts with
    | .closeFlowList :: rest => some (.list reversed.reverse, rest)
    | ts =>
      (flowNext first ts).bind fun ts =>
        match ts with
        | .closeFlowList :: rest => some (.list reversed.reverse, rest)
        | .key :: rest =>
          (flowMember fuel rest).bind fun (member, rest) =>
            flowItems fuel false (.object [member] :: reversed) rest
        | ts =>
          (nodeFrom fuel false false ts).bind fun (node, rest) =>
            flowItems fuel false (node :: reversed) rest

def flowMembers (fuel : Nat) (first : Bool) (reversed : List (Leaf × Node)) (ts : List Token) :
    Parsed Node :=
  match fuel with
  | 0 => none
  | fuel + 1 =>
    match ts with
    | .closeFlowMapping :: rest => some (.object reversed.reverse, rest)
    | ts =>
      (flowNext first ts).bind fun ts =>
        match ts with
        | .closeFlowMapping :: rest => some (.object reversed.reverse, rest)
        | .key :: rest =>
          (flowMember fuel rest).bind fun (member, rest) =>
            flowMembers fuel false (member :: reversed) rest
        | ts =>
          (nodeFrom fuel false false ts).bind fun (key, rest) =>
            flowMembers fuel false ((keyLeaf key, nothing) :: reversed) rest

def flowNext (first : Bool) (ts : List Token) : Option (List Token) :=
  if first then some ts
  else
    match ts with
    | .comma :: rest => some rest
    | _ => none

def flowMember (fuel : Nat) (ts : List Token) : Parsed (Leaf × Node) :=
  match fuel with
  | 0 => none
  | fuel + 1 =>
    (nodeUnless fuel Token.endsFlowEntry false false ts).bind fun (key, rest) =>
      (valueFrom fuel Token.endsFlowEntry false rest).bind fun (value, rest) =>
        some ((keyLeaf key, value), rest)

end

def isFinished (ts : List Token) : Bool :=
  ts.all (· = .documentEnd)

def Token.endsDocument : Token → Bool
  | .documentStart | .documentEnd => true
  | _ => false

def document? (ts : List Token) : Option Node :=
  let fuel := 4 * ts.length + 4
  let body := match ts with
    | [] => some (nothing, [])
    | .documentStart :: rest =>
      if rest.isEmpty || endsHere Token.endsDocument rest then some (nothing, rest)
      else nodeFrom fuel true false rest
    | ts => nodeFrom fuel true false ts
  body.bind fun (node, rest) => if isFinished rest then some node else none

def node? (text : String) : Option Node :=
  (tokens? text).bind document?

end CredentialPolicy.Yaml
