import CredentialPolicy.Json
import CredentialPolicy.Text.Quoted

namespace CredentialPolicy.Json

def escapedChar (c : Char) : String :=
  if c = '"' then "\\\""
  else if c = '\\' then "\\\\"
  else if c = '\n' then "\\n"
  else if c = '\r' then "\\r"
  else if c = '\t' then "\\t"
  else if c.toNat = 8 then "\\b"
  else if c.toNat = 12 then "\\f"
  else if c.toNat < 0x10 then "\\u000" ++ Text.hexadecimal c.toNat
  else if c.toNat < 0x20 then "\\u00" ++ Text.hexadecimal c.toNat
  else String.singleton c

def escaped (text : String) : String :=
  "\"" ++ String.join (text.toList.map escapedChar) ++ "\""

def newLine (depth : Nat) : String :=
  "\n" ++ String.ofList (List.replicate (2 * depth) ' ')

mutual

def pretty (depth : Nat) : Json → String
  | .null => "null"
  | .bool value => if value then "true" else "false"
  | .int value => toString value
  | .decimal value => toString value.mantissa ++ "e" ++ toString value.exponent
  | .text value => escaped value
  | .list [] => "[]"
  | .list items => "[" ++ prettyItems (depth + 1) items ++ newLine depth ++ "]"
  | .object [] => "\x7b\x7d"
  | .object members => "\x7b" ++ prettyMembers (depth + 1) members ++ newLine depth ++ "\x7d"

def prettyItems (depth : Nat) : List Json → String
  | [] => ""
  | [item] => newLine depth ++ pretty depth item
  | item :: rest => newLine depth ++ pretty depth item ++ "," ++ prettyItems depth rest

def prettyMembers (depth : Nat) : List (String × Json) → String
  | [] => ""
  | [(name, value)] => newLine depth ++ escaped name ++ ": " ++ pretty depth value
  | (name, value) :: rest =>
    newLine depth ++ escaped name ++ ": " ++ pretty depth value ++ "," ++ prettyMembers depth rest

end

end CredentialPolicy.Json
