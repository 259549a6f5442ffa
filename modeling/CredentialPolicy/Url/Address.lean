import CredentialPolicy.Number

namespace CredentialPolicy.Url

def splitOn (separator : Char) : List Char → List (List Char)
  | [] => [[]]
  | c :: rest =>
    if c = separator then [] :: splitOn separator rest
    else
      match splitOn separator rest with
      | part :: parts => (c :: part) :: parts
      | [] => [[c]]

def ipv4Number? : List Char → Option Nat
  | [] => none
  | ['0', 'x'] => some 0
  | ['0', 'X'] => some 0
  | ['0'] => some 0
  | '0' :: 'x' :: digits => Number.ofDigits? 16 digits
  | '0' :: 'X' :: digits => Number.ofDigits? 16 digits
  | '0' :: digits => Number.ofDigits? 8 digits
  | digits => Number.ofDigits? 10 digits

def dropTrailingEmpty (parts : List (List Char)) : List (List Char) :=
  if parts.getLast? = some [] then parts.dropLast else parts

def endsInNumber (domain : List Char) : Bool :=
  match (dropTrailingEmpty (splitOn '.' domain)).getLast? with
  | none => false
  | some last => (!last.isEmpty && last.all Number.isDigit) || (ipv4Number? last).isSome

def isIpv4 (domain : List Char) : Bool :=
  let parts := dropTrailingEmpty (splitOn '.' domain)
  match parts.mapM ipv4Number? with
  | none => false
  | some numbers =>
    numbers.length ≤ 4 && numbers.dropLast.all (· < 256) &&
      numbers.getLast?.any (· < Nat.pow 256 (5 - numbers.length))

def isByte (digits : List Char) : Bool :=
  !digits.isEmpty && digits.all Number.isDigit && (digits.length = 1 || digits.head? ≠ some '0') &&
    Number.natural digits < 256

def isWord (digits : List Char) : Bool :=
  !digits.isEmpty && digits.length ≤ 4 && digits.all fun c => (Number.digitValue? c).isSome

def wordCount? (bytesAllowed : Bool) : List (List Char) → Option Nat
  | [] => some 0
  | [last] =>
    if isWord last then some 1
    else
      let bytes := splitOn '.' last
      if bytesAllowed && bytes.length = 4 && bytes.all isByte then some 2 else none
  | group :: rest =>
    if isWord group then (wordCount? bytesAllowed rest).map (· + 1) else none

def splitAtGap : List Char → Option (List Char × List Char)
  | ':' :: ':' :: rest => some ([], rest)
  | c :: rest => (splitAtGap rest).map fun (left, right) => (c :: left, right)
  | [] => none

def groups (text : List Char) : List (List Char) :=
  if text.isEmpty then [] else splitOn ':' text

def isIpv6 (text : List Char) : Bool :=
  match splitAtGap text with
  | none => (wordCount? true (groups text)) = some 8
  | some (left, right) =>
    match wordCount? false (groups left), wordCount? true (groups right) with
    | some m, some n => m + n ≤ 7
    | _, _ => false

end CredentialPolicy.Url
