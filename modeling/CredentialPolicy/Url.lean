import CredentialPolicy.Configuration
import CredentialPolicy.Url.Domain

/-!
Absolute URLs. Only whether a text is one matters here, and what is wrong if it is not. Paths,
queries and fragments hold anything, so all faults are in the scheme, the host and the port.
-/

namespace CredentialPolicy

inductive UrlError
  | relativeWithoutBase
  | emptyHost
  | invalidPort
  | invalidIpv4
  | invalidIpv6
  | invalidDomainCharacter
  | invalidDomainName
deriving DecidableEq, Repr

def UrlError.message : UrlError → String
  | .relativeWithoutBase => "relative URL without a base"
  | .emptyHost => "empty host"
  | .invalidPort => "invalid port number"
  | .invalidIpv4 => "invalid IPv4 address"
  | .invalidIpv6 => "invalid IPv6 address"
  | .invalidDomainCharacter => "invalid domain character"
  | .invalidDomainName => "invalid international domain name"

namespace Url

inductive SchemeKind
  | file
  | special
  | other
deriving DecidableEq, Repr

def schemeKind (scheme : String) : SchemeKind :=
  if scheme = "file" then .file
  else if ["http", "https", "ws", "wss", "ftp"].contains scheme then .special
  else .other

def isLetter (c : Char) : Bool :=
  ('a' ≤ c && c ≤ 'z') || ('A' ≤ c && c ≤ 'Z')

def isSchemeChar (c : Char) : Bool :=
  isLetter c || Number.isDigit c || c = '+' || c = '-' || c = '.'

def relevantChars (text : String) : List Char :=
  let isEdge (c : Char) : Bool := c.toNat ≤ 0x20
  let trimmed := ((text.toList.dropWhile isEdge).reverse.dropWhile isEdge).reverse
  trimmed.filter fun c => c ≠ '\t' && c ≠ '\n' && c ≠ '\r'

def scheme? (text : List Char) : Option (String × List Char) :=
  match text.dropWhile isSchemeChar with
  | ':' :: rest =>
    if text.head?.any isLetter then
      some (String.ofList ((text.takeWhile isSchemeChar).map Text.lowerAscii), rest)
    else none
  | _ => none

def isSlash (special : Bool) (c : Char) : Bool :=
  c = '/' || (special && c = '\\')

def endsAuthority (special : Bool) (c : Char) : Bool :=
  isSlash special c || c = '?' || c = '#'

structure Authority where
  user : Option (List Char)
  rest : List Char

def authority (text : List Char) : Authority :=
  let host := (text.reverse.takeWhile (· ≠ '@')).reverse
  if host.length = text.length then ⟨none, text⟩
  else ⟨some (text.take (text.length - host.length - 1)), host⟩

def hostLength (inBrackets : Bool) : List Char → Nat
  | [] => 0
  | c :: rest =>
    if c = ':' ∧ !inBrackets then 0
    else hostLength (if c = '[' then true else if c = ']' then false else inBrackets) rest + 1

def checkBrackets (host : List Char) : Except UrlError Unit :=
  if host.getLast? = some ']' ∧ isIpv6 (host.drop 1).dropLast then .ok ()
  else .error .invalidIpv6

def checkDomain (host : List Char) : Except UrlError Unit :=
  if host.head? = some '[' then checkBrackets host
  else
    match domain? host with
    | none => .error .invalidDomainName
    | some domain =>
      if domain.isEmpty then .error .emptyHost
      else if endsInNumber domain && !isIpv4 domain then .error .invalidIpv4
      else .ok ()

def isForbiddenInHost (c : Char) : Bool :=
  c.toNat = 0 || " #/:<>?@[\\]^|".toList.contains c

def checkOpaqueHost (host : List Char) : Except UrlError Unit :=
  if host.head? = some '[' then checkBrackets host
  else if host.any isForbiddenInHost then .error .invalidDomainCharacter
  else .ok ()

def checkPort (digits : List Char) : Except UrlError Unit :=
  if digits.all Number.isDigit ∧ Number.natural digits < 65536 then .ok ()
  else .error .invalidPort

def checkAuthority (special : Bool) (text : List Char) : Except UrlError Unit := do
  let auth := authority (text.takeWhile (!endsAuthority special ·))
  let size := hostLength false auth.rest
  let host := auth.rest.take size
  let port := auth.rest.drop size
  let endsText := (text.takeWhile (!endsAuthority special ·)).length = text.length
  if auth.user = some [] ∧ auth.rest.isEmpty ∧ !endsText then throw .emptyHost
  if special then
    if host.isEmpty then throw .emptyHost
    checkDomain host
  else
    checkOpaqueHost host
    if host.isEmpty ∧ !port.isEmpty then throw .emptyHost
  checkPort ((port.drop 1).takeWhile (· ≠ '\\'))
  if !special ∧ host.isEmpty ∧ auth.user.any fun user => user ≠ [] ∧ user ≠ [':'] then
    throw .emptyHost

def isDriveLetter : List Char → Bool
  | [letter, mark] => isLetter letter && (mark = ':' || mark = '|')
  | _ => false

def checkFile (text : List Char) : Except UrlError Unit :=
  match text with
  | a :: b :: rest =>
    let host := rest.takeWhile (!endsAuthority true ·)
    if isSlash true a ∧ isSlash true b ∧ host ≠ [] ∧ !isDriveLetter host then checkDomain host
    else .ok ()
  | _ => .ok ()

def check (text : String) : Except UrlError Unit :=
  match scheme? (relevantChars text) with
  | none => .error .relativeWithoutBase
  | some (scheme, rest) =>
    match schemeKind scheme with
    | .file => checkFile rest
    | .special => checkAuthority true (rest.dropWhile (isSlash true))
    | .other =>
      match rest with
      | '/' :: '/' :: rest => checkAuthority false rest
      | _ => .ok ()

end Url

instance : UrlParser where
  fault? text :=
    match Url.check text with
    | .ok _ => none
    | .error fault => some fault.message

theorem Configuration.check_default : Configuration.check {} = .ok () :=
  check_eq_ok (by decide +kernel)

end CredentialPolicy
