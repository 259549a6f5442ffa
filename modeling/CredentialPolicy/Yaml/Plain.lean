import CredentialPolicy.Node

namespace CredentialPolicy.Yaml

def isNull (text : String) : Bool :=
  ["", "null", "Null", "NULL", "~"].contains text

def bool? (text : String) : Option Bool :=
  if ["true", "True", "TRUE"].contains text then some true
  else if ["false", "False", "FALSE"].contains text then some false
  else none

def hasLeadingZero (text : List Char) : Bool :=
  let digits := match text with
    | '+' :: rest => rest
    | '-' :: rest => rest
    | rest => rest
  match digits with
  | '0' :: rest => !rest.isEmpty && rest.all Number.isDigit
  | _ => false

def magnitude? : List Char → Option Nat
  | '0' :: 'x' :: rest => Number.ofDigits? 16 rest
  | '0' :: 'o' :: rest => Number.ofDigits? 8 rest
  | '0' :: 'b' :: rest => Number.ofDigits? 2 rest
  | digits => if hasLeadingZero digits then none else Number.ofDigits? 10 digits

def int? : List Char → Option Int
  | '+' :: rest => (magnitude? rest).map Int.ofNat
  | '-' :: rest => (magnitude? rest).map fun n => -n
  | rest => (magnitude? rest).map Int.ofNat

def fitsWord (bits : Nat) (n : Int) : Bool :=
  if n < 0 then n.natAbs ≤ Nat.pow 2 (bits - 1) else n.natAbs < Nat.pow 2 bits

/-- An integer of more than 64 bits has no value; one of more than 128 is not read as one. -/
def intLeaf? (n : Int) : Option Leaf :=
  if fitsWord 64 n then some (.int n)
  else if fitsWord 128 n then some .valueless
  else none

def decimal? (text : List Char) : Option Decimal :=
  if hasLeadingZero text then none
  else
    let (negative, digits) := match text with
      | '+' :: rest => (false, rest)
      | '-' :: rest => (true, rest)
      | rest => (false, rest)
    match Number.split? negative digits with
    | none => none
    | some w =>
      if w.whole.isEmpty ∧ (w.fraction.getD []).isEmpty then none
      else if Number.fitsDouble w.decimal then some w.decimal
      else none

/-- Infinities and the undefined number have no JSON form and are kept as null. -/
def isNonFinite (text : String) : Bool :=
  [".inf", ".Inf", ".INF", "+.inf", "+.Inf", "+.INF", "-.inf", "-.Inf", "-.INF", ".nan", ".NaN",
    ".NAN"].contains text

def resolvePlain (text : String) : Leaf :=
  if isNull text || isNonFinite text then .null
  else
    match bool? text, (int? text.toList).bind intLeaf?, decimal? text.toList with
    | some b, _, _ => .bool b
    | none, some leaf, _ => leaf
    | none, none, some d => .decimal d
    | none, none, none => .text text

end CredentialPolicy.Yaml
