import CredentialPolicy.Json

namespace CredentialPolicy.Number

def isDigit (c : Char) : Bool :=
  '0' ≤ c && c ≤ '9'

def digitValue? (c : Char) : Option Nat :=
  if isDigit c then some (c.toNat - '0'.toNat)
  else if 'a' ≤ c ∧ c ≤ 'f' then some (c.toNat - 'a'.toNat + 10)
  else if 'A' ≤ c ∧ c ≤ 'F' then some (c.toNat - 'A'.toNat + 10)
  else none

def ofDigitsFrom? (base value : Nat) : List Char → Option Nat
  | [] => some value
  | c :: rest =>
    match digitValue? c with
    | some d => if d < base then ofDigitsFrom? base (base * value + d) rest else none
    | none => none

def ofDigits? (base : Nat) (digits : List Char) : Option Nat :=
  if digits.isEmpty then none else ofDigitsFrom? base 0 digits

def natural (digits : List Char) : Nat :=
  (ofDigitsFrom? 10 0 digits).getD 0

def signed (negative : Bool) (n : Nat) : Int :=
  if negative then -n else n

/-- The greatest double precision number and half a unit in its last place: from here on a number
rounds to infinity. -/
def overflow : Nat :=
  Nat.pow 2 1024 - Nat.pow 2 970

def fitsDouble (d : Decimal) : Bool :=
  let mantissa := d.mantissa.natAbs
  let exponent := d.exponent
  let digits := (Nat.toDigits 10 mantissa).length
  if mantissa = 0 ∨ digits + exponent < 300 then true
  else if digits + exponent > 310 then false
  else if 0 ≤ exponent then mantissa * Nat.pow 10 exponent.toNat < overflow
  else mantissa < overflow * Nat.pow 10 (-exponent).toNat

def decimalOf (negative : Bool) (whole fraction : List Char) (exponent : Int) : Decimal :=
  let digits := (whole ++ fraction).reverse
  let kept := digits.dropWhile (· = '0')
  let mantissa := natural kept.reverse
  if mantissa = 0 then ⟨0, 0⟩
  else ⟨signed negative mantissa, exponent - fraction.length + (digits.length - kept.length)⟩

structure Written where
  negative : Bool
  whole : List Char
  fraction : Option (List Char)
  exponent : Option Int

def exponentOf? : List Char → Option (Option Int)
  | [] => some none
  | e :: rest =>
    if e = 'e' ∨ e = 'E' then
      let (negative, digits) := match rest with
        | '-' :: digits => (true, digits)
        | '+' :: digits => (false, digits)
        | digits => (false, digits)
      if digits.isEmpty ∨ !digits.all isDigit then none
      else some (some (signed negative (natural digits)))
    else none

def split? (negative : Bool) (text : List Char) : Option Written :=
  let whole := text.takeWhile isDigit
  match text.dropWhile isDigit with
  | '.' :: rest =>
    (exponentOf? (rest.dropWhile isDigit)).map fun exponent =>
      ⟨negative, whole, some (rest.takeWhile isDigit), exponent⟩
  | rest => (exponentOf? rest).map fun exponent => ⟨negative, whole, none, exponent⟩

def Written.decimal (w : Written) : Decimal :=
  decimalOf w.negative w.whole (w.fraction.getD []) (w.exponent.getD 0)

end CredentialPolicy.Number
