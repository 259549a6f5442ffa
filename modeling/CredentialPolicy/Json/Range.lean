import CredentialPolicy.Number

/-!
The range of the numbers in a JSON text. The leading digits of a number, as many as a word of 64
bits holds, are multiplied by a power of ten, both in double precision; a number is too great if
the product is. Close to the limit that refuses some numbers that a double could hold.
-/

namespace CredentialPolicy.Json

open Number (Written)

def nearestDouble (n : Nat) : Nat :=
  let unit := Nat.pow 2 (n.log2 - 52)
  let quotient := n / unit
  let isUp := unit < 2 * (n % unit) || (unit = 2 * (n % unit) && quotient % 2 = 1)
  (if isUp then quotient + 1 else quotient) * unit

def appendDigits (n : Nat) : List Char → Nat × List Char
  | [] => (n, [])
  | c :: rest =>
    let next := 10 * n + Number.natural [c]
    if next < Nat.pow 2 64 then appendDigits next rest else (n, c :: rest)

def scaled (w : Written) : Nat × Int :=
  let fraction := w.fraction.getD []
  let (whole, left) := appendDigits 0 w.whole
  let (digits, rest) := appendDigits whole fraction
  (digits, w.exponent.getD 0 + left.length - (fraction.length - rest.length : Nat))

def isInRange (w : Written) : Bool :=
  let (digits, exponent) := scaled w
  if digits = 0 ∨ exponent < 0 then true
  else if 308 < exponent then false
  else nearestDouble digits * nearestDouble (Nat.pow 10 exponent.toNat) < Number.overflow

end CredentialPolicy.Json
