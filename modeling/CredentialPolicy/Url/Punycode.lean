namespace CredentialPolicy.Url.Punycode

def digit? (c : Char) : Option Nat :=
  if 'a' ≤ c ∧ c ≤ 'z' then some (c.toNat - 'a'.toNat)
  else if 'A' ≤ c ∧ c ≤ 'Z' then some (c.toNat - 'A'.toNat)
  else if '0' ≤ c ∧ c ≤ '9' then some (c.toNat - '0'.toNat + 26)
  else none

def threshold (position bias : Nat) : Nat :=
  min 26 (max 1 (position - bias))

def reduce (delta : Nat) : Nat × Nat :=
  if 455 < delta then
    let (rest, steps) := reduce (delta / 35)
    (rest, steps + 36)
  else (delta, 0)
termination_by delta
decreasing_by exact Nat.div_lt_self (by omega) (by omega)

def adapt (delta count : Nat) (first : Bool) : Nat :=
  let delta := if first then delta / 700 else delta / 2
  let (rest, steps) := reduce (delta + delta / count)
  steps + 36 * rest / (rest + 38)

structure Delta where
  value : Nat
  weight : Nat
  position : Nat

structure Decoding where
  label : List Char
  codePoint : Nat
  index : Nat
  bias : Nat

def Decoding.isFirst (d : Decoding) : Bool :=
  d.index = 0

def Decoding.insert? (d : Decoding) (delta : Nat) : Option Decoding :=
  let total := d.index + delta
  let count := d.label.length + 1
  let codePoint := d.codePoint + total / count
  let index := total % count
  if codePoint < 0xD800 ∨ (0xE000 ≤ codePoint ∧ codePoint ≤ 0x10FFFF) then
    some
      { label := d.label.take index ++ Char.ofNat codePoint :: d.label.drop index
        codePoint
        index := index + 1
        bias := adapt delta count d.isFirst }
  else none

def decodeFrom (d : Decoding) (delta : Delta) : List Char → Option (List Char)
  | [] => if delta.position = 36 then some d.label else none
  | c :: rest =>
    match digit? c with
    | none => none
    | some digit =>
      let value := delta.value + digit * delta.weight
      let t := threshold delta.position d.bias
      let weight := delta.weight * (36 - t)
      if Nat.pow 2 32 ≤ value then none
      else if digit < t then
        match d.insert? value with
        | some d => decodeFrom d ⟨0, 1, 36⟩ rest
        | none => none
      else if Nat.pow 2 32 ≤ weight then none
      else decodeFrom d ⟨value, weight, delta.position + 36⟩ rest

/-- What stands before the last hyphen is taken as it is, the rest says where which characters
come in. A hyphen that nothing stands before is no digit. -/
def decode? (text : List Char) : Option (List Char) :=
  let digits := (text.reverse.takeWhile (· ≠ '-')).reverse
  let plain := text.take (text.length - digits.length - 1)
  if plain.isEmpty ∧ text.contains '-' then none
  else decodeFrom ⟨plain, 128, 0, 72⟩ ⟨0, 1, 36⟩ digits

end CredentialPolicy.Url.Punycode
