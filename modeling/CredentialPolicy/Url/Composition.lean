import CredentialPolicy.Text.Affix
import CredentialPolicy.Url.CompositionTable
import CredentialPolicy.Url.MarkTable

namespace CredentialPolicy.Url.Composition

def combiningClass (c : Char) : Nat :=
  match MarkTable.classes.find? fun (first, last, _) => first ≤ c.toNat && c.toNat ≤ last with
  | some (_, _, value) => value
  | none => 0

def syllableParts? (n : Nat) : Option (Nat × Nat) :=
  if 0xAC00 ≤ n ∧ n ≤ 0xD7A3 then
    let i := n - 0xAC00
    if i % 28 = 0 then some (0x1100 + i / 588, 0x1161 + i % 588 / 28)
    else some (n - i % 28, 0x11A7 + i % 28)
  else none

def syllable? (a b : Nat) : Option Nat :=
  if 0x1100 ≤ a ∧ a ≤ 0x1112 ∧ 0x1161 ≤ b ∧ b ≤ 0x1175 then
    some (0xAC00 + ((a - 0x1100) * 21 + (b - 0x1161)) * 28)
  else if 0xAC00 ≤ a ∧ a ≤ 0xD7A3 ∧ (a - 0xAC00) % 28 = 0 ∧ 0x11A8 ≤ b ∧ b ≤ 0x11C2 then
    some (a + (b - 0x11A7))
  else none

def parts? (c : Char) : Option (Char × Char) :=
  let parts := (CompositionTable.pairs.lookup c.toNat).or (syllableParts? c.toNat)
  parts.map fun (a, b) => (Char.ofNat a, Char.ofNat b)

def whole? (a b : Char) : Option Char :=
  let entry := CompositionTable.pairs.find? fun (_, parts) => parts = (a.toNat, b.toNat)
  ((entry.map (·.1)).or (syllable? a.toNat b.toNat)).map Char.ofNat

def apart (c : Char) : Nat → List Char
  | 0 => [c]
  | steps + 1 =>
    match parts? c with
    | some (a, b) => apart a steps ++ [b]
    | none => [c]

def decomposed (text : List Char) : List Char :=
  text.flatMap (apart · 3)

def insertOrdered (c : Char) : List Char → List Char
  | [] => [c]
  | d :: rest =>
    if 0 < combiningClass d ∧ combiningClass d < combiningClass c then
      d :: insertOrdered c rest
    else c :: d :: rest

def ordered (text : List Char) : List Char :=
  text.foldr insertOrdered []

/-- Composes a character with what follows it. `kept` holds the marks passed over, last first; a
mark gets past those of lower classes only. -/
def compose (base : Char) (kept : List Char) : List Char → List Char
  | [] => base :: kept.reverse
  | c :: rest =>
    let isNear := kept.head?.all (combiningClass · < combiningClass c)
    match if isNear then whole? base c else none with
    | some whole => compose whole kept rest
    | none =>
      if combiningClass c = 0 then base :: kept.reverse ++ compose c [] rest
      else compose base (c :: kept) rest

def composed (text : List Char) : List Char :=
  if Text.isAscii text then text
  else
    match ordered (decomposed text) with
    | [] => []
    | c :: rest => compose c [] rest

end CredentialPolicy.Url.Composition
