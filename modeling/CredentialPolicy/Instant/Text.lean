import CredentialPolicy.Instant
import CredentialPolicy.Number
import CredentialPolicy.Text.Affix
import CredentialPolicy.Text.Blank

namespace CredentialPolicy

namespace Instant

def padded (width n : Nat) : String :=
  let digits := toString n
  String.ofList (List.replicate (width - digits.length) '0') ++ digits

def yearText (year : Int) : String :=
  if year < 0 then "-" ++ padded 4 year.natAbs
  else if year ≤ 9999 then padded 4 year.natAbs
  else "+" ++ padded 4 year.natAbs

def fractionText (nanosecond : Nat) : String :=
  if nanosecond = 0 then ""
  else if nanosecond % 1000000 = 0 then "." ++ padded 3 (nanosecond / 1000000)
  else if nanosecond % 1000 = 0 then "." ++ padded 6 (nanosecond / 1000)
  else "." ++ padded 9 nanosecond

def renderReading (r : Reading) : String :=
  yearText r.day.year ++ "-" ++ padded 2 r.day.month ++ "-" ++ padded 2 r.day.day ++ "T" ++
    padded 2 r.hour ++ ":" ++ padded 2 r.minute ++ ":" ++ padded 2 r.second ++
    fractionText r.nanosecond ++ "Z"

def render (i : Instant) : String :=
  renderReading i.utc

abbrev Reader (α : Type) := List Char → Option (α × List Char)

def skipBlanks (text : List Char) : List Char :=
  text.dropWhile Text.isBlankChar

def number? (most : Nat) : Reader Nat := fun text =>
  let text := skipBlanks text
  let digits := (text.take most).takeWhile Number.isDigit
  if digits.isEmpty then none else some (Number.natural digits, text.drop digits.length)

def separator? (c : Char) (text : List Char) : Option (List Char) :=
  match skipBlanks text with
  | d :: rest => if d = c then some rest else none
  | [] => none

def year? : Reader Int := fun text =>
  match skipBlanks text with
  | '-' :: rest =>
    if rest.head?.any Number.isDigit then
      (number? rest.length rest).map fun (n, rest) => (-(n : Int), rest)
    else none
  | '+' :: rest =>
    if rest.head?.any Number.isDigit then
      (number? rest.length rest).map fun (n, rest) => ((n : Int), rest)
    else none
  | text => (number? 4 text).map fun (n, rest) => ((n : Int), rest)

def day? : Reader Day := fun text => do
  let (year, text) ← year? text
  let text ← separator? '-' text
  let (month, text) ← number? 2 text
  let text ← separator? '-' text
  let (day, text) ← number? 2 text
  return (⟨year, month, day⟩, text)

def fraction? : Reader Nat
  | '.' :: text =>
    let digits := text.takeWhile Number.isDigit
    let nine := (digits ++ List.replicate 9 '0').take 9
    if digits.isEmpty then none else some (Number.natural nine, text.drop digits.length)
  | text => some (0, text)

def offset? : Reader Int := fun text =>
  match skipBlanks text with
  | c :: rest =>
    if c = 'Z' ∨ c = 'z' then some (0, rest)
    else if ((c :: rest).take 3).map Text.lowerAscii = ['u', 't', 'c'] then some (0, rest.drop 2)
    else if c = '+' ∨ c = '-' ∨ c = '−' then
      match rest with
      | h :: h' :: rest =>
        match rest.dropWhile (fun c => c = ':' || Text.isBlankChar c) with
        | m :: m' :: rest =>
          if [h, h', m, m'].all Number.isDigit ∧ m ≤ '5' then
            let minutes := 60 * Number.natural [h, h'] + Number.natural [m, m']
            some (Number.signed (c ≠ '+') minutes, rest)
          else none
        | _ => none
      | _ => none
    else none
  | [] => none

def timeOfDay? : Reader (Nat × Nat × Nat × Nat) := fun text => do
  let (hour, text) ← number? 2 text
  let text ← separator? ':' text
  let (minute, text) ← number? 2 text
  let text ← separator? ':' text
  let (second, text) ← number? 2 text
  let (nanosecond, text) ← fraction? text
  return ((hour, minute, second, nanosecond), text)

def passDayEnd? : List Char → Option (List Char)
  | c :: rest => if c = 'T' ∨ c = 't' ∨ c = ' ' then some rest else none
  | [] => none

def ofReading? (r : Reading) (ahead : Int) : Option Instant :=
  if h : r.IsValid ∧ (r.behind ahead).IsValid ∧ ahead.natAbs < 1440 then
    some ⟨r.behind ahead, h.2.1⟩
  else none

def parse? (text : String) : Option Instant := do
  let (day, text) ← day? text.toList
  let text ← passDayEnd? text
  let ((hour, minute, second, nanosecond), text) ← timeOfDay? text
  let (ahead, text) ← offset? text
  if (skipBlanks text).isEmpty then ofReading? ⟨day, hour, minute, second, nanosecond⟩ ahead
  else none

end Instant

instance : DateFormat :=
  ⟨Instant.parse?, Instant.render⟩

end CredentialPolicy
