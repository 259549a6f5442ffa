namespace CredentialPolicy

structure Day where
  year : Int
  month : Nat
  day : Nat
deriving DecidableEq, Repr

namespace Day

def isLeap (year : Int) : Bool :=
  year % 4 = 0 && (year % 100 ≠ 0 || year % 400 = 0)

def monthLength (year : Int) (month : Nat) : Nat :=
  match month with
  | 2 => if isLeap year then 29 else 28
  | 4 | 6 | 9 | 11 => 30
  | _ => 31

def IsValid (d : Day) : Prop :=
  -262143 ≤ d.year ∧ d.year ≤ 262142 ∧ 1 ≤ d.month ∧ d.month ≤ 12 ∧ 1 ≤ d.day ∧
    d.day ≤ monthLength d.year d.month

instance (d : Day) : Decidable d.IsValid := by
  unfold IsValid
  infer_instance

def next (d : Day) : Day :=
  if d.day < monthLength d.year d.month then { d with day := d.day + 1 }
  else if d.month < 12 then ⟨d.year, d.month + 1, 1⟩
  else ⟨d.year + 1, 1, 1⟩

def previous (d : Day) : Day :=
  if 1 < d.day then { d with day := d.day - 1 }
  else if 1 < d.month then ⟨d.year, d.month - 1, monthLength d.year (d.month - 1)⟩
  else ⟨d.year - 1, 12, 31⟩

end Day

structure Reading where
  day : Day
  hour : Nat
  minute : Nat
  second : Nat
  nanosecond : Nat
deriving DecidableEq, Repr

namespace Reading

def IsValid (r : Reading) : Prop :=
  r.day.IsValid ∧ r.hour < 24 ∧ r.minute < 60 ∧ r.second ≤ 60 ∧ r.nanosecond < 1000000000

instance (r : Reading) : Decidable r.IsValid := by
  unfold IsValid
  infer_instance

/-- What a clock shows that is behind this one by less than a day. -/
def behind (r : Reading) (minutes : Int) : Reading :=
  let left := (60 * r.hour + r.minute : Int) - minutes
  let day := if left < 0 then r.day.previous else if 1440 ≤ left then r.day.next else r.day
  let inDay := (left % 1440).toNat
  { r with day, hour := inDay / 60, minute := inDay % 60 }

end Reading

structure Instant where
  utc : Reading
  valid : utc.IsValid
deriving DecidableEq, Repr

class DateFormat where
  read? : String → Option Instant
  render : Instant → String

class LawfulDateFormat [DateFormat] : Prop where
  read?_render (i : Instant) : DateFormat.read? (DateFormat.render i) = some i

end CredentialPolicy
