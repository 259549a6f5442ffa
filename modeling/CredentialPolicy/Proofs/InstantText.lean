import Mathlib.Algebra.Group.Nat.Defs
import CredentialPolicy.Instant.Text

namespace CredentialPolicy

namespace Number

theorem isDigit_eq (c : Char) : isDigit c = c.isDigit := by
  rw [isDigit, Char.isDigit, Bool.eq_iff_iff]
  simp [Char.le_def]

theorem isDigit_zero : isDigit '0' = true :=
  rfl

theorem digitValue?_of_isDigit {c : Char} (h : isDigit c = true) :
    digitValue? c = some (c.toNat - '0'.toNat) := by
  rw [digitValue?, if_pos h]

theorem toNat_of_isDigit {c : Char} (h : isDigit c = true) : 48 ≤ c.toNat ∧ c.toNat ≤ 57 := by
  simpa [isDigit, Char.le_def, UInt32.le_iff_toNat_le] using h

theorem ofDigitsFrom?_eq {digits : List Char} (h : ∀ c ∈ digits, isDigit c = true) (value : Nat) :
    ofDigitsFrom? 10 value digits = some (Nat.ofDigitChars 10 digits value) := by
  induction digits generalizing value with
  | nil => rfl
  | cons c rest ih =>
    obtain ⟨hc, hrest⟩ := List.forall_mem_cons.1 h
    rw [ofDigitsFrom?, digitValue?_of_isDigit hc, Nat.ofDigitChars_cons]
    have hlt : c.toNat - '0'.toNat < 10 := by
      have hbound := (toNat_of_isDigit hc).2
      have hzero : '0'.toNat = 48 := rfl
      omega
    simp only [if_pos hlt]
    exact ih hrest _

theorem natural_eq {digits : List Char} (h : ∀ c ∈ digits, isDigit c = true) :
    natural digits = Nat.ofDigitChars 10 digits 0 := by
  rw [natural, ofDigitsFrom?_eq h, Option.getD_some]

theorem not_isBlankChar_of_isDigit {c : Char} (h : isDigit c = true) :
    Text.isBlankChar c = false := by
  obtain ⟨hlow, hhigh⟩ := toNat_of_isDigit h
  simp only [Text.isBlankChar, Bool.or_eq_false_iff, Bool.and_eq_false_iff, decide_eq_false_iff_not]
  omega

end Number

namespace Instant

theorem toList_padded (width n : Nat) :
    (padded width n).toList =
      List.replicate (width - (Nat.toDigits 10 n).length) '0' ++ Nat.toDigits 10 n := by
  simp [padded, ← String.length_toList]

theorem isDigit_of_mem_padded {width n : Nat} : ∀ c ∈ (padded width n).toList,
    Number.isDigit c = true := by
  intro c hc
  rw [toList_padded, List.mem_append] at hc
  rcases hc with hc | hc
  · exact (List.eq_of_mem_replicate hc) ▸ Number.isDigit_zero
  · rw [Number.isDigit_eq]
    exact Nat.isDigit_of_mem_toDigits (by decide) (by decide) hc

theorem padded_ne_nil (width n : Nat) : (padded width n).toList ≠ [] := by
  simp [toList_padded]

theorem length_padded {width n : Nat} (hwidth : 0 < width) (h : n < 10 ^ width) :
    (padded width n).toList.length = width := by
  have hdigits := (Nat.length_toDigits_le_iff (by decide) hwidth).2 h
  rw [toList_padded, List.length_append, List.length_replicate]
  omega

theorem natural_padded (width n : Nat) : Number.natural (padded width n).toList = n := by
  rw [Number.natural_eq isDigit_of_mem_padded, toList_padded, Nat.ofDigitChars_append,
    Nat.ofDigitChars_replicate_zero, Nat.mul_zero, Nat.ofDigitChars_ten_toDigits]

theorem skipBlanks_digits {digits : List Char} (h : ∀ c ∈ digits, Number.isDigit c = true)
    (hne : digits ≠ []) (rest : List Char) : skipBlanks (digits ++ rest) = digits ++ rest := by
  obtain ⟨c, tail, rfl⟩ := List.exists_cons_of_ne_nil hne
  have hc := Number.not_isBlankChar_of_isDigit (List.forall_mem_cons.1 h).1
  rw [skipBlanks, List.cons_append, List.dropWhile_cons_of_neg (by simp [hc])]

theorem number?_digits {most : Nat} {digits rest : List Char}
    (h : ∀ c ∈ digits, Number.isDigit c = true) (hne : digits ≠ []) (hlength : digits.length ≤ most)
    (hstop : (rest.take (most - digits.length)).takeWhile Number.isDigit = []) :
    number? most (digits ++ rest) = some (Number.natural digits, rest) := by
  have htaken : ((digits ++ rest).take most).takeWhile Number.isDigit = digits := by
    rw [List.take_append, List.take_of_length_le hlength, List.takeWhile_append_of_pos h, hstop,
      List.append_nil]
  simp [number?, skipBlanks_digits h hne, htaken, hne]

theorem number?_padded {width n : Nat} (hwidth : 0 < width) (h : n < 10 ^ width)
    (rest : List Char) : number? width ((padded width n).toList ++ rest) = some (n, rest) := by
  have hlength := length_padded hwidth h
  rw [number?_digits isDigit_of_mem_padded (padded_ne_nil width n) (Nat.le_of_eq hlength)
    (by simp [hlength]), natural_padded]

theorem separator?_dash (rest : List Char) : separator? '-' ('-' :: rest) = some rest :=
  rfl

theorem separator?_colon (rest : List Char) : separator? ':' (':' :: rest) = some rest :=
  rfl

theorem number?_signed (n : Nat) (rest : List Char) :
    number? ((padded 4 n).toList ++ '-' :: rest).length ((padded 4 n).toList ++ '-' :: rest) =
      some (n, '-' :: rest) := by
  have hstop (k : Nat) : (('-' :: rest).take k).takeWhile Number.isDigit = [] := by
    cases k <;> rfl
  rw [number?_digits isDigit_of_mem_padded (padded_ne_nil 4 n) (by simp) (hstop _), natural_padded]

theorem exists_padded_eq_cons (width n : Nat) :
    ∃ c tail, (padded width n).toList = c :: tail ∧ Number.isDigit c = true := by
  obtain ⟨c, tail, hlist⟩ := List.exists_cons_of_ne_nil (padded_ne_nil width n)
  exact ⟨c, tail, hlist, isDigit_of_mem_padded c (hlist ▸ List.mem_cons_self)⟩

theorem year?_minus {c : Char} (hc : Number.isDigit c = true) (tail : List Char) :
    year? ('-' :: c :: tail) =
      (number? (c :: tail).length (c :: tail)).map fun r => (-(r.1 : Int), r.2) := by
  have hsign : skipBlanks ('-' :: c :: tail) = '-' :: c :: tail := rfl
  simp [year?, hsign, hc]

theorem year?_plus {c : Char} (hc : Number.isDigit c = true) (tail : List Char) :
    year? ('+' :: c :: tail) =
      (number? (c :: tail).length (c :: tail)).map fun r => ((r.1 : Int), r.2) := by
  have hsign : skipBlanks ('+' :: c :: tail) = '+' :: c :: tail := rfl
  simp [year?, hsign, hc]

theorem year?_unsigned {c : Char} (hc : Number.isDigit c = true) (tail : List Char) :
    year? (c :: tail) = (number? 4 (c :: tail)).map fun r => ((r.1 : Int), r.2) := by
  have hdigit : skipBlanks (c :: tail) = c :: tail := by
    rw [skipBlanks, List.dropWhile_cons_of_neg (by simp [Number.not_isBlankChar_of_isDigit hc])]
  rw [year?, hdigit]
  split
  · next h => cases h; cases hc
  · next h => cases h; cases hc
  · rfl

theorem year?_yearText (year : Int) (rest : List Char) :
    year? ((yearText year).toList ++ '-' :: rest) = some (year, '-' :: rest) := by
  obtain ⟨c, tail, hlist, hc⟩ := exists_padded_eq_cons 4 year.natAbs
  have hsigned := number?_signed year.natAbs rest
  rw [hlist, List.cons_append] at hsigned
  unfold yearText
  split
  · next hneg =>
    have hyear : -(year.natAbs : Int) = year := by omega
    rw [String.toList_append, hlist]
    change year? ('-' :: c :: (tail ++ '-' :: rest)) = _
    rw [year?_minus hc, hsigned, Option.map_some, hyear]
  · next hnonneg =>
    have hyear : (year.natAbs : Int) = year := by omega
    split
    · next hfour =>
      have hread := number?_padded (by decide) (show year.natAbs < 10 ^ 4 by omega) ('-' :: rest)
      rw [hlist, List.cons_append] at hread ⊢
      rw [year?_unsigned hc, hread, Option.map_some, hyear]
    · rw [String.toList_append, hlist]
      change year? ('+' :: c :: (tail ++ '-' :: rest)) = _
      rw [year?_plus hc, hsigned, Option.map_some, hyear]

theorem day?_text {day : Day} (h : day.IsValid) (rest : List Char) :
    day? ((yearText day.year).toList ++ '-' :: ((padded 2 day.month).toList ++ '-' ::
      ((padded 2 day.day).toList ++ rest))) = some (day, rest) := by
  obtain ⟨-, -, -, hmonth, -, hday⟩ := h
  have hlength : day.day < 10 ^ 2 := by
    refine Nat.lt_of_le_of_lt hday ?_
    unfold Day.monthLength
    split
    · split <;> decide
    all_goals decide
  have hmonths : day.month < 10 ^ 2 := Nat.lt_of_le_of_lt hmonth (by decide)
  have htwo : 0 < 2 := by decide
  simp [day?, year?_yearText, separator?_dash, number?_padded htwo hmonths,
    number?_padded htwo hlength]

theorem fraction?_padded {width n : Nat} (hwidth : 0 < width) (hnine : width ≤ 9)
    (h : n < 10 ^ width) (rest : List Char) :
    fraction? ('.' :: ((padded width n).toList ++ 'Z' :: rest)) =
      some (n * 10 ^ (9 - width), 'Z' :: rest) := by
  have hlength := length_padded hwidth h
  have hdigits : ((padded width n).toList ++ 'Z' :: rest).takeWhile Number.isDigit =
      (padded width n).toList := by
    rw [List.takeWhile_append_of_pos isDigit_of_mem_padded]
    simp [Number.isDigit]
  have htaken : ((padded width n).toList ++ List.replicate 9 '0').take 9 =
      (padded width n).toList ++ List.replicate (9 - width) '0' := by
    rw [List.take_append, List.take_of_length_le (Nat.le_trans (Nat.le_of_eq hlength) hnine),
      List.take_replicate, hlength, Nat.min_eq_left (Nat.sub_le 9 width)]
  have hall : ∀ c ∈ (padded width n).toList ++ List.replicate (9 - width) '0',
      Number.isDigit c = true := by
    intro c hc
    rcases List.mem_append.1 hc with hc | hc
    · exact isDigit_of_mem_padded c hc
    · exact (List.eq_of_mem_replicate hc) ▸ Number.isDigit_zero
  have hvalue : Number.natural ((padded width n).toList ++ List.replicate (9 - width) '0') =
      n * 10 ^ (9 - width) := by
    rw [Number.natural_eq hall, Nat.ofDigitChars_append, Nat.ofDigitChars_replicate_zero,
      ← Number.natural_eq isDigit_of_mem_padded, natural_padded, Nat.mul_comm]
  have hne : (padded width n).toList.isEmpty = false :=
    List.isEmpty_eq_false_iff.2 (padded_ne_nil width n)
  simp only [fraction?, hdigits, hne, htaken, hvalue, List.drop_left, Bool.false_eq_true, if_false]

theorem fraction?_fractionText {nanosecond : Nat} (h : nanosecond < 1000000000) (rest : List Char) :
    fraction? ((fractionText nanosecond).toList ++ 'Z' :: rest) =
      some (nanosecond, 'Z' :: rest) := by
  have hpoint (width n : Nat) : ("." ++ padded width n).toList ++ 'Z' :: rest =
      '.' :: ((padded width n).toList ++ 'Z' :: rest) := by
    rw [String.toList_append]
    rfl
  unfold fractionText
  split
  · next hzero => simp [fraction?, hzero]
  · split
    · next hmilli =>
      have hvalue : nanosecond / 1000000 * 10 ^ (9 - 3) = nanosecond := by omega
      rw [hpoint, fraction?_padded (by decide) (by decide) (by omega), hvalue]
    · split
      · next hmicro =>
        have hvalue : nanosecond / 1000 * 10 ^ (9 - 6) = nanosecond := by omega
        rw [hpoint, fraction?_padded (by decide) (by decide) (by omega), hvalue]
      · have hvalue : nanosecond * 10 ^ (9 - 9) = nanosecond := by omega
        rw [hpoint, fraction?_padded (by decide) (by decide) (by omega), hvalue]

theorem timeOfDay?_text {hour minute second nanosecond : Nat} (hhour : hour < 24)
    (hminute : minute < 60) (hsecond : second ≤ 60) (hnano : nanosecond < 1000000000)
    (rest : List Char) :
    timeOfDay? ((padded 2 hour).toList ++ ':' :: ((padded 2 minute).toList ++ ':' ::
      ((padded 2 second).toList ++ ((fractionText nanosecond).toList ++ 'Z' :: rest)))) =
      some ((hour, minute, second, nanosecond), 'Z' :: rest) := by
  have htwo : 0 < 2 := by decide
  simp [timeOfDay?, separator?_colon, number?_padded htwo (show hour < 10 ^ 2 by omega),
    number?_padded htwo (show minute < 10 ^ 2 by omega),
    number?_padded htwo (show second < 10 ^ 2 by omega), fraction?_fractionText hnano]

theorem behind_zero {r : Reading} (h : r.IsValid) : r.behind 0 = r := by
  obtain ⟨day, hour, minute, second, nanosecond⟩ := r
  obtain ⟨-, hhour, hminute, -, -⟩ := h
  simp only at hhour hminute
  have hleft : ¬(60 * (hour : Int) + minute - 0 < 0) := by omega
  have hright : ¬(1440 ≤ 60 * (hour : Int) + minute - 0) := by omega
  have hinDay : ((60 * (hour : Int) + minute - 0) % 1440).toNat = 60 * hour + minute := by omega
  have hhours : (60 * hour + minute) / 60 = hour := by omega
  have hminutes : (60 * hour + minute) % 60 = minute := by omega
  simp only [Reading.behind, if_neg hleft, if_neg hright, hinDay, hhours, hminutes]

theorem ofReading?_zero (i : Instant) : ofReading? i.utc 0 = some i := by
  have hbehind := behind_zero i.valid
  have h : i.utc.IsValid ∧ (i.utc.behind 0).IsValid ∧ (0 : Int).natAbs < 1440 :=
    ⟨i.valid, hbehind.symm ▸ i.valid, by decide⟩
  rw [ofReading?, dif_pos h]
  simp only [hbehind]

theorem toList_renderReading (r : Reading) :
    (renderReading r).toList =
      (yearText r.day.year).toList ++ '-' :: ((padded 2 r.day.month).toList ++ '-' ::
        ((padded 2 r.day.day).toList ++ 'T' :: ((padded 2 r.hour).toList ++ ':' ::
          ((padded 2 r.minute).toList ++ ':' :: ((padded 2 r.second).toList ++
            ((fractionText r.nanosecond).toList ++ ['Z'])))))) := by
  simp [renderReading]

theorem parse?_render (i : Instant) : parse? i.render = some i := by
  obtain ⟨hday, hhour, hminute, hsecond, hnano⟩ := i.valid
  have hT (rest : List Char) : passDayEnd? ('T' :: rest) = some rest := rfl
  have hZ : offset? ['Z'] = some (0, []) := rfl
  have hend : (skipBlanks []).isEmpty = true := rfl
  rw [parse?, render, toList_renderReading, day?_text hday]
  simp only [Option.bind_eq_bind, Option.bind_some, hT]
  rw [timeOfDay?_text hhour hminute hsecond hnano]
  simp only [Option.bind_some, hZ, hend, if_true]
  exact ofReading?_zero i

end Instant

instance : LawfulDateFormat :=
  ⟨Instant.parse?_render⟩

end CredentialPolicy
