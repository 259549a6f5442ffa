import Mathlib.Data.List.Infix
import CredentialPolicy.Operator
import CredentialPolicy.Text.Blank

namespace CredentialPolicy

namespace Text

theorem isAlpha_iff (c : Char) :
    c.isAlpha = true ↔ 65 ≤ c.toNat ∧ c.toNat ≤ 90 ∨ 97 ≤ c.toNat ∧ c.toNat ≤ 122 := by
  have hletter : c.isAlpha = (decide (c.val ≥ 65 ∧ c.val ≤ 90) || (c.val ≥ 97 && c.val ≤ 122)) :=
    rfl
  rw [hletter, Bool.or_eq_true, Bool.and_eq_true, decide_eq_true_eq, decide_eq_true_eq,
    decide_eq_true_eq]
  simp only [ge_iff_le, UInt32.le_iff_toNat_le]
  rfl

theorem isAlpha_of_lowerAscii {c : Char} (h : (lowerAscii c).isAlpha = true) :
    c.isAlpha = true := by
  unfold lowerAscii at h
  split at h
  · next hcapital => exact (isAlpha_iff c).2 (.inl hcapital)
  · exact h

theorem not_isBlankChar_of_isAlpha {c : Char} (h : c.isAlpha = true) : isBlankChar c = false := by
  rw [isAlpha_iff] at h
  simp only [isBlankChar, Bool.or_eq_false_iff, Bool.and_eq_false_iff, decide_eq_false_iff_not]
  omega

theorem exists_eq_append_of_isAlpha {start name part rest : String}
    (h : start ++ name = part ++ rest) (hname : ∀ c ∈ name.toList, c.isAlpha = true)
    (hpart : ∃ c ∈ part.toList.getLast?, c.isAlpha = false) : ∃ tail, start = part ++ tail := by
  have hlist : start.toList ++ name.toList = part.toList ++ rest.toList := by
    rw [← String.toList_append, ← String.toList_append, h]
  rcases List.append_eq_append_iff.1 hlist with ⟨middle, hmiddle, hlast⟩ | ⟨tail, htail, -⟩
  · obtain ⟨c, hc, hletter⟩ := hpart
    cases middle with
    | nil => exact ⟨"", String.toList_inj.1 (by simpa using hmiddle.symm)⟩
    | cons d middle =>
      -- then the part would end within the name
      rw [hmiddle, List.getLast?_append_cons] at hc
      have hmem : c ∈ name.toList := by
        rw [hlast]
        exact List.mem_append_left _ (List.mem_of_getLast? hc)
      rw [hname c hmem] at hletter
      cases hletter
  · exact ⟨String.ofList tail, String.toList_inj.1 (by simpa using htail)⟩

end Text

namespace Operator

def starts : List String :=
  ["", "odrl:", Vocabulary.odrlNamespace]

theorem mem_starts_iff {start : String} :
    start ∈ starts ↔ start = "" ∨ start = "odrl:" ∨ start = Vocabulary.odrlNamespace := by
  simp [starts]

structure IsSpelling (start : String) (op : Operator) (value : String) : Prop where
  isStart : start ∈ starts
  exists_name : ∃ name, value = start ++ name ∧ Text.sameIgnoringAsciiCase name op.name = true

theorem mem_all (op : Operator) : op ∈ all := by
  cases op <;> decide

theorem eq_of_name {op other : Operator}
    (h : Text.sameIgnoringAsciiCase op.name other.name = true) : op = other := by
  revert h
  cases op <;> cases other <;> decide

theorem isAlpha_of_mem_name {name : String} {op : Operator}
    (h : Text.sameIgnoringAsciiCase name op.name = true) : ∀ c ∈ name.toList, c.isAlpha = true := by
  intro c hc
  have hletters : op.name.toList.all (fun d => (Text.lowerAscii d).isAlpha) = true := by
    cases op <;> decide
  have hlower : Text.lowerAscii c ∈ op.name.toList.map Text.lowerAscii := by
    rw [← (Text.sameIgnoringAsciiCase_iff _ _).1 h]
    exact List.mem_map_of_mem hc
  obtain ⟨d, hd, heq⟩ := List.mem_map.1 hlower
  apply Text.isAlpha_of_lowerAscii
  rw [← heq]
  exact List.all_eq_true.1 hletters d hd

theorem exists_last_of_isStart {start : String} (h : start ∈ starts) (hne : start ≠ "") :
    ∃ c ∈ start.toList.getLast?, c.isAlpha = false := by
  rcases mem_starts_iff.1 h with rfl | rfl | rfl
  · exact absurd rfl hne
  · exact ⟨':', rfl, rfl⟩
  · exact ⟨'/', rfl, rfl⟩

theorem eq_of_contains {start other : String} (h : start ∈ starts) (hother : other ∈ starts)
    (hne : start ≠ "") (hcontains : Text.contains start other = true) : start = other := by
  revert hne hcontains
  rcases mem_starts_iff.1 h with rfl | rfl | rfl <;>
    rcases mem_starts_iff.1 hother with rfl | rfl | rfl <;> decide

theorem IsSpelling.start_eq {start other value : String} {op second : Operator}
    (h : IsSpelling start op value) (hother : IsSpelling other second value) : start = other := by
  have hbegins {start other : String} {op second : Operator} (h : IsSpelling start op value)
      (hother : IsSpelling other second value) (hne : start ≠ "") : start = other := by
    obtain ⟨name, hname, -⟩ := h.exists_name
    obtain ⟨otherName, hotherName, hsame⟩ := hother.exists_name
    obtain ⟨tail, htail⟩ := Text.exists_eq_append_of_isAlpha (hotherName.symm.trans hname)
      (isAlpha_of_mem_name hsame) (exists_last_of_isStart h.isStart hne)
    apply eq_of_contains h.isStart hother.isStart hne
    exact (Text.contains_iff _ _).2 ⟨"", tail, by rw [htail, String.empty_append]⟩
  by_cases hstart : start = ""
  · by_cases hempty : other = ""
    · rw [hstart, hempty]
    · exact (hbegins hother h hempty).symm
  · exact hbegins h hother hstart

theorem IsSpelling.eq {start other value : String} {op second : Operator}
    (h : IsSpelling start op value) (hother : IsSpelling other second value) :
    start = other ∧ op = second := by
  have hstart := h.start_eq hother
  subst hstart
  obtain ⟨name, hname, hsame⟩ := h.exists_name
  obtain ⟨otherName, hotherName, hotherSame⟩ := hother.exists_name
  obtain rfl : name = otherName := (String.append_right_inj _).1 (hname.symm.trans hotherName)
  have hboth := Text.sameIgnoringAsciiCase_trans (Text.sameIgnoringAsciiCase_symm hsame) hotherSame
  exact ⟨rfl, eq_of_name hboth⟩

theorem exists_start_localName (value : String) :
    ∃ start ∈ starts, value = start ++ localName value := by
  unfold localName
  cases hiri : Text.after? Vocabulary.odrlNamespace value with
  | some name => exact ⟨_, by simp [starts], (Text.after?_eq_some_iff _ _ _).1 hiri⟩
  | none =>
    cases hshort : Text.after? "odrl:" value with
    | some name => exact ⟨_, by simp [starts], (Text.after?_eq_some_iff _ _ _).1 hshort⟩
    | none => exact ⟨"", by simp [starts], by simp⟩

theorem after?_name {name : String} {op : Operator}
    (h : Text.sameIgnoringAsciiCase name op.name = true) {start : String}
    (hstart : start ∈ starts) (hne : start ≠ "") : Text.after? start name = none := by
  rw [Option.eq_none_iff_forall_ne_some]
  intro rest hrest
  obtain ⟨c, hc, hletter⟩ := exists_last_of_isStart hstart hne
  have hmem : c ∈ name.toList := by
    rw [(Text.after?_eq_some_iff _ _ _).1 hrest, String.toList_append]
    exact List.mem_append_left _ (List.mem_of_getLast? hc)
  rw [isAlpha_of_mem_name h c hmem] at hletter
  cases hletter

theorem localName_append {start name : String} {op : Operator} (hstart : start ∈ starts)
    (h : Text.sameIgnoringAsciiCase name op.name = true) : localName (start ++ name) = name := by
  unfold localName
  rcases mem_starts_iff.1 hstart with rfl | rfl | rfl
  · rw [String.empty_append, after?_name h (by simp [starts]) (by decide),
      after?_name h (by simp [starts]) (by decide)]
    rfl
  · have hforeign : Text.after? Vocabulary.odrlNamespace ("odrl:" ++ name) = none := by
      simp [Text.after?, Text.listAfter?, Vocabulary.odrlNamespace]
    rw [hforeign, (Text.after?_eq_some_iff _ _ name).2 rfl]
    rfl
  · rw [(Text.after?_eq_some_iff _ _ name).2 rfl]

theorem parse?_eq_some_iff (value : String) (op : Operator) :
    parse? value = some op ↔ ∃ start, IsSpelling start op value := by
  constructor
  · intro h
    have hsame : Text.sameIgnoringAsciiCase op.name (localName value) = true := by
      simpa using List.find?_some h
    obtain ⟨start, hstart, hvalue⟩ := exists_start_localName value
    exact ⟨start, hstart, localName value, hvalue, Text.sameIgnoringAsciiCase_symm hsame⟩
  · rintro ⟨start, hstart, name, rfl, hsame⟩
    rw [parse?, localName_append hstart hsame]
    cases hfind : all.find? fun op => Text.sameIgnoringAsciiCase op.name name with
    | none =>
      have hnone := List.find?_eq_none.1 hfind op (mem_all op)
      exact absurd (Text.sameIgnoringAsciiCase_symm hsame) hnone
    | some found =>
      have hfound : Text.sameIgnoringAsciiCase found.name name = true := by
        simpa using List.find?_some hfind
      rw [eq_of_name (Text.sameIgnoringAsciiCase_trans hfound hsame)]

theorem parse?_eq_none_iff (value : String) :
    parse? value = none ↔ ∀ start op, ¬ IsSpelling start op value := by
  simp only [Option.eq_none_iff_forall_ne_some, ne_eq, parse?_eq_some_iff, not_exists]
  exact forall_comm

theorem parse?_of_doubled {start other : String} (h : start ∈ starts) (hother : other ∈ starts)
    (hne : start ≠ "") (hotherNe : other ≠ "") (rest : String) :
    parse? (start ++ other ++ rest) = none := by
  rw [parse?_eq_none_iff]
  rintro spelled op ⟨hstart, name, hname, hsame⟩
  obtain ⟨c, hc, hletter⟩ := exists_last_of_isStart hother hotherNe
  have hlast : ∃ c ∈ (start ++ other).toList.getLast?, c.isAlpha = false := by
    refine ⟨c, ?_, hletter⟩
    rw [String.toList_append, List.getLast?_append, Option.mem_def.1 hc]
    rfl
  obtain ⟨tail, htail⟩ :=
    Text.exists_eq_append_of_isAlpha hname.symm (isAlpha_of_mem_name hsame) hlast
  have hspelled : start = spelled := by
    apply eq_of_contains h hstart hne
    exact (Text.contains_iff _ _).2
      ⟨"", other ++ tail, by rw [htail, String.empty_append, String.append_assoc]⟩
  have hlength : spelled.length = start.length + other.length + tail.length := by
    rw [htail, String.length_append, String.length_append]
  have hotherLength : other.length ≠ 0 := by simpa using hotherNe
  rw [hspelled] at hlength
  omega

theorem head_of_isStart {start : String} (h : start ∈ starts) (hne : start ≠ "") :
    start.toList.head? = some 'o' ∨ start.toList.head? = some 'h' := by
  rcases mem_starts_iff.1 h with rfl | rfl | rfl
  · exact absurd rfl hne
  · exact .inl rfl
  · exact .inr rfl

theorem head_of_name_suffix {op second : Operator}
    (h : op.name.toList.map Text.lowerAscii <:+ second.name.toList.map Text.lowerAscii)
    (hne : op ≠ second) :
    (second.name.toList.map Text.lowerAscii).head? ≠ some 'o' ∧
      (second.name.toList.map Text.lowerAscii).head? ≠ some 'h' := by
  revert h hne
  cases op <;> cases second <;> decide

structure IsCut (start part rest : String) : Prop where
  isStart : start ∈ starts
  eq_append : start = part ++ rest
  part_ne : part ≠ ""
  rest_ne : rest ≠ ""

namespace IsCut

variable {start part rest piece name : String} {op : Operator}

theorem start_ne (h : IsCut start part rest) : start ≠ "" := by
  rw [h.eq_append]
  simp [h.part_ne]

theorem eq_empty_of_begins (h : IsCut start part rest) (hpiece : piece = part ∨ piece = rest)
    {other : String} (hother : other ∈ starts) (hbegins : ∃ tail, piece = other ++ tail) :
    other = "" := by
  by_contra hne
  obtain ⟨tail, htail⟩ := hbegins
  have hcontains : Text.contains other start = true := by
    rw [Text.contains_iff, h.eq_append]
    rcases hpiece with rfl | rfl
    · exact ⟨"", tail ++ rest, by rw [htail, String.empty_append, String.append_assoc]⟩
    · exact ⟨part, tail, by rw [htail, String.append_assoc]⟩
  -- a start stands in no other one, so the piece would be too short for it
  have hwhole := eq_of_contains hother h.isStart hne hcontains
  have hlength : part.length + rest.length = other.length := by
    rw [← String.length_append, ← h.eq_append, hwhole]
  have hshort : other.length ≤ piece.length := by
    rw [htail, String.length_append]
    omega
  have hpart : part.length ≠ 0 := by simpa using h.part_ne
  have hrest : rest.length ≠ 0 := by simpa using h.rest_ne
  rcases hpiece with rfl | rfl <;> omega

theorem isName (h : IsCut start part rest) (hpiece : piece = part ∨ piece = rest)
    (hname : Text.sameIgnoringAsciiCase name op.name = true) {other : String} {second : Operator}
    (hspelling : IsSpelling other second (piece ++ name)) :
    Text.sameIgnoringAsciiCase (piece ++ name) second.name = true := by
  obtain ⟨hother, otherName, hvalue, hsame⟩ := hspelling
  have hempty : other = "" := by
    by_contra hne
    apply hne
    apply h.eq_empty_of_begins hpiece hother
    exact Text.exists_eq_append_of_isAlpha hvalue (isAlpha_of_mem_name hname)
      (exists_last_of_isStart hother hne)
  rw [hvalue, hempty, String.empty_append]
  exact hsame

theorem parse?_part (h : IsCut start part rest)
    (hname : Text.sameIgnoringAsciiCase name op.name = true) : parse? (part ++ name) = none := by
  rw [parse?_eq_none_iff]
  intro other second hspelling
  -- a name would have another one at its end
  have hsame := h.isName (.inl rfl) hname hspelling
  rw [Text.sameIgnoringAsciiCase_iff] at hname hsame
  rw [String.toList_append, List.map_append, hname] at hsame
  obtain ⟨c, tail, hlist⟩ : ∃ c tail, part.toList = c :: tail :=
    List.exists_cons_of_ne_nil (by simpa using h.part_ne)
  have hother : op ≠ second := by
    rintro rfl
    rw [List.append_left_eq_self, List.map_eq_nil_iff, hlist] at hsame
    cases hsame
  obtain ⟨hfirst, hsecond⟩ := head_of_name_suffix ⟨_, hsame⟩ hother
  rw [← hsame, hlist] at hfirst hsecond
  have hhead := head_of_isStart h.isStart h.start_ne
  rw [h.eq_append, String.toList_append, hlist] at hhead
  rcases hhead with hc | hc
  · obtain rfl := Option.some_inj.1 hc
    exact hfirst rfl
  · obtain rfl := Option.some_inj.1 hc
    exact hsecond rfl

theorem parse?_rest (h : IsCut start part rest)
    (hname : Text.sameIgnoringAsciiCase name op.name = true) : parse? (rest ++ name) = none := by
  rw [parse?_eq_none_iff]
  intro other second hspelling
  -- the rest ends as the start does, in no letter
  have hsame := h.isName (.inr rfl) hname hspelling
  obtain ⟨c, hc, hletter⟩ := exists_last_of_isStart h.isStart h.start_ne
  rw [h.eq_append, String.toList_append,
    List.getLast?_append_of_ne_nil _ (by simpa using h.rest_ne)] at hc
  have hmem : c ∈ (rest ++ name).toList := by
    rw [String.toList_append]
    exact List.mem_append_left _ (List.mem_of_getLast? hc)
  rw [isAlpha_of_mem_name hsame c hmem] at hletter
  cases hletter

end IsCut

theorem IsSpelling.isPlain {start value : String} {op : Operator} (h : IsSpelling start op value)
    {c : Char} (hc : c ∈ value.toList) :
    c.toNat < 128 ∧ Text.isBlankChar c = false ∧ c ≠ '_' := by
  obtain ⟨name, hname, hsame⟩ := h.exists_name
  rw [hname, String.toList_append, List.mem_append] at hc
  rcases hc with hc | hc
  · have hstarts : starts.all (fun start => start.toList.all fun c =>
        c.toNat < 128 && !Text.isBlankChar c && c ≠ '_') = true := by decide
    have hplain := List.all_eq_true.1 (List.all_eq_true.1 hstarts start h.isStart) c hc
    simpa [and_assoc] using hplain
  · have hletter := isAlpha_of_mem_name hsame c hc
    refine ⟨?_, Text.not_isBlankChar_of_isAlpha hletter, ?_⟩
    · rw [Text.isAlpha_iff] at hletter
      omega
    · rintro rfl
      cases hletter

theorem parse?_reads_spellings (value : String) (op : Operator) :
    (parse? value = some op ↔ ∃ start, IsSpelling start op value) ∧
    (∀ start other second, IsSpelling start op value → IsSpelling other second value →
      start = other ∧ op = second) ∧
    (∀ start ∈ starts, ∀ other ∈ starts, start ≠ "" → other ≠ "" →
      ∀ rest, parse? (start ++ other ++ rest) = none) ∧
    (∀ start ∈ starts, ∀ part rest, start = part ++ rest → part ≠ "" → rest ≠ "" →
      ∀ name, Text.sameIgnoringAsciiCase name op.name = true →
        parse? (part ++ name) = none ∧ parse? (rest ++ name) = none) ∧
    ∀ c ∈ value.toList, 128 ≤ c.toNat ∨ Text.isBlankChar c = true ∨ c = '_' →
      parse? value = none := by
  refine ⟨parse?_eq_some_iff value op, ?_, ?_, ?_, ?_⟩
  · intro start other second h hother
    exact h.eq hother
  · intro start h other hother hne hotherNe rest
    exact parse?_of_doubled h hother hne hotherNe rest
  · intro start h part rest hstart hpart hrest name hname
    have hcut : IsCut start part rest := ⟨h, hstart, hpart, hrest⟩
    exact ⟨hcut.parse?_part hname, hcut.parse?_rest hname⟩
  · intro c hc hforeign
    rw [parse?_eq_none_iff]
    intro start second h
    obtain ⟨hascii, hblank, hunderscore⟩ := h.isPlain hc
    rcases hforeign with hwide | hspace | rfl
    · omega
    · rw [hspace] at hblank
      cases hblank
    · exact hunderscore rfl

theorem parse?_reads_spellings_nearly :
    parse? "odrl:ISANYOF" = some .isAnyOf ∧
      (∀ other second, IsSpelling other second "odrl:ISANYOF" →
        other = "odrl:" ∧ second = .isAnyOf) ∧
      parse? "odrl:http://www.w3.org/ns/odrl/2/eq" = none ∧
      parse? "http://www.w3.org/EQ" = none ∧ parse? "/EQ" = none ∧
      parse? (display .isAnyOf) = none ∧ parse? "eq " = none ∧ parse? "iſA" = none := by
  have hspelling : IsSpelling "odrl:" .isAnyOf "odrl:ISANYOF" :=
    ⟨by decide, "ISANYOF", by decide, by decide⟩
  obtain ⟨hread, honce, hdoubled, -, -⟩ := parse?_reads_spellings "odrl:ISANYOF" .isAnyOf
  refine ⟨hread.2 ⟨_, hspelling⟩, ?_, ?_, ?_, ?_, ?_, ?_, ?_⟩
  · intro other second hother
    obtain ⟨rfl, rfl⟩ := honce _ _ _ hspelling hother
    exact ⟨rfl, rfl⟩
  · exact hdoubled "odrl:" (by decide) Vocabulary.odrlNamespace (by decide) (by decide) (by decide)
      "eq"
  · have hpart := (parse?_reads_spellings "" .eq).2.2.2.1 Vocabulary.odrlNamespace (by decide)
      "http://www.w3.org/" "ns/odrl/2/" (by decide) (by decide) (by decide) "EQ" (by decide)
    exact hpart.1
  · have hpart := (parse?_reads_spellings "" .eq).2.2.2.1 Vocabulary.odrlNamespace (by decide)
      "http://www.w3.org/ns/odrl/2" "/" (by decide) (by decide) (by decide) "EQ" (by decide)
    exact hpart.2
  · exact (parse?_reads_spellings _ .isAnyOf).2.2.2.2 '_' (by decide) (.inr (.inr rfl))
  · exact (parse?_reads_spellings _ .eq).2.2.2.2 ' ' (by decide) (.inr (.inl rfl))
  · exact (parse?_reads_spellings _ .isA).2.2.2.2 'ſ' (by decide) (.inl (by decide))

end Operator

end CredentialPolicy
