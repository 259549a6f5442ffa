namespace CredentialPolicy.Text

def listAfter? : List Char → List Char → Option (List Char)
  | [], text => some text
  | _ :: _, [] => none
  | s :: start, c :: text => if s = c then listAfter? start text else none

def after? (start text : String) : Option String :=
  (listAfter? start.toList text.toList).map String.ofList

def begins (start text : String) : Bool :=
  (listAfter? start.toList text.toList).isSome

def listContains (part : List Char) : List Char → Bool
  | [] => part.isEmpty
  | c :: text => (listAfter? part (c :: text)).isSome || listContains part text

def contains (part text : String) : Bool :=
  listContains part.toList text.toList

def endsWithAny (ends : List Char) (text : String) : Bool :=
  text.toList.getLast?.any ends.contains

def dropEnd (c : Char) (text : String) : String :=
  String.ofList (text.toList.reverse.dropWhile (· = c)).reverse

/-- The part before the first `c`, the whole text if there is none. -/
def before (c : Char) (text : String) : String :=
  String.ofList (text.toList.takeWhile (· ≠ c))

def lastSegment (separators : List Char) (text : String) : String :=
  String.ofList (text.toList.reverse.takeWhile fun c => !separators.contains c).reverse

def isAscii (text : List Char) : Bool :=
  text.all (·.toNat < 128)

def lowerAscii (c : Char) : Char :=
  if 'A' ≤ c ∧ c ≤ 'Z' then Char.ofNat (c.toNat + 32) else c

def sameIgnoringAsciiCase (a b : String) : Bool :=
  a.toList.map lowerAscii == b.toList.map lowerAscii

theorem listAfter?_eq_some_iff (start text rest : List Char) :
    listAfter? start text = some rest ↔ text = start ++ rest := by
  induction start generalizing text with
  | nil => simp [listAfter?, eq_comm]
  | cons s start ih =>
    cases text with
    | nil => simp [listAfter?]
    | cons c text =>
      by_cases h : s = c
      · simp [listAfter?, h, ih]
      · simp [listAfter?, h, Ne.symm h]

theorem after?_eq_some_iff (start text rest : String) :
    after? start text = some rest ↔ text = start ++ rest := by
  constructor
  · intro h
    obtain ⟨tail, htail, rfl⟩ := Option.map_eq_some_iff.1 h
    rw [listAfter?_eq_some_iff] at htail
    apply String.toList_inj.1
    simp [htail]
  · rintro rfl
    rw [after?, (listAfter?_eq_some_iff _ _ rest.toList).2 String.toList_append]
    simp

theorem begins_iff (start text : String) :
    begins start text = true ↔ ∃ rest, text = start ++ rest := by
  have h : begins start text = (after? start text).isSome := by simp [begins, after?]
  rw [h, Option.isSome_iff_exists]
  simp [after?_eq_some_iff]

theorem listContains_iff (part text : List Char) :
    listContains part text = true ↔ ∃ a b, text = a ++ part ++ b := by
  induction text with
  | nil => cases part <;> simp [listContains]
  | cons c text ih =>
    rw [listContains, Bool.or_eq_true, ih, Option.isSome_iff_exists]
    simp only [listAfter?_eq_some_iff]
    constructor
    · rintro (⟨b, h⟩ | ⟨a, b, rfl⟩)
      · exact ⟨[], b, h⟩
      · exact ⟨c :: a, b, rfl⟩
    · rintro ⟨a, b, h⟩
      cases a with
      | nil => exact .inl ⟨b, h⟩
      | cons d a =>
        obtain ⟨rfl, rfl⟩ := List.cons.inj h
        exact .inr ⟨a, b, rfl⟩

theorem contains_iff (part text : String) :
    contains part text = true ↔ ∃ a b, text = a ++ part ++ b := by
  rw [contains, listContains_iff]
  constructor
  · rintro ⟨a, b, h⟩
    refine ⟨String.ofList a, String.ofList b, String.toList_inj.1 ?_⟩
    simp [h]
  · rintro ⟨a, b, rfl⟩
    exact ⟨a.toList, b.toList, by simp⟩

theorem endsWithAny_singleton_iff (c : Char) (text : String) :
    endsWithAny [c] text = true ↔ ∃ start, text = start ++ String.ofList [c] := by
  have hlast : endsWithAny [c] text = true ↔ text.toList.getLast? = some c := by
    simp [endsWithAny, Option.any_eq_true]
  rw [hlast, List.getLast?_eq_some_iff]
  constructor
  · rintro ⟨start, hstart⟩
    refine ⟨String.ofList start, ?_⟩
    apply String.toList_inj.1
    simp [hstart]
  · rintro ⟨start, rfl⟩
    exact ⟨start.toList, by simp⟩

theorem lastSegment_append {separators : List Char} {start : String}
    (hstart : ∀ c ∈ start.toList.getLast?, c ∈ separators) {name : String}
    (hname : name.toList.all (!separators.contains ·) = true) :
    lastSegment separators (start ++ name) = name := by
  have hkept : ∀ d ∈ name.toList.reverse, (!separators.contains d) = true := by
    intro d hd
    exact List.all_eq_true.1 hname d (List.mem_reverse.1 hd)
  have hstop : start.toList.reverse.takeWhile (!separators.contains ·) = [] := by
    rw [← List.head?_reverse] at hstart
    cases hreverse : start.toList.reverse with
    | nil => rfl
    | cons c rest =>
      have hc : c ∈ separators := hstart c (by rw [hreverse, List.head?_cons, Option.mem_some])
      simp [hc]
  rw [lastSegment, String.toList_append, List.reverse_append,
    List.takeWhile_append_of_pos hkept, hstop]
  simp

theorem sameIgnoringAsciiCase_iff (a b : String) :
    sameIgnoringAsciiCase a b = true ↔ a.toList.map lowerAscii = b.toList.map lowerAscii :=
  beq_iff_eq

theorem sameIgnoringAsciiCase_symm {a b : String} (h : sameIgnoringAsciiCase a b = true) :
    sameIgnoringAsciiCase b a = true := by
  rw [sameIgnoringAsciiCase_iff] at h ⊢
  exact h.symm

theorem sameIgnoringAsciiCase_trans {a b c : String} (h : sameIgnoringAsciiCase a b = true)
    (hbc : sameIgnoringAsciiCase b c = true) : sameIgnoringAsciiCase a c = true := by
  rw [sameIgnoringAsciiCase_iff] at h hbc ⊢
  exact h.trans hbc

end CredentialPolicy.Text
