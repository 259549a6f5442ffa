import CredentialPolicy.Document.Credential
import CredentialPolicy.Proofs.KeptJson

namespace CredentialPolicy

section

variable {α β : Type} {decode : α → Option β} {items : List α}

theorem mapM_eq_some_iff {list : List β} :
    items.mapM decode = some list ↔ items.map decode = list.map some := by
  induction items generalizing list with
  | nil => cases list <;> simp
  | cons item rest ih =>
    simp only [List.mapM_cons, Option.bind_eq_bind, Option.bind_eq_some_iff, ih, List.map_cons]
    cases list with
    | nil => simp
    | cons value values => simp [← and_assoc, and_right_comm]

theorem mapM_map_eq_some {encode : β → α} {list : List β}
    (h : ∀ value ∈ list, decode (encode value) = some value) :
    (list.map encode).mapM decode = some list := by
  rw [mapM_eq_some_iff, List.map_map]
  exact List.map_congr_left h

theorem mapM_eq_none_iff : items.mapM decode = none ↔ ∃ item ∈ items, decode item = none := by
  induction items with
  | nil => simp
  | cons item rest ih =>
    rw [List.mapM_cons]
    cases hitem : decode item <;> cases hrest : rest.mapM decode <;> simp_all

theorem filterMap_eq_of_mapM {list : List β} (h : items.mapM decode = some list) :
    items.filterMap decode = list := by
  have hmap := mapM_eq_some_iff.1 h
  calc items.filterMap decode
      = (items.map decode).filterMap id := by rw [List.filterMap_map]; rfl
    _ = (list.map some).filterMap id := by rw [hmap]
    _ = list := by rw [List.filterMap_map]; exact List.filterMap_some

theorem exists_of_mem_mapM {list : List β} (h : items.mapM decode = some list) {value : β}
    (hvalue : value ∈ list) : ∃ item ∈ items, decode item = some value := by
  have hmap := mapM_eq_some_iff.1 h
  have hmem : some value ∈ items.map decode := hmap ▸ List.mem_map_of_mem hvalue
  exact List.mem_map.1 hmem

end

theorem Json.exists_of_mem_oneOrMany? {α : Type} {decode : Json → Option α} {json : Json}
    {list : List α} (h : json.oneOrMany? decode = some list) {value : α} (hvalue : value ∈ list) :
    ∃ source, decode source = some value := by
  cases json with
  | list items =>
    obtain ⟨item, -, hitem⟩ := exists_of_mem_mapM h hvalue
    exact ⟨item, hitem⟩
  | null | bool | int | decimal | text | object =>
    obtain ⟨single, hsingle, rfl⟩ := Option.map_eq_some_iff.1 h
    rw [List.mem_singleton.1 hvalue]
    exact ⟨_, hsingle⟩

def ReadsKept {α : Type} (decode : Json → Option α) : Prop :=
  ∀ json : Json, json.isDistinct = true → decode json.canonical = decode json

namespace Entries

variable {α : Type} {entries kept : Entries} {spellings : List String} {decode : Json → Option α}

theorem required?_eq_none (h : 2 ≤ (entries.valuesOf spellings).length) :
    entries.required? spellings decode = none := by
  grind [required?]

theorem withDefault?_eq_none {default : α} (h : 2 ≤ (entries.valuesOf spellings).length) :
    entries.withDefault? spellings default decode = none := by
  grind [withDefault?]

theorem optional?_eq_none (h : 2 ≤ (entries.valuesOf spellings).length) :
    entries.optional? spellings decode = none := by
  grind [optional?]

@[simp]
theorem valuesOf_nil (spellings : List String) : valuesOf [] spellings = [] :=
  rfl

@[simp]
theorem valuesOf_cons (e : String × Json) (rest : Entries) (spellings : List String) :
    valuesOf (e :: rest) spellings =
      if e.1 ∈ spellings then e.2 :: valuesOf rest spellings else valuesOf rest spellings := by
  simp only [valuesOf, List.filter_cons, List.contains_iff_mem]
  split <;> rfl

@[simp]
theorem valuesOf_append (first second : Entries) (spellings : List String) :
    valuesOf (first ++ second) spellings =
      valuesOf first spellings ++ valuesOf second spellings := by
  simp [valuesOf]

@[simp]
theorem valuesOf_optionalEntry {β : Type} (name : String) (encode : β → Json) (value : Option β)
    (spellings : List String) :
    valuesOf (optionalEntry name encode value) spellings =
      if name ∈ spellings then value.toList.map encode else [] := by
  cases value <;> simp [optionalEntry]

theorem valuesOf_perm {others : Entries} (h : entries.Perm others) (spellings : List String) :
    (entries.valuesOf spellings).Perm (others.valuesOf spellings) :=
  (h.filter _).map _

theorem without_perm {others : Entries} (h : entries.Perm others) (spellings : List String) :
    (entries.without spellings).Perm (others.without spellings) :=
  h.filter _

theorem without_append (first second : Entries) (spellings : List String) :
    without (first ++ second) spellings = without first spellings ++ without second spellings := by
  simp [without]

theorem valuesOf_eq_nil {name : String} (h : name ∉ entries.map (·.1)) :
    entries.valuesOf [name] = [] := by
  rw [valuesOf, List.map_eq_nil_iff, List.filter_eq_nil_iff]
  intro e he heq
  rw [List.contains_iff_mem, List.mem_singleton] at heq
  exact h (heq ▸ List.mem_map_of_mem he)

theorem without_eq_self {name : String} (h : name ∉ entries.map (·.1)) :
    entries.without [name] = entries := by
  rw [without, List.filter_eq_self]
  intro e he
  rw [Bool.not_eq_true', Bool.eq_false_iff, Ne, List.contains_iff_mem, List.mem_singleton]
  exact fun heq => h (heq ▸ List.mem_map_of_mem he)

theorem required?_of_valuesOf {value : Json} (h : entries.valuesOf spellings = [value]) :
    entries.required? spellings decode = decode value := by
  rw [required?, h]

theorem withDefault?_of_valuesOf {default : α} {value : Json}
    (h : entries.valuesOf spellings = [value]) :
    entries.withDefault? spellings default decode = decode value := by
  rw [withDefault?, h]

theorem optional?_of_value {value : Json} (h : entries.valuesOf spellings = [value])
    (hnull : value ≠ .null) :
    entries.optional? spellings decode = (decode value).map some := by
  rw [optional?, h]
  cases value with
  | null => exact absurd rfl hnull
  | bool | int | decimal | text | list | object => rfl

theorem optional?_of_valuesOf {encode : α → Json} {value : Option α}
    (h : entries.valuesOf spellings = value.toList.map encode) (hnull : ∀ a, encode a ≠ .null)
    (hdecode : ∀ a, decode (encode a) = some a) :
    entries.optional? spellings decode = some value := by
  cases value with
  | none => rw [optional?, h]; rfl
  | some a => rw [optional?_of_value h (hnull a), hdecode, Option.map_some]

theorem optional?_of_nullable {encode : α → Json} {value : Option α}
    (h : entries.valuesOf spellings = [(value.map encode).getD .null])
    (hnull : ∀ a, encode a ≠ .null) (hdecode : ∀ a, decode (encode a) = some a) :
    entries.optional? spellings decode = some value := by
  cases value with
  | none => rw [optional?, h]; rfl
  | some a => rw [optional?_of_value h (hnull a), Option.map_some, Option.getD_some, hdecode]; rfl

theorem mem_of_valuesOf_eq {value : Json} (h : entries.valuesOf spellings = [value]) :
    ∃ e ∈ entries, e.2 = value := by
  have hmem : value ∈ entries.valuesOf spellings := by simp [h]
  obtain ⟨e, he, hvalue⟩ := List.mem_map.1 hmem
  exact ⟨e, (List.mem_filter.1 he).1, hvalue⟩

theorem required?_eq_some {a : α} (h : entries.required? spellings decode = some a) :
    ∃ e ∈ entries, decode e.2 = some a := by
  unfold required? at h
  split at h
  · next hvalues =>
    obtain ⟨e, he, rfl⟩ := mem_of_valuesOf_eq hvalues
    exact ⟨e, he, h⟩
  · cases h

theorem withDefault?_eq_some {default a : α}
    (h : entries.withDefault? spellings default decode = some a) :
    a = default ∨ ∃ e ∈ entries, decode e.2 = some a := by
  unfold withDefault? at h
  split at h
  · exact .inl (Option.some.inj h).symm
  · next hvalues =>
    obtain ⟨e, he, rfl⟩ := mem_of_valuesOf_eq hvalues
    exact .inr ⟨e, he, h⟩
  · cases h

structure Keeps (kept entries : Entries) : Prop where
  perm : kept.Perm (Json.canonicalMembers entries)
  distinct : ∀ e ∈ entries, e.2.isDistinct = true

namespace Keeps

theorem valuesOf_perm_map (h : Keeps kept entries) (spellings : List String) :
    (kept.valuesOf spellings).Perm ((entries.valuesOf spellings).map Json.canonical) := by
  have hvalues : (entries.valuesOf spellings).map Json.canonical =
      Entries.valuesOf (Json.canonicalMembers entries) spellings := by
    rw [Json.canonicalMembers_eq_map, valuesOf, valuesOf, List.filter_map, List.map_map,
      List.map_map]
    rfl
  rw [hvalues]
  exact valuesOf_perm h.perm spellings

theorem without (h : Keeps kept entries) (spellings : List String) :
    Keeps (kept.without spellings) (entries.without spellings) := by
  refine ⟨?_, fun e he => h.distinct e (List.mem_filter.1 he).1⟩
  have hwithout : Json.canonicalMembers (entries.without spellings) =
      Entries.without (Json.canonicalMembers entries) spellings := by
    rw [Json.canonicalMembers_eq_map, Json.canonicalMembers_eq_map, Entries.without,
      Entries.without, List.filter_map]
    rfl
  rw [hwithout]
  exact without_perm h.perm spellings

theorem valuesOf_cases (h : Keeps kept entries) (spellings : List String) :
    (kept.valuesOf spellings = [] ∧ entries.valuesOf spellings = []) ∨
      (∃ value : Json, value.isDistinct = true ∧ kept.valuesOf spellings = [value.canonical] ∧
        entries.valuesOf spellings = [value]) ∨
      2 ≤ (kept.valuesOf spellings).length ∧ 2 ≤ (entries.valuesOf spellings).length := by
  have hperm := h.valuesOf_perm_map spellings
  match hvalues : entries.valuesOf spellings with
  | [] => exact .inl ⟨by simpa [hvalues] using hperm, rfl⟩
  | [value] =>
    obtain ⟨e, he, rfl⟩ := mem_of_valuesOf_eq hvalues
    refine .inr (.inl ⟨e.2, h.distinct e he, ?_, rfl⟩)
    simpa [hvalues] using hperm
  | value :: next :: rest =>
    have hlength := hperm.length_eq
    rw [List.length_map, hvalues] at hlength
    exact .inr (.inr ⟨by simp [hlength], by simp⟩)

theorem required?_eq (h : Keeps kept entries) (hdecode : ReadsKept decode) :
    kept.required? spellings decode = entries.required? spellings decode := by
  rcases h.valuesOf_cases spellings with ⟨hkept, hentries⟩ | ⟨value, hvalue, hkept, hentries⟩ |
    ⟨hkept, hentries⟩
  · rw [required?, required?, hkept, hentries]
  · rw [required?, required?, hkept, hentries]
    exact hdecode value hvalue
  · rw [required?_eq_none hkept, required?_eq_none hentries]

theorem withDefault?_eq (h : Keeps kept entries) (hdecode : ReadsKept decode) (default : α) :
    kept.withDefault? spellings default decode = entries.withDefault? spellings default decode := by
  rcases h.valuesOf_cases spellings with ⟨hkept, hentries⟩ | ⟨value, hvalue, hkept, hentries⟩ |
    ⟨hkept, hentries⟩
  · rw [withDefault?, withDefault?, hkept, hentries]
  · rw [withDefault?, withDefault?, hkept, hentries]
    exact hdecode value hvalue
  · rw [withDefault?_eq_none hkept, withDefault?_eq_none hentries]

theorem optional?_eq (h : Keeps kept entries) (hdecode : ReadsKept decode) :
    kept.optional? spellings decode = entries.optional? spellings decode := by
  rcases h.valuesOf_cases spellings with ⟨hkept, hentries⟩ | ⟨value, hvalue, hkept, hentries⟩ |
    ⟨hkept, hentries⟩
  · rw [optional?, optional?, hkept, hentries]
  · have hread := hdecode value hvalue
    rw [optional?, optional?, hkept, hentries]
    cases value with
    | null => rfl
    | bool | int | decimal | text | list | object => exact congrArg (Option.map some) hread
  · rw [optional?_eq_none hkept, optional?_eq_none hentries]

end Keeps

end Entries

namespace Json

theorem entries_canonical_keeps {members : Entries} (h : (object members).isDistinct = true) :
    Entries.Keeps (Members.ofList (canonicalMembers members)).entries members := by
  obtain ⟨hnames, hvalues⟩ := (isDistinct_object members).1 h
  exact ⟨Members.entries_ofList_perm (hasDistinctNames_canonicalMembers.2 hnames), hvalues⟩

theorem entries?_canonical (fields : Fields) (least : Nat) {json : Json}
    (h : json.isDistinct = true) :
    (json.canonical.entries? fields least = none ∧ json.entries? fields least = none) ∨
      ∃ kept entries, json.canonical.entries? fields least = some kept ∧
        json.entries? fields least = some entries ∧ Entries.Keeps kept entries := by
  cases json with
  | null | bool | int | decimal | text => exact .inl ⟨rfl, rfl⟩
  | object members => exact .inr ⟨_, _, rfl, rfl, entries_canonical_keeps h⟩
  | list items =>
    rw [canonical_list]
    simp only [entries?, List.length_map]
    split
    · refine .inr ⟨_, _, rfl, rfl, ?_, ?_⟩
      · rw [canonicalMembers_eq_map, List.zip_map_right]
        exact .refl _
      · intro e he
        exact (isDistinct_list items).1 h e.2 (List.of_mem_zip he).2
    · exact .inl ⟨rfl, rfl⟩

end Json

theorem keptMembers_eq {kept entries : Entries} (h : Entries.Keeps kept entries)
    (hnames : HasDistinctNames entries) : keptMembers kept = keptMembers entries := by
  have hperm := Json.canonicalMembers_perm h.perm
  rw [Json.canonicalMembers_canonicalMembers] at hperm
  have hkeptNames := Json.hasDistinctNames_canonicalMembers.2 hnames
  exact (Members.ofList_eq_of_perm hkeptNames hperm.symm).symm

theorem HasDistinctNames.without {entries : Entries} (h : HasDistinctNames entries)
    (spellings : List String) : HasDistinctNames (entries.without spellings) :=
  h.sublist (List.filter_sublist.map _)

theorem readsKept_text? : ReadsKept Json.text? := by
  intro json _
  cases json <;> rfl

theorem Instant.readsKept [DateFormat] : ReadsKept ofJson? := by
  intro json _
  cases json <;> rfl

theorem ReadsKept.mapM {α : Type} {decode : Json → Option α} (h : ReadsKept decode)
    {items : List Json} (hitems : ∀ item ∈ items, item.isDistinct = true) :
    (items.map Json.canonical).mapM decode = items.mapM decode := by
  rw [List.mapM_map]
  induction items with
  | nil => rfl
  | cons item rest ih =>
    obtain ⟨hitem, hrest⟩ := List.forall_mem_cons.1 hitems
    rw [List.mapM_cons, List.mapM_cons, ih hrest, Function.comp_apply, h item hitem]

theorem ReadsKept.oneOrMany? {α : Type} {decode : Json → Option α} (h : ReadsKept decode) :
    ReadsKept (Json.oneOrMany? decode) := by
  intro json hjson
  cases json with
  | list items =>
    rw [Json.canonical_list]
    exact h.mapM ((Json.isDistinct_list items).1 hjson)
  | null | bool | int | decimal | text | object =>
    exact congrArg (Option.map ([·])) (h _ hjson)

theorem Issuer.readsKept : ReadsKept ofJson? := by
  intro json hjson
  cases json with
  | null | bool | int | decimal | text | list => rfl
  | object members =>
    have hkeeps := Json.entries_canonical_keeps hjson
    have hnames := ((Json.isDistinct_object members).1 hjson).1
    simp only [Json.canonical, ofJson?, hkeeps.required?_eq readsKept_text?,
      keptMembers_eq (hkeeps.without ["id"]) (hnames.without ["id"])]

theorem CredentialSubject.readsKept : ReadsKept ofJson? := by
  intro json hjson
  cases json with
  | null | bool | int | decimal | text | list => rfl
  | object members =>
    have hkeeps := Json.entries_canonical_keeps hjson
    have hnames := ((Json.isDistinct_object members).1 hjson).1
    simp only [Json.canonical, ofJson?, hkeeps.optional?_eq readsKept_text?,
      keptMembers_eq (hkeeps.without ["id"]) (hnames.without ["id"])]

theorem Credential.readsKept [DateFormat] : ReadsKept ofJson? := by
  intro json hjson
  unfold ofJson?
  rcases Json.entries?_canonical fields 3 hjson with ⟨hkept, hentries⟩ |
    ⟨kept, entries, hkept, hentries, hkeeps⟩
  · rw [hkept, hentries]
  · simp only [hkept, hentries, Option.bind_eq_bind, Option.bind_some,
      hkeeps.optional?_eq readsKept_text?, hkeeps.required?_eq readsKept_text?.oneOrMany?,
      hkeeps.required?_eq Issuer.readsKept, hkeeps.optional?_eq Instant.readsKept,
      hkeeps.withDefault?_eq CredentialSubject.readsKept.oneOrMany?]

theorem ClaimValue.ofJson_canonical [DateFormat] {json : Json} (h : json.isDistinct = true) :
    ofJson json.canonical = ofJson json := by
  cases json with
  | null | bool | int | decimal | text => rfl
  | object members =>
    have hcanonical := Json.canonical_canonical (.object members)
    simpa [ofJson, Json.canonical] using hcanonical
  | list items =>
    have hread := Credential.readsKept.mapM ((Json.isDistinct_list items).1 h)
    have hcanonical := Json.canonical_canonical (.list items)
    rw [Json.canonical_list] at hcanonical ⊢
    simp only [ofJson, hread, hcanonical, Json.canonical_list]

end CredentialPolicy
