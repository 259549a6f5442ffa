import CredentialPolicy.Instant.Text
import CredentialPolicy.Proofs.RestatedRecord

namespace CredentialPolicy

def Json.Reordered (value other : Json) : Prop :=
  value.isDistinct = true ∧ other.isDistinct = true ∧ value.canonical = other.canonical

theorem Json.eq_null_of_canonical {value : Json} (h : value.canonical = .null) : value = .null := by
  cases value with
  | null => rfl
  | bool | int | decimal | text | list | object => cases h

theorem Json.Reordered.null_iff {value other : Json} (h : value.Reordered other) :
    value = .null ↔ other = .null := by
  obtain ⟨-, -, hcanonical⟩ := h
  constructor
  · rintro rfl
    exact Json.eq_null_of_canonical hcanonical.symm
  · rintro rfl
    exact Json.eq_null_of_canonical hcanonical

theorem ReadsKept.eq_of_reordered {α : Type} {decode : Json → Option α} (h : ReadsKept decode)
    {value other : Json} (hvalues : value.Reordered other) : decode value = decode other := by
  obtain ⟨hvalue, hother, hcanonical⟩ := hvalues
  rw [← h value hvalue, hcanonical, h other hother]

inductive Json.Rewrapped : Json → Json → Prop
  | reordered {value other : Json} (h : value.Reordered other) : Rewrapped value other
  | wrapped {value : Json} (h : ∀ items, value ≠ .list items) : Rewrapped value (.list [value])

theorem Json.oneOrMany?_list_singleton {α : Type} (decode : Json → Option α) {value : Json}
    (h : ∀ items, value ≠ .list items) :
    (Json.list [value]).oneOrMany? decode = value.oneOrMany? decode := by
  have hsingle : (Json.list [value]).oneOrMany? decode = (decode value).map ([·]) := by
    rw [oneOrMany?, List.mapM_cons, List.mapM_nil]
    cases decode value <;> rfl
  cases value with
  | list items => exact absurd rfl (h items)
  | null | bool | int | decimal | text | object => exact hsingle

theorem ReadsKept.eq_of_rewrapped {α : Type} {decode : Json → Option α} (h : ReadsKept decode)
    {value other : Json} (hvalues : value.Rewrapped other) :
    value.oneOrMany? decode = other.oneOrMany? decode := by
  cases hvalues with
  | reordered hvalues => exact h.oneOrMany?.eq_of_reordered hvalues
  | wrapped hvalue => exact (Json.oneOrMany?_list_singleton decode hvalue).symm

inductive Issuer.Respelled : Json → Json → Prop
  | reordered {value other : Json} (h : value.Reordered other) : Respelled value other
  | named (id : String) : Respelled (.text id) (.object [("id", .text id)])

theorem Issuer.ofJson?_respelled {value other : Json} (h : Respelled value other) :
    ofJson? value = ofJson? other := by
  cases h with
  | reordered h => exact readsKept.eq_of_reordered h
  | named id => rfl

namespace Credential

def variants : List FieldVariants :=
  [{ name := "id", alike := Json.Reordered, idle := (· = .null) },
    { name := "type", alike := Json.Rewrapped },
    { name := "issuer", alike := Issuer.Respelled },
    { name := "issuanceDate", aliases := ["validFrom"], alike := Json.Reordered,
      idle := (· = .null) },
    { name := "expirationDate", aliases := ["validUntil"], alike := Json.Reordered,
      idle := (· = .null) },
    { name := "credentialSubject", alike := Json.Rewrapped, idle := (· = .list []) }]

theorem areSeparate_variants : FieldVariants.AreSeparate variants := by
  decide

def Restated : Json → Json → Prop :=
  Json.Restated 3 variants

theorem ofJson?_restated [DateFormat] {json other : Json} (h : Restated json other) :
    ofJson? json = ofJson? other := by
  refine Json.Restated.bind_entries?_eq h rfl areSeparate_variants fun entries others hfields => ?_
  simp only [variants, List.forall_mem_cons] at hfields
  obtain ⟨hid, htypes, hissuer, hissued, hexpires, hsubjects, -⟩ := hfields
  have hreordered {α : Type} {decode : Json → Option α} (hdecode : ReadsKept decode) :
      ∀ value other : Json, value.Reordered other →
        decode value = decode other ∧ (value = .null ↔ other = .null) :=
    fun value other hvalues => ⟨hdecode.eq_of_reordered hvalues, hvalues.null_iff⟩
  have hempty (value : Json) (hvalue : value = .list []) :
      value.oneOrMany? CredentialSubject.ofJson? = some [] := by
    rw [hvalue]
    rfl
  have hreadId := hid.optional?_eq (hreordered readsKept_text?) fun _ h => h
  have hreadTypes :=
    htypes.required?_eq (fun _ _ => readsKept_text?.eq_of_rewrapped) fun _ h => h
  have hreadIssuer := hissuer.required?_eq (fun _ _ => Issuer.ofJson?_respelled) fun _ h => h
  have hreadIssued := hissued.optional?_eq (hreordered Instant.readsKept) fun _ h => h
  have hreadExpires := hexpires.optional?_eq (hreordered Instant.readsKept) fun _ h => h
  have hreadSubjects :=
    hsubjects.withDefault?_eq (fun _ _ => CredentialSubject.readsKept.eq_of_rewrapped) hempty
  simp only [FieldVariants.spellings] at hreadId hreadTypes hreadIssuer
  simp only [FieldVariants.spellings] at hreadIssued hreadExpires hreadSubjects
  rw [hreadId, hreadTypes, hreadIssuer, hreadIssued, hreadExpires, hreadSubjects]

end Credential

theorem Entries.two_le_length_valuesOf {entries : Entries} {spellings : List String}
    {e other : String × Json} (he : e ∈ entries) (hother : other ∈ entries) (hne : e ≠ other)
    (hname : e.1 ∈ spellings) (hotherName : other.1 ∈ spellings) :
    2 ≤ (entries.valuesOf spellings).length := by
  have hmem : e ∈ entries.filter fun e => spellings.contains e.1 := by simp [he, hname]
  have hotherMem : other ∈ entries.filter fun e => spellings.contains e.1 := by
    simp [hother, hotherName]
  rw [valuesOf, List.length_map]
  generalize entries.filter (fun e => spellings.contains e.1) = found at hmem hotherMem
  cases found with
  | nil => cases hmem
  | cons first rest =>
    cases rest with
    | nil =>
      rw [List.mem_singleton] at hmem hotherMem
      exact absurd (hmem.trans hotherMem.symm) hne
    | cons second rest => simp

namespace Credential

theorem ofJson?_of_unreadable_date [DateFormat] {entries : Entries} {spellings : List String}
    (hspellings : spellings = ["issuanceDate", "validFrom"] ∨
      spellings = ["expirationDate", "validUntil"])
    (h : entries.optional? spellings Instant.ofJson? = none) : ofJson? (.object entries) = none := by
  rw [Option.eq_none_iff_forall_ne_some]
  intro c hc
  simp only [ofJson?, Option.bind_eq_bind, Option.bind_eq_some_iff] at hc
  obtain ⟨found, hfound, id, -, types, -, issuer, -, issued, hissued, expires, hexpires, -⟩ := hc
  cases hfound
  rcases hspellings with rfl | rfl
  · rw [h] at hissued
    cases hissued
  · rw [h] at hexpires
    cases hexpires

theorem credential_spellings_agree [DateFormat] :
    (∀ json other : Json, Relation.EqvGen Restated json other →
      (Document.decode? json : Option Credential) = Document.decode? other) ∧
    ∀ (entries : Entries) (first second : Json),
      (("issuanceDate", first) ∈ entries ∧ ("validFrom", second) ∈ entries) ∨
        (("expirationDate", first) ∈ entries ∧ ("validUntil", second) ∈ entries) →
      (Document.decode? (.object entries) : Option Credential) = none := by
  refine ⟨fun json other => eq_of_eqvGen fun _ _ h => ofJson?_restated h, ?_⟩
  intro entries first second h
  rcases h with ⟨hfirst, hsecond⟩ | ⟨hfirst, hsecond⟩
  · refine ofJson?_of_unreadable_date (.inl rfl) (Entries.optional?_eq_none ?_)
    exact Entries.two_le_length_valuesOf hfirst hsecond (by simp) (by simp) (by simp)
  · refine ofJson?_of_unreadable_date (.inr rfl) (Entries.optional?_eq_none ?_)
    exact Entries.two_le_length_valuesOf hfirst hsecond (by simp) (by simp) (by simp)

theorem credential_spellings_agree_v2 :
    let first := .object [("type", .text "MembershipCredential"),
      ("issuer", .text "did:web:issuer"), ("issuanceDate", .text "2024-05-01T00:00:00Z")]
    let second := .object [("@context", .null), ("type", .list [.text "MembershipCredential"]),
      ("issuer", .object [("id", .text "did:web:issuer")]),
      ("validFrom", .text "2024-05-01T00:00:00Z")]
    let both := .object [("issuanceDate", .null), ("validFrom", .null)]
    (Document.decode? first : Option Credential) = Document.decode? second ∧
      (Document.decode? first : Option Credential) ≠ none ∧
      (Document.decode? both : Option Credential) = none := by
  intro first second both
  have hmem (i : Nat) (h : i < variants.length) : variants[i] ∈ variants := List.getElem_mem h
  have htype : Restated first (.object [("type", .list [.text "MembershipCredential"]),
      ("issuer", .text "did:web:issuer"), ("issuanceDate", .text "2024-05-01T00:00:00Z")]) := by
    refine .object (.alike [] _ (hmem 1 (by decide)) List.mem_cons_self (.wrapped ?_))
    rintro items ⟨⟩
  have hissuer : Restated (.object [("type", .list [.text "MembershipCredential"]),
      ("issuer", .text "did:web:issuer"), ("issuanceDate", .text "2024-05-01T00:00:00Z")])
      (.object [("type", .list [.text "MembershipCredential"]),
      ("issuer", .object [("id", .text "did:web:issuer")]),
      ("issuanceDate", .text "2024-05-01T00:00:00Z")]) :=
    .object (.alike [_] _ (hmem 2 (by decide)) List.mem_cons_self (.named _))
  have hdate : Restated (.object [("type", .list [.text "MembershipCredential"]),
      ("issuer", .object [("id", .text "did:web:issuer")]),
      ("issuanceDate", .text "2024-05-01T00:00:00Z")])
      (.object [("type", .list [.text "MembershipCredential"]),
      ("issuer", .object [("id", .text "did:web:issuer")]),
      ("validFrom", .text "2024-05-01T00:00:00Z")]) := by
    refine .object (.renamed [_, _] [] (hmem 3 (by decide)) List.mem_cons_self ?_ _)
    exact List.mem_cons_of_mem _ List.mem_cons_self
  have hcontext : Restated (.object [("type", .list [.text "MembershipCredential"]),
      ("issuer", .object [("id", .text "did:web:issuer")]),
      ("validFrom", .text "2024-05-01T00:00:00Z")]) second := by
    refine .object (.unknown [] _ .null ?_)
    simp [variants, FieldVariants.spellings]
  refine ⟨?_, ?_, ?_⟩
  · exact credential_spellings_agree.1 first second
      (((Relation.EqvGen.rel _ _ htype).trans _ _ _ (.rel _ _ hissuer)).trans _ _ _
        ((Relation.EqvGen.rel _ _ hdate).trans _ _ _ (.rel _ _ hcontext)))
  · rw [Option.ne_none_iff_isSome]
    decide +kernel
  · exact credential_spellings_agree.2 _ .null .null (.inl ⟨by simp, by simp⟩)

end Credential

end CredentialPolicy
