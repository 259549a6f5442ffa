import CredentialPolicy.Proofs.CredentialClaim
import CredentialPolicy.Proofs.InstantText

namespace CredentialPolicy

/-- All values are in the form in which they are kept: each object in them holds a name once, and
its names ascend. -/
def Members.IsKept (m : Members Json) : Prop :=
  ∀ e ∈ m.entries, e.2.canonical = e.2

structure Credential.IsKept (c : Credential) : Prop where
  issuer : c.issuer.properties.IsKept
  subjects : ∀ s ∈ c.subjects, s.claims.IsKept

namespace Members

theorem IsKept.canonicalMembers_eq {m : Members Json} (h : m.IsKept) :
    Json.canonicalMembers m.entries = m.entries := by
  rw [Json.canonicalMembers_eq_map]
  refine (List.map_congr_left fun e he => ?_).trans (List.map_id _)
  rw [h e he]
  rfl

theorem exists_of_mem_keptMembers {entries : Entries} {e : String × Json}
    (h : e ∈ (keptMembers entries).entries) :
    ∃ source ∈ entries, (source.1, source.2.canonical) = e := by
  have hmem := mem_ofList h
  rw [Json.canonicalMembers_eq_map] at hmem
  exact List.mem_map.1 hmem

theorem isKept_keptMembers (entries : Entries) : (keptMembers entries).IsKept := by
  intro e he
  obtain ⟨source, -, rfl⟩ := exists_of_mem_keptMembers he
  exact Json.canonical_canonical source.2

theorem get?_eq_none_iff (m : Members Json) (name : String) :
    m.get? name = none ↔ name ∉ m.entries.map (·.1) := by
  rw [get?, List.lookup_eq_none_iff]
  simp only [bne_iff_ne, List.mem_map, not_exists, not_and, ne_comm]

theorem get?_keptMembers_without (entries : Entries) (name : String) :
    (keptMembers (entries.without [name])).get? name = none := by
  rw [get?_eq_none_iff, List.mem_map]
  rintro ⟨e, he, rfl⟩
  obtain ⟨source, hsource, rfl⟩ := exists_of_mem_keptMembers he
  simpa using (List.mem_filter.1 hsource).2

theorem keptMembers_without_spec (entries : Entries) (name : String) :
    (keptMembers (entries.without [name])).IsKept ∧
      (keptMembers (entries.without [name])).get? name = none :=
  ⟨isKept_keptMembers _, get?_keptMembers_without entries name⟩

end Members

theorem exists_entries_objectWith (id : Option String) {members : Members Json}
    (hkept : members.IsKept) (hid : members.get? "id" = none) :
    ∃ entries : Entries, objectWith (optionalEntry "id" .text id) members = .object entries ∧
      entries.valuesOf ["id"] = id.toList.map .text ∧
      keptMembers (entries.without ["id"]) = members := by
  have hother := (Members.get?_eq_none_iff members "id").1 hid
  have hnames : HasDistinctNames (optionalEntry "id" .text id ++ members.entries) := by
    have hmembers := members.ascending.hasDistinctNames
    cases id with
    | none => exact hmembers
    | some value => exact List.nodup_cons.2 ⟨hother, hmembers⟩
  have hperm := Members.entries_ofList_perm hnames
  refine ⟨_, rfl, ?_, ?_⟩
  · have hvalues := Entries.valuesOf_perm hperm ["id"]
    rw [Entries.valuesOf_append, Entries.valuesOf_eq_nil hother] at hvalues
    cases id with
    | none => exact hvalues.eq_nil
    | some value => exact hvalues.eq_singleton
  · have hwithout : Entries.without (optionalEntry "id" .text id ++ members.entries) ["id"] =
        members.entries := by
      rw [Entries.without_append, Entries.without_eq_self hother]
      cases id <;> rfl
    have hrest := Json.canonicalMembers_perm (Entries.without_perm hperm ["id"])
    rw [hwithout, hkept.canonicalMembers_eq] at hrest
    rw [keptMembers, ← Members.ofList_eq_of_perm members.ascending.hasDistinctNames hrest.symm,
      Members.ofList_entries]

namespace Issuer

theorem ofJson?_toJson {i : Issuer} (hkept : i.properties.IsKept)
    (hid : i.properties.get? "id" = none) : ofJson? i.toJson = some i := by
  obtain ⟨entries, hjson, hvalues, hrest⟩ := exists_entries_objectWith (some i.id) hkept hid
  have hwritten : i.toJson = .object entries := hjson
  rw [hwritten, ofJson?, Entries.required?_of_valuesOf hvalues, hrest]
  rfl

theorem properties_of_ofJson? {json : Json} {i : Issuer} (h : ofJson? json = some i) :
    i.properties.IsKept ∧ i.properties.get? "id" = none := by
  cases json with
  | null | bool | int | decimal | list => cases h
  | text value =>
    cases h
    exact Members.keptMembers_without_spec [] "id"
  | object entries =>
    obtain ⟨id, -, h⟩ := Option.bind_eq_some_iff.1 h
    cases h
    exact Members.keptMembers_without_spec entries "id"

end Issuer

namespace CredentialSubject

theorem ofJson?_toJson {s : CredentialSubject} (hkept : s.claims.IsKept)
    (hid : s.claims.get? "id" = none) : ofJson? s.toJson = some s := by
  obtain ⟨entries, hjson, hvalues, hrest⟩ := exists_entries_objectWith s.id hkept hid
  have hwritten : s.toJson = .object entries := hjson
  have hread : entries.optional? ["id"] Json.text? = some s.id :=
    Entries.optional?_of_valuesOf hvalues (by simp) fun _ => rfl
  rw [hwritten, ofJson?, hread, hrest]
  rfl

theorem claims_of_ofJson? {json : Json} {s : CredentialSubject} (h : ofJson? json = some s) :
    s.claims.IsKept ∧ s.claims.get? "id" = none := by
  cases json with
  | null | bool | int | decimal | text | list => cases h
  | object entries =>
    obtain ⟨id, -, h⟩ := Option.bind_eq_some_iff.1 h
    cases h
    exact Members.keptMembers_without_spec entries "id"

end CredentialSubject

namespace Credential

structure NamesNoId (c : Credential) : Prop where
  issuer : c.issuer.properties.get? "id" = none
  subjects : ∀ s ∈ c.subjects, s.claims.get? "id" = none

variable [DateFormat]

theorem exists_entries_toJson (c : Credential) :
    ∃ entries : Entries, c.toJson = .object entries ∧
      entries.valuesOf ["id"] = c.id.toList.map .text ∧
      entries.valuesOf ["type"] = [Json.texts c.types] ∧
      entries.valuesOf ["issuer"] = [c.issuer.toJson] ∧
      entries.valuesOf ["issuanceDate", "validFrom"] =
        c.issuanceDate.toList.map Instant.toJson ∧
      entries.valuesOf ["expirationDate", "validUntil"] =
        c.expirationDate.toList.map Instant.toJson ∧
      entries.valuesOf ["credentialSubject"] =
        [.list (c.subjects.map CredentialSubject.toJson)] := by
  refine ⟨_, rfl, ?_, ?_, ?_, ?_, ?_, ?_⟩ <;> simp

theorem ofJson?_toJson_eq [LawfulDateFormat] (c : Credential) :
    ofJson? c.toJson =
      (Issuer.ofJson? c.issuer.toJson).bind fun issuer =>
        ((c.subjects.map CredentialSubject.toJson).mapM CredentialSubject.ofJson?).map
          fun subjects => { c with issuer, subjects } := by
  obtain ⟨entries, hjson, hid, htypes, hissuer, hissued, hexpires, hsubjects⟩ :=
    c.exists_entries_toJson
  have hentries : (Json.object entries).entries? fields 3 = some entries := rfl
  have hreadId : entries.optional? ["id"] Json.text? = some c.id :=
    Entries.optional?_of_valuesOf hid (by simp) fun _ => rfl
  have hreadTypes : Json.oneOrMany? Json.text? (Json.texts c.types) = some c.types :=
    mapM_map_eq_some fun _ _ => rfl
  have hinstant (i : Instant) : Instant.ofJson? i.toJson = some i := LawfulDateFormat.read?_render i
  have hreadIssued : entries.optional? ["issuanceDate", "validFrom"] Instant.ofJson? =
      some c.issuanceDate :=
    Entries.optional?_of_valuesOf hissued (by simp [Instant.toJson]) hinstant
  have hreadExpires : entries.optional? ["expirationDate", "validUntil"] Instant.ofJson? =
      some c.expirationDate :=
    Entries.optional?_of_valuesOf hexpires (by simp [Instant.toJson]) hinstant
  simp only [hjson, ofJson?, hentries, hreadId, Entries.required?_of_valuesOf htypes, hreadTypes,
    Entries.required?_of_valuesOf hissuer, hreadIssued, hreadExpires,
    Entries.withDefault?_of_valuesOf hsubjects, Option.bind_eq_bind, Option.bind_some,
    Option.map_eq_bind]
  rfl

theorem ofJson?_toJson [LawfulDateFormat] {c : Credential} (hkept : c.IsKept) (hid : c.NamesNoId) :
    ofJson? c.toJson = some c := by
  have hsubjects : (c.subjects.map CredentialSubject.toJson).mapM CredentialSubject.ofJson? =
      some c.subjects := by
    refine mapM_map_eq_some fun s hs => ?_
    exact CredentialSubject.ofJson?_toJson (hkept.subjects s hs) (hid.subjects s hs)
  rw [ofJson?_toJson_eq, Issuer.ofJson?_toJson hkept.issuer hid.issuer, hsubjects]
  rfl

theorem exists_parts_of_ofJson? {json : Json} {c : Credential} (h : ofJson? json = some c) :
    (∃ source, Issuer.ofJson? source = some c.issuer) ∧
      ∀ s ∈ c.subjects, ∃ source, CredentialSubject.ofJson? source = some s := by
  simp only [ofJson?, Option.bind_eq_bind, Option.bind_eq_some_iff] at h
  obtain ⟨entries, -, id, -, types, -, issuer, hissuer, issued, -, expires, -, subjects, hsubjects,
    hc⟩ := h
  cases hc
  refine ⟨?_, fun s hs => ?_⟩
  · obtain ⟨e, -, hsource⟩ := Entries.required?_eq_some hissuer
    exact ⟨e.2, hsource⟩
  · rcases Entries.withDefault?_eq_some hsubjects with rfl | ⟨e, -, hsource⟩
    · cases hs
    · exact Json.exists_of_mem_oneOrMany? hsource hs

theorem namesNoId_of_ofJson? {json : Json} {c : Credential} (h : ofJson? json = some c) :
    c.NamesNoId := by
  obtain ⟨⟨source, hissuer⟩, hsubjects⟩ := exists_parts_of_ofJson? h
  refine ⟨(Issuer.properties_of_ofJson? hissuer).2, fun s hs => ?_⟩
  obtain ⟨source, hsource⟩ := hsubjects s hs
  exact (CredentialSubject.claims_of_ofJson? hsource).2

theorem isKept_of_ofJson? {json : Json} {c : Credential} (h : ofJson? json = some c) :
    c.IsKept := by
  obtain ⟨⟨source, hissuer⟩, hsubjects⟩ := exists_parts_of_ofJson? h
  refine ⟨(Issuer.properties_of_ofJson? hissuer).1, fun s hs => ?_⟩
  obtain ⟨source, hsource⟩ := hsubjects s hs
  exact (CredentialSubject.claims_of_ofJson? hsource).1

theorem ofJson?_toJson_iff [LawfulDateFormat] {c : Credential} (hkept : c.IsKept) :
    ofJson? c.toJson = some c ↔ c.NamesNoId :=
  ⟨namesNoId_of_ofJson?, ofJson?_toJson hkept⟩

end Credential

namespace ClaimValue

variable [DateFormat]

def IsTyped : ClaimValue → Prop
  | json (.text _) => False
  | json (.list items) => ∃ item ∈ items, Credential.ofJson? item = none
  | _ => True

theorem isTyped_ofJson {value : Json} (h : value.isDistinct = true) : (ofJson value).IsTyped := by
  cases value with
  | null | bool | int | decimal | text | object => trivial
  | list items =>
    cases hread : items.mapM Credential.ofJson? with
    | some list =>
      rw [ofJson_of_credentials hread]
      trivial
    | none =>
      obtain ⟨item, hitem, hnone⟩ := mapM_eq_none_iff.1 hread
      rw [ofJson_of_mixed hread]
      refine ⟨item.canonical, List.mem_map_of_mem hitem, ?_⟩
      rw [Credential.readsKept item ((Json.isDistinct_list items).1 h item hitem), hnone]

theorem ofJson_toJson_ofJson [LawfulDateFormat] {value : Json} (h : value.isDistinct = true) :
    ofJson (ofJson value).toJson = ofJson value := by
  cases value with
  | null | bool | int | decimal | text => rfl
  | object members => exact ofJson_canonical h
  | list items =>
    cases hread : items.mapM Credential.ofJson? with
    | some list =>
      have hwritten : (list.map Credential.toJson).mapM Credential.ofJson? = some list := by
        refine mapM_map_eq_some fun c hc => ?_
        obtain ⟨item, -, hitem⟩ := exists_of_mem_mapM hread hc
        exact Credential.ofJson?_toJson (Credential.isKept_of_ofJson? hitem)
          (Credential.namesNoId_of_ofJson? hitem)
      rw [ofJson_of_credentials hread]
      exact ofJson_of_credentials hwritten
    | none =>
      have hkept : ofJson (.list (items.map Json.canonical)) = ofJson (.list items) := by
        rw [← Json.canonical_list, ofJson_canonical h]
      rw [ofJson_of_mixed hread] at hkept ⊢
      exact hkept

end ClaimValue

namespace Participant

variable [DateFormat]

theorem exists_value_of_mem_claims {json : Json} (hjson : json.isDistinct = true) {p : Participant}
    (h : ofJson? json = some p) :
    ∀ e ∈ p.claims.entries, ∃ value : Json, value.isDistinct = true ∧ e.2 = .ofJson value := by
  simp only [ofJson?, Option.bind_eq_bind, Option.bind_eq_some_iff] at h
  obtain ⟨entries, hentries, identity, -, claims, hclaims, hp⟩ := h
  cases hp
  intro e he
  have hdistinct : ∀ e ∈ entries, e.2.isDistinct = true := by
    rcases Json.entries?_canonical fields 0 hjson with ⟨-, hnone⟩ | ⟨kept, others, -, hsome, hkeeps⟩
    · rw [hnone] at hentries
      cases hentries
    · rw [hsome] at hentries
      cases hentries
      exact hkeeps.distinct
  rcases Entries.withDefault?_eq_some hclaims with rfl | ⟨source, hsource, hread⟩
  · cases he
  · have hvalue := hdistinct source hsource
    unfold claimsOfJson? at hread
    split at hread
    · next members hmembers =>
      cases hread
      obtain ⟨member, hmember, rfl⟩ := List.mem_map.1 (Members.mem_ofList he)
      rw [hmembers] at hvalue
      exact ⟨member.2, ((Json.isDistinct_object members).1 hvalue).2 member hmember, rfl⟩
    · cases hread

theorem ofJson?_toJson {p : Participant}
    (h : ∀ e ∈ p.claims.entries, ClaimValue.ofJson e.2.toJson = e.2) :
    ofJson? p.toJson = some p := by
  obtain ⟨entries, hjson, hidentity, hclaims⟩ : ∃ entries : Entries, p.toJson = .object entries ∧
      entries.valuesOf ["identity"] = p.identity.toList.map .text ∧
      entries.valuesOf ["claims"] =
        [.object (p.claims.entries.map fun e => (e.1, e.2.toJson))] := by
    refine ⟨_, rfl, ?_, ?_⟩ <;> simp
  have hentries : (Json.object entries).entries? fields 0 = some entries := rfl
  have hreadIdentity : entries.optional? ["identity"] Json.text? = some p.identity :=
    Entries.optional?_of_valuesOf hidentity (by simp) fun _ => rfl
  have hreadClaims : claimsOfJson? (.object (p.claims.entries.map fun e => (e.1, e.2.toJson))) =
      some p.claims := by
    rw [claimsOfJson?, List.map_map]
    refine congrArg some ?_
    calc Members.ofList (p.claims.entries.map _)
        = Members.ofList (p.claims.entries.map id) :=
          congrArg _ (List.map_congr_left fun e he => congrArg (e.1, ·) (h e he))
      _ = p.claims := by rw [List.map_id, Members.ofList_entries]
  simp only [hjson, ofJson?, hentries, hreadIdentity, Entries.withDefault?_of_valuesOf hclaims,
    hreadClaims, Option.bind_eq_bind, Option.bind_some]
  rfl

end Participant

def Document.Settles (α : Type) [Document α] : Prop :=
  ∀ (json : Json) (a : α), json.isDistinct = true → decode? json = some a →
    decode? (encode a) = some a

theorem Credential.settles [DateFormat] [LawfulDateFormat] :
    Document.Settles Credential := fun _ _ _ h =>
  ofJson?_toJson (isKept_of_ofJson? h) (namesNoId_of_ofJson? h)

theorem Issuer.settles : Document.Settles Issuer := by
  intro json i _ h
  obtain ⟨hkept, hid⟩ := properties_of_ofJson? h
  exact ofJson?_toJson hkept hid

theorem CredentialSubject.settles : Document.Settles CredentialSubject := by
  intro json s _ h
  obtain ⟨hkept, hid⟩ := claims_of_ofJson? h
  exact ofJson?_toJson hkept hid

theorem ClaimValue.settles [DateFormat] [LawfulDateFormat] : Document.Settles ClaimValue := by
  intro json claim hjson h
  obtain rfl : ofJson json = claim := Option.some.inj h
  exact congrArg some (ofJson_toJson_ofJson hjson)

theorem Participant.settles [DateFormat] [LawfulDateFormat] : Document.Settles Participant := by
  intro json p hjson h
  refine ofJson?_toJson fun e he => ?_
  obtain ⟨value, hvalue, hclaim⟩ := exists_value_of_mem_claims hjson h e he
  rw [hclaim, ClaimValue.ofJson_toJson_ofJson hvalue]

theorem credential_round_trip [DateFormat] [LawfulDateFormat] :
    (∀ c : Credential, c.IsKept →
      (Document.decode? (Document.encode c) = some c ↔
        c.issuer.properties.get? "id" = none ∧ ∀ s ∈ c.subjects, s.claims.get? "id" = none)) ∧
    (∀ (json : Json) (c : Credential), Document.decode? json = some c → c.IsKept) ∧
    Document.Settles Credential ∧ Document.Settles Issuer ∧ Document.Settles CredentialSubject ∧
    Document.Settles ClaimValue ∧ Document.Settles Participant ∧
    ∀ json : Json, json.isDistinct = true →
      (∀ claim : ClaimValue, Document.decode? json = some claim → claim.IsTyped) ∧
      ∀ p : Participant, Document.decode? json = some p →
        ∀ e ∈ p.claims.entries, e.2.IsTyped := by
  refine ⟨fun c hkept => ?_, fun json c => Credential.isKept_of_ofJson?, Credential.settles,
    Issuer.settles, CredentialSubject.settles, ClaimValue.settles, Participant.settles,
    fun json hjson => ⟨fun claim h => ?_, fun p h e he => ?_⟩⟩
  · exact (Credential.ofJson?_toJson_iff hkept).trans ⟨fun h => ⟨h.issuer, h.subjects⟩,
      fun h => ⟨h.1, h.2⟩⟩
  · obtain rfl : ClaimValue.ofJson json = claim := Option.some.inj h
    exact ClaimValue.isTyped_ofJson hjson
  · obtain ⟨value, hvalue, hclaim⟩ := Participant.exists_value_of_mem_claims hjson h e he
    exact hclaim ▸ ClaimValue.isTyped_ofJson hvalue

theorem credential_round_trip_shadowed :
    let named := CredentialSubject.named "did:web:a"
    let issued : Instant := ⟨⟨⟨12025, 1, 31⟩, 23, 59, 60, 5000000⟩, by decide⟩
    let plain : Credential :=
      { Credential.ofTypes ["MembershipCredential"] (.named "did:web:issuer") with
        issuanceDate := some issued, subjects := [named.withClaim "level" (.int 2)] }
    let shadowed : Credential := { plain with subjects := [named.withClaim "id" (.int 2)] }
    let value : Json :=
      .list [.int 42, .object [("type", .text "A"), ("issuer", .text "did:web:issuer")]]
    let claim := ClaimValue.ofJson value
    plain.IsKept ∧ shadowed.IsKept ∧ Document.decode? (Document.encode plain) = some plain ∧
      Document.decode? (Document.encode shadowed) ≠ some shadowed ∧
      Document.decode? (Document.encode claim) = some claim ∧ claim.IsTyped := by
  intro named issued plain shadowed value claim
  have hkept (name : String) :
      (CredentialSubject.claims (named.withClaim name (.int 2))).IsKept := by
    intro e he
    obtain rfl : e = (name, .int 2) := List.mem_singleton.1 he
    rfl
  have hissuer : plain.issuer.properties.IsKept := fun e he => nomatch he
  have hplain : plain.IsKept := ⟨hissuer, by simpa [plain] using hkept "level"⟩
  have hshadowed : shadowed.IsKept := ⟨hissuer, by simpa [shadowed] using hkept "id"⟩
  obtain ⟨hread, -, -, -, -, hclaims, -, htyped⟩ := credential_round_trip
  refine ⟨hplain, hshadowed, (hread plain hplain).2 ⟨rfl, ?_⟩, fun h => ?_,
    hclaims value claim (by decide) rfl, (htyped value (by decide)).1 _ rfl⟩
  · simp only [plain, List.mem_singleton, forall_eq]
    decide +kernel
  · have hid := ((hread shadowed hshadowed).1 h).2 _ List.mem_cons_self
    cases hid

end CredentialPolicy
