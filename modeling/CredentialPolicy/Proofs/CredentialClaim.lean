import Mathlib.Data.List.Basic
import CredentialPolicy.Proofs.Noninterference
import CredentialPolicy.Proofs.RecordReading

namespace CredentialPolicy

theorem Json.typeName_canonical (json : Json) : json.canonical.typeName = json.typeName := by
  cases json <;> rfl

namespace ClaimValue

variable [DateFormat]

theorem ofJson_of_credentials {items : List Json} {list : List Credential}
    (h : items.mapM Credential.ofJson? = some list) : ofJson (.list items) = credentials list := by
  rw [ofJson, h]

theorem ofJson_of_mixed {items : List Json} (h : items.mapM Credential.ofJson? = none) :
    ofJson (.list items) = json (.list (items.map Json.canonical)) := by
  rw [ofJson, h, Json.canonical_list]

theorem typeName_ofJson {value : Json} (h : Participant.credentialsIn (ofJson value) = none) :
    (ofJson value).typeName = value.typeName := by
  cases value with
  | null | bool | int | decimal | text => rfl
  | object members => exact Json.typeName_canonical (.object members)
  | list items =>
    cases hread : items.mapM Credential.ofJson? with
    | some list => simp [ofJson_of_credentials hread, Participant.credentialsIn] at h
    | none => rw [ofJson_of_mixed hread]; rfl

end ClaimValue

namespace Participant

variable [DateFormat]

theorem credentialsIn_list (items : List Json) :
    credentialsIn (.json (.list items)) =
      if items.filterMap Credential.ofJson? = [] ∧ items ≠ [] then none
      else some (items.filterMap Credential.ofJson?) := by
  simp [credentialsIn]

theorem credentialsIn_ofJson {value : Json} (h : value.isDistinct = true) :
    credentialsIn (.ofJson value) = credentialsIn (.json value) := by
  cases value with
  | null | bool | int | decimal | text | object => rfl
  | list items =>
    rw [credentialsIn_list]
    cases hread : items.mapM Credential.ofJson? with
    | some list =>
      have hlength : list.length = items.length := by
        simpa using congrArg List.length (mapM_eq_some_iff.1 hread).symm
      have hempty : ¬(list = [] ∧ items ≠ []) := by
        rintro ⟨rfl, hitems⟩
        exact hitems (List.length_eq_zero_iff.1 hlength.symm)
      rw [ClaimValue.ofJson_of_credentials hread, filterMap_eq_of_mapM hread, if_neg hempty]
      rfl
    | none =>
      -- what is kept of the items decodes as they do
      have hkept : (items.map Json.canonical).filterMap Credential.ofJson? =
          items.filterMap Credential.ofJson? := by
        rw [List.filterMap_map]
        refine List.filterMap_congr fun item hitem => ?_
        exact Credential.readsKept item ((Json.isDistinct_list items).1 h item hitem)
      rw [ClaimValue.ofJson_of_mixed hread, credentialsIn_list, hkept]
      simp

theorem credentials_of_decoded {p q : Participant} {value : Json} (hvalue : value.isDistinct = true)
    (hp : p.claims.get? Vocabulary.credentialClaim = some (.ofJson value))
    (hq : q.claims.get? Vocabulary.credentialClaim = some (.json value)) :
    p.credentials = q.credentials := by
  have hsame := credentialsIn_ofJson hvalue
  cases hin : credentialsIn (.ofJson value) with
  | none =>
    rw [credentials_of_none hp hin, credentials_of_none hq (hsame ▸ hin),
      ClaimValue.typeName_ofJson hin]
    rfl
  | some list => rw [credentials_of_some hp hin, credentials_of_some hq (hsame ▸ hin)]

end Participant

theorem PolicyEngine.evaluatePolicy_congr [DateFormat] (engine : PolicyEngine)
    (bindings : RuleBindings) (policy : Policy) (scope : PolicyScope) (problems : List Problem)
    {p q : Participant} (hidentity : p.identity = q.identity)
    (hcredentials : p.credentials = q.credentials) :
    let result := engine.evaluatePolicy bindings policy ⟨scope, some p, problems⟩
    let other := engine.evaluatePolicy bindings policy ⟨scope, some q, problems⟩
    result.1 = other.1 ∧ result.2.problems = other.2.problems := by
  intro result other
  have hdecide := engine.decide_congr bindings scope hidentity (.of_credentials hcredentials)
  have hresult : result = _ := evaluatePolicy_eq engine bindings policy ⟨scope, some p, problems⟩
  have hother : other = _ := evaluatePolicy_eq engine bindings policy ⟨scope, some q, problems⟩
  rw [hresult, hother]
  simp [hdecide]

theorem decoded_claim_eq_raw [DateFormat] {value : Json} (hvalue : value.isDistinct = true)
    {p q : Participant} (hidentity : p.identity = q.identity)
    (hp : p.claims.get? Vocabulary.credentialClaim = some (.ofJson value))
    (hq : q.claims.get? Vocabulary.credentialClaim = some (.json value)) :
    p.credentials = q.credentials ∧
      ∀ (engine : PolicyEngine) (bindings : RuleBindings) (policy : Policy) (scope : PolicyScope)
        (problems : List Problem),
        let result := engine.evaluatePolicy bindings policy ⟨scope, some p, problems⟩
        let other := engine.evaluatePolicy bindings policy ⟨scope, some q, problems⟩
        result.1 = other.1 ∧ result.2.problems = other.2.problems := by
  have hcredentials := Participant.credentials_of_decoded hvalue hp hq
  refine ⟨hcredentials, fun engine bindings policy scope problems => ?_⟩
  exact engine.evaluatePolicy_congr bindings policy scope problems hidentity hcredentials

theorem decoded_claim_eq_raw_mixed :
    let membership : Json :=
      .object [("type", .text "MembershipCredential"), ("issuer", .text "did:web:issuer")]
    let value : Json := .list [.int 42, membership]
    let plain : Participant := ⟨some "did:web:a", .empty⟩
    let p := plain.withClaim Vocabulary.credentialClaim (.ofJson value)
    let q := plain.withClaim Vocabulary.credentialClaim (.json value)
    let policy : Policy :=
      ⟨[⟨"use", [⟨Vocabulary.policyNamespace ++ "Membership", .eq, .scalar "active"⟩]⟩]⟩
    let result := (configured {}).1.evaluatePolicy (configured {}).2 policy ⟨.catalog, some p, []⟩
    let other := (configured {}).1.evaluatePolicy (configured {}).2 policy ⟨.catalog, some q, []⟩
    value.isDistinct = true ∧ p.credentials = q.credentials ∧ result.1 = other.1 ∧
      result.2.problems = other.2.problems ∧ other.1 = true := by
  intro membership value plain p q policy result other
  have hdistinct : value.isDistinct = true := by decide
  have hp : p.claims.get? Vocabulary.credentialClaim = some (.ofJson value) := rfl
  have hq : q.claims.get? Vocabulary.credentialClaim = some (.json value) := rfl
  have hidentity : p.identity = q.identity := rfl
  obtain ⟨hcredentials, hsame⟩ := decoded_claim_eq_raw hdistinct hidentity hp hq
  obtain ⟨hgranted, hproblems⟩ := hsame (configured {}).1 (configured {}).2 policy .catalog []
  exact ⟨hdistinct, hcredentials, hgranted, hproblems, by decide +kernel⟩

def claimsWith (before after : Entries) (items : List Json) : Json :=
  .object (before ++ (Vocabulary.credentialClaim, .list items) :: after)

/-- The documents of a participant, one with the first and one with the second list of values for
credentials and the same in all else. -/
inductive Presents (items others : List Json) : Json → Json → Prop
  | object (before after claimsBefore claimsAfter : Entries) :
      Presents items others
        (.object (before ++ ("claims", claimsWith claimsBefore claimsAfter items) :: after))
        (.object (before ++ ("claims", claimsWith claimsBefore claimsAfter others) :: after))
  | list (identity : Json) (claimsBefore claimsAfter : Entries) :
      Presents items others (.list [identity, claimsWith claimsBefore claimsAfter items])
        (.list [identity, claimsWith claimsBefore claimsAfter others])

namespace Participant

variable [DateFormat]

def claimsOf (before after : Entries) (items : List Json) : Members ClaimValue :=
  Members.ofList ((before ++ (Vocabulary.credentialClaim, .list items) :: after).map fun e =>
    (e.1, ClaimValue.ofJson e.2))

theorem ofJson?_between (before after : Entries) :
    (∀ value, ofJson? (.object (before ++ ("claims", value) :: after)) = none) ∨
      ∃ identity, ∀ value, ofJson? (.object (before ++ ("claims", value) :: after)) =
        (claimsOfJson? value).map (⟨identity, ·⟩) := by
  have hidentity (value : Json) :
      Entries.optional? (before ++ ("claims", value) :: after) ["identity"] Json.text? =
        Entries.optional? (before ++ after) ["identity"] Json.text? := by
    simp [Entries.optional?, Entries.valuesOf]
  have hclaims (value : Json) :
      Entries.valuesOf (before ++ ("claims", value) :: after) ["claims"] =
        before.valuesOf ["claims"] ++ value :: after.valuesOf ["claims"] := by
    simp [Entries.valuesOf]
  have hread (value : Json) : ofJson? (.object (before ++ ("claims", value) :: after)) =
      (Entries.optional? (before ++ after) ["identity"] Json.text?).bind fun identity =>
        (Entries.withDefault? (before ++ ("claims", value) :: after) ["claims"] .empty
          claimsOfJson?).map (⟨identity, ·⟩) := by
    simp only [← hidentity value, Option.map_eq_bind]
    rfl
  cases hid : Entries.optional? (before ++ after) ["identity"] Json.text? with
  | none => exact .inl fun value => by rw [hread, hid, Option.bind_none]
  | some identity =>
    by_cases hsingle : before.valuesOf ["claims"] = [] ∧ after.valuesOf ["claims"] = []
    · refine .inr ⟨identity, fun value => ?_⟩
      rw [hread, hid, Option.bind_some, Entries.withDefault?, hclaims, hsingle.1, hsingle.2]
      rfl
    · refine .inl fun value => ?_
      have hlength : 2 ≤ (Entries.valuesOf (before ++ ("claims", value) :: after)
          ["claims"]).length := by
        rw [hclaims, List.length_append, List.length_cons]
        rw [← List.length_eq_zero_iff, ← List.length_eq_zero_iff] at hsingle
        omega
      rw [hread, hid, Option.bind_some, Entries.withDefault?_eq_none hlength, Option.map_none]

end Participant

theorem Presents.ofJson? [DateFormat] {items others : List Json} {doc other : Json}
    (h : Presents items others doc other) :
    (Participant.ofJson? doc = none ∧ Participant.ofJson? other = none) ∨
      ∃ (identity : Option String) (before after : Entries),
        Participant.ofJson? doc = some ⟨identity, Participant.claimsOf before after items⟩ ∧
        Participant.ofJson? other = some ⟨identity, Participant.claimsOf before after others⟩ := by
  cases h with
  | object before after claimsBefore claimsAfter =>
    rcases Participant.ofJson?_between before after with hnone | ⟨identity, hread⟩
    · exact .inl ⟨hnone _, hnone _⟩
    · exact .inr ⟨identity, claimsBefore, claimsAfter, hread _, hread _⟩
  | list value claimsBefore claimsAfter =>
    -- the fields by their places are the fields by their names
    rcases Participant.ofJson?_between [("identity", value)] [] with hnone | ⟨identity, hread⟩
    · exact .inl ⟨hnone _, hnone _⟩
    · exact .inr ⟨identity, claimsBefore, claimsAfter, hread _, hread _⟩

namespace Participant

variable [DateFormat]

end Participant

end CredentialPolicy
