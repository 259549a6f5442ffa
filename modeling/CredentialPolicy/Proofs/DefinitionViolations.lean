import Mathlib.Data.List.DropRight
import CredentialPolicy.Proofs.CredentialScopes
import CredentialPolicy.Proofs.DefinitionCheck

namespace CredentialPolicy

namespace Text

def IsLastSegment (separators : List Char) (text segment : String) : Prop :=
  (∀ c ∈ segment.toList, c ∉ separators) ∧
    ∃ start, text = start ++ segment ∧ ∀ c ∈ start.toList.getLast?, c ∈ separators

theorem isLastSegment_lastSegment (separators : List Char) (text : String) :
    IsLastSegment separators text (lastSegment separators text) := by
  let inSegment : Char → Bool := fun c => !separators.contains c
  have hsegment : (lastSegment separators text).toList = text.toList.rtakeWhile inSegment :=
    String.toList_ofList
  refine ⟨fun c hc => ?_, String.ofList (text.toList.rdropWhile inSegment), ?_, fun c hc => ?_⟩
  · rw [hsegment] at hc
    simpa [inSegment] using List.mem_rtakeWhile_imp hc
  · apply String.toList_inj.1
    rw [String.toList_append, String.toList_ofList, hsegment, List.rdropWhile_append_rtakeWhile]
  · rw [String.toList_ofList] at hc
    have hne : text.toList.rdropWhile inSegment ≠ [] := fun hnil => by simp [hnil] at hc
    rw [List.getLast?_eq_some_getLast hne] at hc
    obtain rfl := Option.some_inj.1 hc
    simpa [inSegment] using List.rdropWhile_last_not inSegment _ hne

theorem lastSegment_eq_iff {separators : List Char} {text segment : String} :
    lastSegment separators text = segment ↔ IsLastSegment separators text segment := by
  constructor
  · rintro rfl
    exact isLastSegment_lastSegment separators text
  · rintro ⟨hsegment, start, rfl, hstart⟩
    exact lastSegment_append hstart (by simpa using hsegment)

theorem slash_not_mem_toString (i : Nat) : '/' ∉ (toString i).toList := by
  rw [Nat.toString_eq_repr, Nat.toList_repr]
  intro h
  exact absurd (Nat.isDigit_of_mem_toDigits (by decide) (by decide) h) (by decide)

theorem toString_inj {i j : Nat} (h : toString i = toString j) : i = j := by
  rw [Nat.toString_eq_repr, Nat.toString_eq_repr, ← String.toList_inj, Nat.toList_repr,
    Nat.toList_repr] at h
  rw [← Nat.ofDigitChars_toDigits (b := 10) (n := i) (by decide) (by decide), h,
    Nat.ofDigitChars_toDigits (by decide) (by decide)]

theorem index_append_inj {i j : Nat} {rest other : String}
    (h : toString i ++ "/" ++ rest = toString j ++ "/" ++ other) : i = j ∧ rest = other := by
  have hbefore (i : Nat) (rest : String) : before '/' (toString i ++ "/" ++ rest) = toString i :=
    before_append_singleton (slash_not_mem_toString i) rest
  have hindex := hbefore i rest
  rw [h, hbefore j other] at hindex
  obtain rfl := toString_inj hindex.symm
  exact ⟨rfl, (String.append_right_inj _).1 h⟩

end Text

theorem pairwise_zipIdx {α : Type} (items : List α) :
    items.zipIdx.Pairwise fun a b => a.2 < b.2 := by
  rw [← List.pairwise_map, List.zipIdx_map_snd]
  exact List.pairwise_lt_range'

structure Constraint.Offends (didStart : String) (c : Constraint) : Prop where
  partner : ∃ segment, Text.IsLastSegment ['/', '#', ':'] c.leftOperand segment ∧
    Text.sameIgnoringAsciiCase segment Vocabulary.businessPartnerDid = true
  value : ∃ value ∈ c.rightOperand.values, ¬ ∃ rest, value = didStart ++ rest

def Policy.constraintAt? (p : Policy) (place : Nat × Nat) : Option Constraint :=
  p.permissions[place.1]?.bind (·.constraints[place.2]?)

theorem Policy.constraintAt?_eq_some_iff {p : Policy} {place : Nat × Nat} {c : Constraint} :
    p.constraintAt? place = some c ↔
      ∃ permission, p.permissions[place.1]? = some permission ∧
        permission.constraints[place.2]? = some c :=
  Option.bind_eq_some_iff

namespace PolicyDefinition

theorem selectsPartner_iff (leftOperand : String) :
    selectsPartner leftOperand = true ↔
      ∃ segment, Text.IsLastSegment ['/', '#', ':'] leftOperand segment ∧
        Text.sameIgnoringAsciiCase segment Vocabulary.businessPartnerDid = true := by
  simp only [← Text.lastSegment_eq_iff, exists_eq_left']
  rfl

theorem offends_iff (didStart : String) (c : Constraint) :
    c.Offends didStart ↔
      (selectsPartner c.leftOperand &&
        c.rightOperand.values.any (!Text.begins didStart ·)) = true := by
  have hvalue : c.rightOperand.values.any (!Text.begins didStart ·) = true ↔
      ∃ value ∈ c.rightOperand.values, ¬ ∃ rest, value = didStart ++ rest := by
    simp only [List.any_eq_true, ← Text.begins_iff, Bool.not_eq_true, Bool.not_eq_true']
  rw [Bool.and_eq_true, selectsPartner_iff, hvalue]
  exact ⟨fun h => ⟨h.partner, h.value⟩, fun h => ⟨h.1, h.2⟩⟩

instance (didStart : String) (c : Constraint) : Decidable (c.Offends didStart) :=
  decidable_of_iff _ (offends_iff didStart c).symm

def selectorViolation (didStart : String) (place : Nat × Nat) : Violation :=
  let path := rightOperandPath place.1 place.2
  ⟨path ++ " should start with " ++ didStart, path⟩

theorem checkSelector_eq (didStart : String) (i j : Nat) (c : Constraint) :
    checkSelector didStart i j c =
      if c.Offends didStart then [selectorViolation didStart (i, j)] else [] := by
  simp only [checkSelector, ← offends_iff]
  rfl

def offendingPlacesIn (didStart : String) (p : Permission × Nat) : List (Nat × Nat) :=
  p.1.constraints.zipIdx.flatMap fun c => if c.1.Offends didStart then [(p.2, c.2)] else []

def offendingPlaces (didStart : String) (d : PolicyDefinition) : List (Nat × Nat) :=
  d.policy.permissions.zipIdx.flatMap (offendingPlacesIn didStart)

theorem checkSelectors_eq_map (didStart : String) (d : PolicyDefinition) :
    d.checkSelectors didStart = (d.offendingPlaces didStart).map (selectorViolation didStart) := by
  rw [offendingPlaces, List.map_flatMap]
  refine List.flatMap_congr fun p _ => ?_
  rw [offendingPlacesIn, List.map_flatMap]
  refine List.flatMap_congr fun c _ => ?_
  rw [apply_ite (List.map _)]
  exact checkSelector_eq didStart p.2 c.2 c.1

theorem mem_offendingPlacesIn_iff (didStart : String) (p : Permission × Nat) (place : Nat × Nat) :
    place ∈ offendingPlacesIn didStart p ↔
      place.1 = p.2 ∧ ∃ c, p.1.constraints[place.2]? = some c ∧ c.Offends didStart := by
  obtain ⟨i, j⟩ := place
  simp only [offendingPlacesIn, List.mem_flatMap, List.mem_zipIdx_iff_getElem?,
    List.mem_ite_nil_right, List.mem_singleton, Prod.mk.injEq]
  constructor
  · rintro ⟨c, hc, hoffends, hi, rfl⟩
    exact ⟨hi, c.1, hc, hoffends⟩
  · rintro ⟨hi, c, hc, hoffends⟩
    exact ⟨(c, j), hc, hoffends, hi, rfl⟩

theorem mem_offendingPlaces_iff (didStart : String) (d : PolicyDefinition) (place : Nat × Nat) :
    place ∈ d.offendingPlaces didStart ↔
      ∃ c, d.policy.constraintAt? place = some c ∧ c.Offends didStart := by
  simp only [offendingPlaces, List.mem_flatMap, List.mem_zipIdx_iff_getElem?,
    mem_offendingPlacesIn_iff, Policy.constraintAt?_eq_some_iff]
  constructor
  · rintro ⟨p, hp, hi, c, hc, hoffends⟩
    rw [← hi] at hp
    exact ⟨c, ⟨p.1, hp, hc⟩, hoffends⟩
  · rintro ⟨c, ⟨p, hp, hc⟩, hoffends⟩
    exact ⟨(p, place.1), hp, rfl, c, hc, hoffends⟩

theorem pairwise_flatMap_zipIdx {α β : Type} {r : β → β → Prop} {f : α × Nat → List β}
    (hone : ∀ a, (f a).Pairwise r)
    (htwo : ∀ a b, a.2 < b.2 → ∀ x ∈ f a, ∀ y ∈ f b, r x y) (items : List α) :
    (items.zipIdx.flatMap f).Pairwise r :=
  List.pairwise_flatMap.2 ⟨fun a _ => hone a, (pairwise_zipIdx items).imp (htwo _ _)⟩

theorem pairwise_offendingPlacesIn (didStart : String) (p : Permission × Nat) :
    (offendingPlacesIn didStart p).Pairwise (Prod.Lex (· < ·) (· < ·)) := by
  apply pairwise_flatMap_zipIdx
  · intro c
    split <;> simp
  · intro c other hlt x hx y hy
    obtain rfl := List.mem_singleton.1 (List.mem_ite_nil_right.1 hx).2
    obtain rfl := List.mem_singleton.1 (List.mem_ite_nil_right.1 hy).2
    exact .right _ hlt

theorem pairwise_offendingPlaces (didStart : String) (d : PolicyDefinition) :
    (d.offendingPlaces didStart).Pairwise (Prod.Lex (· < ·) (· < ·)) := by
  apply pairwise_flatMap_zipIdx (pairwise_offendingPlacesIn didStart)
  intro p other hlt x hx y hy
  obtain ⟨hxp, -⟩ := (mem_offendingPlacesIn_iff didStart p x).1 hx
  obtain ⟨hyp, -⟩ := (mem_offendingPlacesIn_iff didStart other y).1 hy
  apply Prod.lex_def.2
  left
  rwa [hxp, hyp]

theorem rightOperandPath_inj {i j k l : Nat} (h : rightOperandPath i j = rightOperandPath k l) :
    i = k ∧ j = l := by
  have hsteps (i j : Nat) : rightOperandPath i j = "policy/permission/" ++ (toString i ++ "/" ++
      ("constraint/" ++ (toString j ++ "/" ++ "rightOperand"))) := by
    unfold rightOperandPath
    apply String.toList_inj.1
    simp
  rw [hsteps, hsteps, String.append_right_inj] at h
  obtain ⟨hi, h⟩ := Text.index_append_inj h
  exact ⟨hi, (Text.index_append_inj ((String.append_right_inj _).1 h)).1⟩

def IsUnnamed (d : PolicyDefinition) : Prop :=
  ∀ id, d.id = some id → ∀ c ∈ id.toList, Text.isBlankChar c = true

theorem isUnnamed_iff (d : PolicyDefinition) : d.IsUnnamed ↔ d.id.all Text.isBlank = true := by
  cases hid : d.id <;> simp [IsUnnamed, hid, Text.isBlank]

instance (d : PolicyDefinition) : Decidable d.IsUnnamed :=
  decidable_of_iff _ d.isUnnamed_iff.symm

theorem checkForm_eq {config : Configuration} (hon : config.checksDidSelectors = true)
    (d : PolicyDefinition) :
    d.checkForm config =
      (if d.IsUnnamed then [⟨"mandatory value '@id' is missing or it is blank", "@id"⟩] else []) ++
      (if d.policy.permissions = [] then [⟨"No permission constraints added", "policy/permission"⟩]
        else []) ++
      (d.offendingPlaces config.didStart).map (selectorViolation config.didStart) := by
  simp only [checkForm, if_pos hon, checkId, checkPermissions, checkSelectors_eq_map,
    isUnnamed_iff, List.isEmpty_iff]

theorem checkForm_at_places (config : Configuration) (d : PolicyDefinition) :
    let path (place : Nat × Nat) := "policy/permission/" ++ toString place.1 ++ "/constraint/" ++
      toString place.2 ++ "/rightOperand"
    (config.checksDidSelectors = true →
      ∃ places : List (Nat × Nat), places.Pairwise (Prod.Lex (· < ·) (· < ·)) ∧
        (∀ place, place ∈ places ↔
          ∃ c, d.policy.constraintAt? place = some c ∧ c.Offends config.didStart) ∧
        d.checkForm config =
          (if d.IsUnnamed then [⟨"mandatory value '@id' is missing or it is blank", "@id"⟩]
            else []) ++
          (if d.policy.permissions = [] then
            [⟨"No permission constraints added", "policy/permission"⟩] else []) ++
          places.map (fun place =>
            ⟨path place ++ " should start with " ++ config.didStart, path place⟩) ∧
        (d.checkForm config = [] ↔
          ¬ d.IsUnnamed ∧ d.policy.permissions ≠ [] ∧ places = [])) ∧
    Function.Injective path ∧
    (config.checksDidSelectors = false → d.checkForm config = []) := by
  intro path
  refine ⟨fun hon => ?_, fun place other h => ?_, fun hoff => ?_⟩
  · refine ⟨d.offendingPlaces config.didStart, d.pairwise_offendingPlaces config.didStart,
      d.mem_offendingPlaces_iff config.didStart, checkForm_eq hon d, ?_⟩
    rw [checkForm_eq hon d, List.append_eq_nil_iff, List.append_eq_nil_iff, List.map_eq_nil_iff,
      and_assoc]
    simp
  · obtain ⟨hpermission, hconstraint⟩ := rightOperandPath_inj h
    exact Prod.ext hpermission hconstraint
  · rw [checkForm, hoff, if_neg Bool.false_ne_true]

theorem checkForm_at_places_mixed :
    let dids : Constraint := ⟨"BusinessPartnerDID", .isAnyOf, .list ["did:web:a.example"]⟩
    let mixed : Constraint :=
      ⟨"urn:x#businessPARTNERdid", .isAnyOf, .list ["did:web:a.example", "BPNL0001"]⟩
    let number : Constraint := ⟨"MyBusinessPartnerDID", .eq, .scalar "BPNL0001"⟩
    let d : PolicyDefinition :=
      ⟨some " \t", ⟨[⟨"use", [dids, mixed]⟩, ⟨"use", []⟩, ⟨"use", [number, dids, mixed]⟩]⟩⟩
    (∃ places : List (Nat × Nat), places.Pairwise (Prod.Lex (· < ·) (· < ·)) ∧
      (0, 1) ∈ places ∧ (2, 2) ∈ places ∧ (0, 0) ∉ places ∧ (2, 0) ∉ places) ∧
    (d.checkForm {}).map (·.path) =
      ["@id", "policy/permission/0/constraint/1/rightOperand",
        "policy/permission/2/constraint/2/rightOperand"] ∧
    d.checkForm { checksDidSelectors := false } = [] := by
  intro dids mixed number d
  obtain ⟨places, hordered, hmem, -⟩ := (checkForm_at_places {} d).1 rfl
  have hother {place : Nat × Nat} {c : Constraint} (hc : d.policy.constraintAt? place = some c)
      (hnot : ¬ c.Offends Vocabulary.webDid) : place ∉ places := by
    intro h
    obtain ⟨offending, hplace, hoffends⟩ := (hmem place).1 h
    obtain rfl := Option.some_inj.1 (hc.symm.trans hplace)
    exact hnot hoffends
  refine ⟨⟨places, hordered, ?_, ?_, ?_, ?_⟩, ?_, ?_⟩
  · exact (hmem _).2 ⟨mixed, rfl, by decide +kernel⟩
  · exact (hmem _).2 ⟨mixed, rfl, by decide +kernel⟩
  · exact hother (c := dids) rfl (by decide +kernel)
  · exact hother (c := number) rfl (by decide +kernel)
  · decide +kernel
  · exact (checkForm_at_places { checksDidSelectors := false } d).2.2 rfl

end PolicyDefinition

end CredentialPolicy
