import CredentialPolicy.Proofs.DefinitionViolations

namespace CredentialPolicy

namespace Did

structure IsWellFormed (text : String) : Prop where
  begins : ∃ rest, text = "did:web:" ++ rest
  not_open : ¬ ∃ start, text = start ++ ":"

theorem isWebDid_iff (text : String) : isWebDid text = true ↔ IsWellFormed text := by
  simp only [isWebDid, Bool.and_eq_true, Bool.not_eq_true', Text.begins_iff,
    ← Bool.not_eq_true, Text.endsWithAny_singleton_iff]
  constructor
  · rintro ⟨⟨-, hbegins⟩, hopen⟩
    exact ⟨hbegins, hopen⟩
  · rintro ⟨hbegins, hopen⟩
    refine ⟨⟨?_, hbegins⟩, hopen⟩
    obtain ⟨rest, rfl⟩ := hbegins
    rw [Bool.not_eq_true]
    exact Text.isBlank_append_eq_false (by decide) rest

instance (text : String) : Decidable (IsWellFormed text) :=
  decidable_of_iff _ (isWebDid_iff text)

theorem check_of_isWellFormed {text : String} (h : IsWellFormed text) (path : String) :
    check text path = .ok ⟨text, (isWebDid_iff text).2 h⟩ := by
  rw [check, parse, dif_pos]

theorem check_of_not_isWellFormed {text : String} (h : ¬ IsWellFormed text) (path : String) :
    check text path = .error ⟨text ++ " should be a valid did", path⟩ := by
  rw [← isWebDid_iff] at h
  rw [check, parse, dif_neg h]

def invalidMembers (texts : List String) : List (String × Nat) :=
  texts.zipIdx.filter fun m => ¬ IsWellFormed m.1

theorem mem_invalidMembers_iff (texts : List String) (m : String × Nat) :
    m ∈ invalidMembers texts ↔ texts[m.2]? = some m.1 ∧ ¬ IsWellFormed m.1 := by
  rw [invalidMembers, List.mem_filter, List.mem_zipIdx_iff_getElem?, decide_eq_true_eq]

theorem invalidMembers_eq_nil_iff (texts : List String) :
    invalidMembers texts = [] ↔ ∀ text ∈ texts, IsWellFormed text := by
  simp only [invalidMembers, List.filter_eq_nil_iff, decide_eq_true_eq, not_not]
  exact List.forall_mem_zipIdx'.trans List.forall_mem_iff_getElem.symm

theorem pairwise_invalidMembers (texts : List String) :
    (invalidMembers texts).Pairwise fun a b => a.2 < b.2 :=
  (pairwise_zipIdx texts).filter _

theorem memberPath_inj {path : String} {i j : Nat} (h : memberPath path i = memberPath path j) :
    i = j :=
  Text.toString_inj ((String.append_right_inj _).1 h)

theorem nodup_paths_invalidMembers (texts : List String) (path : String) :
    ((invalidMembers texts).map fun m => memberPath path m.2).Nodup := by
  apply List.pairwise_map.2
  apply (pairwise_invalidMembers texts).imp
  intro a b hlt heq
  exact absurd (memberPath_inj heq) (Nat.ne_of_lt hlt)

section

variable (path : String) {texts : List String}

theorem errors_checkMembers (texts : List String) {error? : Except Violation Did → Option Violation}
    (hok : ∀ did, error? (.ok did) = none) (herror : ∀ v, error? (.error v) = some v) :
    (checkMembers path texts).filterMap error? = (invalidMembers texts).map fun m =>
      ⟨m.1 ++ " should be a valid did", memberPath path m.2⟩ := by
  rw [checkMembers, List.filterMap_map, invalidMembers, ← List.filterMap_eq_map,
    List.filterMap_filter]
  apply List.filterMap_congr
  intro m _
  by_cases h : IsWellFormed m.1
  · simp [h, check_of_isWellFormed h, hok]
  · simp [h, check_of_not_isWellFormed h, herror]

theorem texts_checkMembers (h : ∀ text ∈ texts, IsWellFormed text)
    {did? : Except Violation Did → Option Did} (hok : ∀ did, did? (.ok did) = some did) :
    ((checkMembers path texts).filterMap did?).map Did.text = texts := by
  calc ((checkMembers path texts).filterMap did?).map Did.text
      = texts.zipIdx.filterMap (fun m => some m.1) := by
        rw [checkMembers, List.filterMap_map, List.map_filterMap]
        apply List.filterMap_congr
        intro m hm
        have hmem : m.1 ∈ texts := List.fst_mem_of_mem_zipIdx hm
        simp [check_of_isWellFormed (h m.1 hmem), hok]
    _ = texts := by
        rw [List.filterMap_eq_map']
        exact List.zipIdx_map_fst 0 texts

theorem exists_checkGroup_eq (hne : texts ≠ []) :
    ∃ group : List Did, ((∀ text ∈ texts, IsWellFormed text) → group.map Did.text = texts) ∧
      checkGroup texts path = if invalidMembers texts = [] then .ok group else
        .error ((invalidMembers texts).map fun m =>
          ⟨m.1 ++ " should be a valid did", memberPath path m.2⟩) := by
  refine ⟨?group, ?texts, ?eq⟩
  case eq =>
    unfold checkGroup
    rw [if_neg (by simpa using hne)]
    dsimp only
    rw [errors_checkMembers path texts (fun _ => rfl) fun _ => rfl]
    simp only [List.isEmpty_iff, List.map_eq_nil_iff]
    rfl
  case texts =>
    intro h
    exact texts_checkMembers path h fun _ => rfl

theorem checkGroup_of_isWellFormed (hne : texts ≠ []) (h : ∀ text ∈ texts, IsWellFormed text) :
    ∃ group, checkGroup texts path = .ok group ∧ group.map Did.text = texts := by
  obtain ⟨group, htexts, hgroup⟩ := exists_checkGroup_eq path hne
  rw [if_pos ((invalidMembers_eq_nil_iff texts).2 h)] at hgroup
  exact ⟨group, hgroup, htexts h⟩

theorem checkGroup_of_invalid {text : String} (hmem : text ∈ texts) (h : ¬ IsWellFormed text) :
    checkGroup texts path = .error ((invalidMembers texts).map fun m =>
      ⟨m.1 ++ " should be a valid did", memberPath path m.2⟩) := by
  obtain ⟨group, -, hgroup⟩ := exists_checkGroup_eq path (List.ne_nil_of_mem hmem)
  rw [hgroup, if_neg]
  intro hnil
  exact h ((invalidMembers_eq_nil_iff texts).1 hnil text hmem)

end

theorem checkGroup_settled (texts : List String) (path : String) :
    ((∃ group, checkGroup texts path = .ok group) ↔
      texts ≠ [] ∧ ∀ text ∈ texts, IsWellFormed text) ∧
    (∀ group, checkGroup texts path = .ok group → group.map Did.text = texts) ∧
    checkGroup [] path = .error [⟨"array must contain at least 1 element", path⟩] ∧
    ((∃ text ∈ texts, ¬ IsWellFormed text) →
      ∃ invalid : List (String × Nat), invalid.Pairwise (fun a b => a.2 < b.2) ∧
        (∀ m, m ∈ invalid ↔ texts[m.2]? = some m.1 ∧ ¬ IsWellFormed m.1) ∧
        checkGroup texts path = .error (invalid.map fun m =>
          ⟨m.1 ++ " should be a valid did", path ++ "/" ++ toString m.2⟩) ∧
        (invalid.map fun m => path ++ "/" ++ toString m.2).Nodup) := by
  have hempty : checkGroup [] path = .error [⟨"array must contain at least 1 element", path⟩] := rfl
  have hok {group : List Did} (hgroup : checkGroup texts path = .ok group) :
      texts ≠ [] ∧ ∀ text ∈ texts, IsWellFormed text := by
    constructor
    · rintro rfl
      rw [hempty] at hgroup
      cases hgroup
    · intro text hmem
      by_contra h
      rw [checkGroup_of_invalid path hmem h] at hgroup
      cases hgroup
  refine ⟨⟨?_, ?_⟩, ?_, hempty, ?_⟩
  · rintro ⟨group, hgroup⟩
    exact hok hgroup
  · rintro ⟨hne, hall⟩
    obtain ⟨group, hgroup, -⟩ := checkGroup_of_isWellFormed path hne hall
    exact ⟨group, hgroup⟩
  · intro group hgroup
    obtain ⟨hne, hall⟩ := hok hgroup
    obtain ⟨other, hother, htexts⟩ := checkGroup_of_isWellFormed path hne hall
    obtain rfl := Except.ok.inj (hgroup.symm.trans hother)
    exact htexts
  · rintro ⟨text, hmem, h⟩
    exact ⟨invalidMembers texts, pairwise_invalidMembers texts, mem_invalidMembers_iff texts,
      checkGroup_of_invalid path hmem h, nodup_paths_invalidMembers texts path⟩

theorem checkGroup_settled_mixed :
    let valid := ["did:web:a.example", "did:web:c.example"]
    let texts := ["did:web:a.example", "BPNL0001", "did:web:b.example:", "did:web:c.example", ""]
    (∃ text ∈ texts, ¬ IsWellFormed text) ∧
      (∃ invalid : List (String × Nat), invalid.Pairwise (fun a b => a.2 < b.2) ∧
        (∀ m ∈ [("BPNL0001", 1), ("did:web:b.example:", 2), ("", 4)], m ∈ invalid) ∧
        (∀ m ∈ [("did:web:a.example", 0), ("did:web:c.example", 3)], m ∉ invalid) ∧
        checkGroup texts "dids" = .error (invalid.map fun m =>
          ⟨m.1 ++ " should be a valid did", "dids" ++ "/" ++ toString m.2⟩)) ∧
      ∃ group, checkGroup valid "dids" = .ok group ∧ group.map Did.text = valid := by
  intro valid texts
  have hfault : ∃ text ∈ texts, ¬ IsWellFormed text := ⟨"BPNL0001", by simp [texts], by decide⟩
  obtain ⟨-, -, -, hinvalid⟩ := checkGroup_settled texts "dids"
  obtain ⟨hvalid, hkept, -⟩ := checkGroup_settled valid "dids"
  refine ⟨hfault, ?_, ?_⟩
  · obtain ⟨invalid, hordered, hmem, herror, -⟩ := hinvalid hfault
    refine ⟨invalid, hordered, ?_, ?_, herror⟩
    · intro m hm
      rw [hmem]
      revert m
      decide +kernel
    · intro m hm h
      have hwellFormed : ∀ m ∈ [("did:web:a.example", 0), ("did:web:c.example", 3)],
          IsWellFormed m.1 := by
        decide +kernel
      exact ((hmem m).1 h).2 (hwellFormed m hm)
  · obtain ⟨group, hgroup⟩ := hvalid.2 ⟨by simp [valid], by decide +kernel⟩
    exact ⟨group, hgroup, hkept group hgroup⟩

end Did

end CredentialPolicy
