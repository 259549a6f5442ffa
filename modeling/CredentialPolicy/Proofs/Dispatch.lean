import CredentialPolicy.Registration

namespace CredentialPolicy

theorem Text.head?_append {text : String} (h : text ≠ "") (rest : String) :
    (text ++ rest).toList.head? = text.toList.head? := by
  obtain ⟨c, tail, hlist⟩ : ∃ c tail, text.toList = c :: tail :=
    List.exists_cons_of_ne_nil (by simpa using h)
  rw [String.toList_append, hlist]
  rfl

namespace FunctionKind

def credentialKinds : List FunctionKind :=
  [membership, certificationType]

theorem eq_businessPartnerDid {kind : FunctionKind} (h : kind ∉ credentialKinds) :
    kind = businessPartnerDid := by
  cases kind with
  | membership => exact absurd (by decide) h
  | certificationType => exact absurd (by decide) h
  | businessPartnerDid => rfl

theorem literal_ne_empty (kind : FunctionKind) : kind.literal ≠ "" := by
  cases kind <;> decide

theorem eq_of_literal_append {kind other : FunctionKind} {rest otherRest : String}
    (h : kind.literal ++ rest = other.literal ++ otherRest) : kind = other := by
  -- the literals differ in their first letters
  have hinitial : kind.literal.toList.head? = other.literal.toList.head? := by
    rw [← Text.head?_append kind.literal_ne_empty rest, h,
      Text.head?_append other.literal_ne_empty]
  revert hinitial
  cases kind <;> cases other <;> decide

theorem eq_of_businessPartnerDid {kind : FunctionKind} {start rest : String}
    (h : Vocabulary.businessPartnerDid = start ++ kind.literal ++ rest) :
    kind = businessPartnerDid := by
  have hcontains : Text.contains kind.literal Vocabulary.businessPartnerDid = true :=
    (Text.contains_iff _ _).2 ⟨start, rest, h⟩
  cases kind with
  | membership => exact absurd hcontains (by decide)
  | certificationType => exact absurd hcontains (by decide)
  | businessPartnerDid => rfl

end FunctionKind

open FunctionKind (credentialKinds)

namespace ConstraintFunction

theorem beginsInNamespace_iff (namespaceText literal leftOperand : String) :
    beginsInNamespace namespaceText literal leftOperand = true ↔
      ∃ rest, leftOperand = namespaceText ++ literal ++ rest := by
  simp only [beginsInNamespace, Option.any_eq_true, Text.after?_eq_some_iff, Text.begins_iff]
  constructor
  · rintro ⟨name, rfl, rest, rfl⟩
    exact ⟨rest, String.append_assoc.symm⟩
  · rintro ⟨rest, rfl⟩
    exact ⟨literal ++ rest, String.append_assoc, rest, rfl⟩

theorem handles_iff {f : ConstraintFunction} (h : f.kind ∈ credentialKinds)
    (leftOperand : String) :
    f.handles leftOperand = true ↔
      ∃ rest, leftOperand = f.config.policyNamespace ++ f.kind.literal ++ rest := by
  rw [← beginsInNamespace_iff]
  unfold handles
  split
  · next hkind => simp [hkind, credentialKinds] at h
  · rfl

theorem handles_partner_iff {f : ConstraintFunction} (h : f.kind = .businessPartnerDid)
    (leftOperand : String) :
    f.handles leftOperand = true ↔
      leftOperand = Vocabulary.businessPartnerDid ∨
        leftOperand = f.config.policyNamespace ++ Vocabulary.businessPartnerDid := by
  simp [handles, h]

theorem eq_of_handles {f : ConstraintFunction} {leftOperand : String}
    (h : f.handles leftOperand = true) :
    (f.kind = .businessPartnerDid ∧ leftOperand = Vocabulary.businessPartnerDid) ∨
      ∃ rest, leftOperand = f.config.policyNamespace ++ f.kind.literal ++ rest := by
  by_cases hkind : f.kind ∈ credentialKinds
  · exact .inr ((handles_iff hkind leftOperand).1 h)
  · have hpartner := FunctionKind.eq_businessPartnerDid hkind
    rcases (handles_partner_iff hpartner leftOperand).1 h with h | h
    · exact .inl ⟨hpartner, h⟩
    · exact .inr ⟨"", by simp [h, hpartner, FunctionKind.literal]⟩

theorem kind_eq_of_handles {f g : ConstraintFunction} (hconfig : f.config = g.config)
    {leftOperand : String} (hf : f.handles leftOperand = true)
    (hg : g.handles leftOperand = true) : f.kind = g.kind := by
  rcases eq_of_handles hf with ⟨hfkind, hbare⟩ | ⟨rest, hrest⟩
  · rcases eq_of_handles hg with ⟨hgkind, -⟩ | ⟨rest, hrest⟩
    · rw [hfkind, hgkind]
    · rw [hfkind, FunctionKind.eq_of_businessPartnerDid (hbare.symm.trans hrest)]
  · rcases eq_of_handles hg with ⟨hgkind, hbare⟩ | ⟨otherRest, hother⟩
    · rw [hgkind, FunctionKind.eq_of_businessPartnerDid (hbare.symm.trans hrest)]
    · rw [hrest, hconfig, String.append_assoc, String.append_assoc] at hother
      exact FunctionKind.eq_of_literal_append ((String.append_right_inj _).1 hother)

theorem eq_of_handles_same {f g : ConstraintFunction} (hconfig : f.config = g.config)
    {leftOperand : String} (hf : f.handles leftOperand = true)
    (hg : g.handles leftOperand = true) : f = g := by
  have hkind : f.kind = g.kind := kind_eq_of_handles hconfig hf hg
  cases f
  cases g
  cases hkind
  cases hconfig
  rfl

theorem decide_eq_decidePresence [DateFormat] {f : ConstraintFunction}
    (h : f.kind ∈ credentialKinds) (operator : Operator) (right : RightOperand)
    (participant : Option Participant) :
    f.decide operator right participant = f.decidePresence operator right participant := by
  unfold decide
  split
  · next hkind => simp [hkind, credentialKinds] at h
  · rfl

theorem select?_eq_some {functions : List ConstraintFunction} {leftOperand : String}
    {f : ConstraintFunction} (h : select? functions leftOperand = some f) :
    f ∈ functions ∧ f.handles leftOperand = true :=
  ⟨List.mem_of_find?_eq_some h, by simpa using List.find?_some h⟩

theorem mem_standard {config : Configuration} {f : ConstraintFunction} :
    f ∈ standard config ↔ f.config = config := by
  obtain ⟨kind, other⟩ := f
  cases kind <;> simp [standard, FunctionKind.all, eq_comm]

theorem select?_eq_some_iff {functions : List ConstraintFunction} {config : Configuration}
    (h : ∀ g, g ∈ functions ↔ g.config = config) (leftOperand : String) (f : ConstraintFunction) :
    select? functions leftOperand = some f ↔ f.config = config ∧ f.handles leftOperand = true := by
  constructor
  · intro hf
    obtain ⟨hmem, hhandles⟩ := select?_eq_some hf
    exact ⟨(h f).1 hmem, hhandles⟩
  · rintro ⟨hconfig, hhandles⟩
    cases hg : select? functions leftOperand with
    | none => exact absurd hhandles (List.find?_eq_none.1 hg f ((h f).2 hconfig))
    | some g =>
      obtain ⟨hmem, hother⟩ := select?_eq_some hg
      have hsame : g.config = f.config := ((h g).1 hmem).trans hconfig.symm
      rw [eq_of_handles_same hsame hother hhandles]

end ConstraintFunction

theorem functions_configured (config : Configuration) (scope : PolicyScope) :
    (configured config).1.functions scope =
      if scope ∈ PolicyScope.functionScopes then ConstraintFunction.standard config else [] := by
  cases scope <;> rfl

theorem select?_configured_iff (config : Configuration) (scope : PolicyScope)
    (leftOperand : String) (f : ConstraintFunction) :
    ConstraintFunction.select? ((configured config).1.functions scope) leftOperand = some f ↔
      scope ∈ PolicyScope.functionScopes ∧ f.config = config ∧ f.handles leftOperand = true := by
  rw [functions_configured]
  split
  · next hscope =>
    rw [ConstraintFunction.select?_eq_some_iff fun _ => ConstraintFunction.mem_standard]
    exact (and_iff_right hscope).symm
  · next hscope => simp [ConstraintFunction.select?, hscope]

namespace RuleBindings

def namedKeys (config : Configuration) : List String :=
  [useAction, Vocabulary.businessPartnerDid,
    config.policyNamespace ++ Vocabulary.businessPartnerDid]

theorem named_configured (config : Configuration) (key : String) (scope : PolicyScope) :
    (key, scope) ∈ (configured config).2.named ↔
      scope ∈ PolicyScope.functionScopes ∧ key ∈ namedKeys config := by
  have hnamed : (configured config).2.named =
      PolicyScope.functionScopes.flatMap fun scope => (namedKeys config).map (·, scope) := rfl
  simp only [hnamed, List.mem_flatMap, List.mem_map, Prod.mk.injEq]
  constructor
  · rintro ⟨_, hscope, _, hkey, rfl, rfl⟩
    exact ⟨hscope, hkey⟩
  · rintro ⟨hscope, hkey⟩
    exact ⟨scope, hscope, key, hkey, rfl, rfl⟩

theorem mem_everywhere (starts : List String) (key : String) (scope : PolicyScope) :
    scope ∈ everywhere starts key ↔ ∃ start ∈ starts, ∃ rest, key = start ++ rest := by
  have hall : scope ∈ PolicyScope.all := by cases scope <;> decide
  have hstarts : starts.any (Text.begins · key) = true ↔
      ∃ start ∈ starts, ∃ rest, key = start ++ rest := by simp [Text.begins_iff]
  unfold everywhere
  split
  · next h => exact ⟨fun _ => hstarts.1 h, fun _ => hall⟩
  · next h => exact ⟨fun hmem => absurd hmem List.not_mem_nil, fun hs => absurd (hstarts.2 hs) h⟩

theorem isInScope_configured (config : Configuration) (key : String) (scope : PolicyScope) :
    (configured config).2.isInScope key scope = true ↔
      (∃ kind ∈ credentialKinds, ∃ rest, key = config.policyNamespace ++ kind.literal ++ rest) ∨
        scope ∈ PolicyScope.functionScopes ∧ key ∈ namedKeys config := by
  have hbinders : (configured config).2.binders = [everywhere
      [config.policyNamespace ++ Vocabulary.certificationType,
        config.policyNamespace ++ Vocabulary.membership]] := rfl
  rw [isInScope_iff, named_configured, hbinders, or_comm]
  simp only [List.mem_singleton, exists_eq_left, mem_everywhere]
  simp [credentialKinds, FunctionKind.literal, or_comm]

end RuleBindings

structure IsEnforced (config : Configuration) (kind : FunctionKind) (scope : PolicyScope)
    (leftOperand : String) : Prop where
  bound : (configured config).2.isInScope leftOperand scope = true
  selected : ConstraintFunction.select? ((configured config).1.functions scope) leftOperand =
    some ⟨kind, config⟩

theorem isEnforced_iff_handles (config : Configuration) (kind : FunctionKind) {scope : PolicyScope}
    (hscope : scope ∈ PolicyScope.functionScopes) (leftOperand : String) :
    IsEnforced config kind scope leftOperand ↔
      (⟨kind, config⟩ : ConstraintFunction).handles leftOperand = true := by
  constructor
  · intro h
    exact ((select?_configured_iff config scope leftOperand _).1 h.selected).2.2
  · intro h
    refine ⟨(RuleBindings.isInScope_configured _ _ _).2 ?_,
      (select?_configured_iff config scope leftOperand _).2 ⟨hscope, rfl, h⟩⟩
    by_cases hkind : kind ∈ credentialKinds
    · exact .inl ⟨kind, hkind, (ConstraintFunction.handles_iff hkind leftOperand).1 h⟩
    · have hpartner := FunctionKind.eq_businessPartnerDid hkind
      have hspelled := (ConstraintFunction.handles_partner_iff hpartner leftOperand).1 h
      exact .inr ⟨hscope, List.mem_cons_of_mem _ (by simpa using hspelled)⟩

theorem isEnforced_iff (config : Configuration) {kind : FunctionKind}
    (hkind : kind ∈ credentialKinds) {scope : PolicyScope}
    (hscope : scope ∈ PolicyScope.functionScopes) (leftOperand : String) :
    IsEnforced config kind scope leftOperand ↔
      ∃ rest, leftOperand = config.policyNamespace ++ kind.literal ++ rest :=
  (isEnforced_iff_handles config kind hscope leftOperand).trans
    (ConstraintFunction.handles_iff hkind leftOperand)

end CredentialPolicy
