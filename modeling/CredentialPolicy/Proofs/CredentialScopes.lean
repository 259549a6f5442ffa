import CredentialPolicy.CredentialScope
import CredentialPolicy.Proofs.Dispatch

namespace CredentialPolicy

namespace Text

theorem before_append {c : Char} {text : String} (h : c ∉ text.toList) (rest : String) :
    before c (text ++ rest) = text ++ before c rest := by
  have hkept : ∀ d ∈ text.toList, decide (d ≠ c) = true := by
    intro d hd
    simpa using fun hdc : d = c => h (hdc ▸ hd)
  rw [before, String.toList_append, List.takeWhile_append_of_pos hkept]
  simp [before]

theorem before_eq_empty_iff (c : Char) (text : String) :
    before c text = "" ↔ text = "" ∨ ∃ rest, text = String.singleton c ++ rest := by
  rw [← String.toList_inj, before, String.toList_ofList]
  constructor
  · intro h
    cases htext : text.toList with
    | nil => exact .inl (by simpa using htext)
    | cons d rest =>
      by_cases hd : d = c
      · exact .inr ⟨String.ofList rest, String.toList_inj.1 (by simp [htext, hd])⟩
      · simp [htext, hd] at h
  · rintro (rfl | ⟨rest, rfl⟩)
    · rfl
    · simp

theorem before_append_singleton {c : Char} {text : String} (h : c ∉ text.toList) (rest : String) :
    before c (text ++ String.singleton c ++ rest) = text := by
  have hrest : before c (String.singleton c ++ rest) = "" :=
    (before_eq_empty_iff c _).2 (.inr ⟨rest, rfl⟩)
  rw [String.append_assoc, before_append h, hrest, String.append_empty]

theorem exists_eq_before_append (c : Char) (text : String) :
    ∃ rest, text = before c text ++ rest ∧ before c rest = "" := by
  refine ⟨String.ofList (text.toList.dropWhile (· ≠ c)), ?_, ?_⟩
  · apply String.toList_inj.1
    simp [before]
  · rw [before, String.toList_ofList]
    have hhead := List.head?_dropWhile_not (fun d : Char => decide (d ≠ c)) text.toList
    cases hrest : text.toList.dropWhile (fun d : Char => decide (d ≠ c)) with
    | nil => rfl
    | cons d rest =>
      rw [hrest] at hhead
      have hd : decide (d ≠ c) = false := hhead
      rw [List.takeWhile_cons_of_neg (by simp [hd])]

end Text

theorem mem_names_insertEntry {α : Type} (name : String) (value : α)
    (entries : List (String × α)) (key : String) :
    key ∈ (insertEntry name value entries).map (·.1) ↔
      key = name ∨ key ∈ entries.map (·.1) := by
  induction entries with
  | nil => simp [insertEntry]
  | cons head rest ih =>
    simp only [insertEntry]
    split
    · next h => simp [h]
    · split
      · simp
      · rw [List.map_cons, List.mem_cons, ih, List.map_cons, List.mem_cons, or_left_comm]

theorem mem_sortedOnce (texts : List String) (text : String) :
    text ∈ sortedOnce texts ↔ text ∈ texts := by
  have hfold (entries : List (String × Unit)) (m : Members Unit) :
      text ∈ (entries.foldl (fun m e => m.insert e.1 e.2) m).entries.map (·.1) ↔
        text ∈ m.entries.map (·.1) ∨ text ∈ entries.map (·.1) := by
    induction entries generalizing m with
    | nil => simp
    | cons e entries ih =>
      rw [List.foldl_cons, ih, Members.insert, mem_names_insertEntry, List.map_cons,
        List.mem_cons, or_assoc, or_left_comm]
  rw [sortedOnce, Members.ofList, hfold]
  simp [Members.empty]

open FunctionKind (credentialKinds)

namespace CredentialScopeExtractor

theorem upperFirst_literal_append {kind : FunctionKind} (h : kind ∈ credentialKinds)
    (rest : List Char) :
    Text.upperFirst (kind.literal.toList ++ rest) = kind.literal.toList ++ rest := by
  cases kind with
  | membership => rfl
  | certificationType => rfl
  | businessPartnerDid => simp [credentialKinds] at h

theorem credentialType?_eq_some_iff (x : CredentialScopeExtractor) (leftOperand token : String) :
    x.credentialType? leftOperand = some token ↔
      ∃ name, leftOperand = x.policyNamespace ++ name ∧ Text.before '.' name ≠ "" ∧
        token.toList = Text.upperFirst (Text.before '.' name).toList := by
  constructor
  · intro h
    unfold credentialType? at h
    split at h
    · cases h
    · next name hname =>
      dsimp only at h
      split at h
      · cases h
      · next hempty =>
        refine ⟨name, (Text.after?_eq_some_iff _ _ _).1 hname, by simpa using hempty, ?_⟩
        rw [← Option.some.inj h, String.toList_ofList]
  · rintro ⟨name, hleft, hne, htoken⟩
    have hafter := (Text.after?_eq_some_iff _ _ _).2 hleft
    simp only [credentialType?, hafter]
    rw [if_neg (by simpa using hne), ← htoken, String.ofList_toList]

theorem credentialType?_literal_append (x : CredentialScopeExtractor) {kind : FunctionKind}
    (h : kind ∈ credentialKinds) (rest : String) :
    x.credentialType? (x.policyNamespace ++ kind.literal ++ rest) =
      some (kind.literal ++ Text.before '.' rest) := by
  have hdot : '.' ∉ kind.literal.toList := by cases kind <;> decide
  have hbefore := Text.before_append hdot rest
  refine (x.credentialType?_eq_some_iff _ _).2 ⟨_, String.append_assoc, ?_, ?_⟩
  · rw [hbefore]
    simp [kind.literal_ne_empty]
  · rw [hbefore, String.toList_append, upperFirst_literal_append h]

theorem scopeOf_eq (x : CredentialScopeExtractor) (token : String) :
    x.scopeOf token = x.credentialTypeNamespace ++ ":" ++ token ++ "Credential:read" := by
  rw [scopeOf, String.append_assoc]
  rfl

theorem scopeOf_inj (x : CredentialScopeExtractor) {token other : String}
    (h : x.scopeOf token = x.scopeOf other) : token = other := by
  simpa [scopeOf, String.append_left_inj, String.append_right_inj] using h

theorem scopes_of_isSupported (x : CredentialScopeExtractor) (c : Constraint)
    {message : MessageKind} (h : message.isSupported = true) :
    x.scopes c (.forMessage (some message)) =
      ((x.credentialType? c.leftOperand).map x.scopeOf).toList := by
  simp [scopes, RequestPolicyContext.forMessage, RequestPolicyContext.message, h]

theorem scopes_literal_append (x : CredentialScopeExtractor) (c : Constraint)
    {message : MessageKind} (hmessage : message.isSupported = true) {kind : FunctionKind}
    (hkind : kind ∈ credentialKinds) {rest : String}
    (h : c.leftOperand = x.policyNamespace ++ kind.literal ++ rest) :
    x.scopes c (.forMessage (some message)) =
      [x.scopeOf (kind.literal ++ Text.before '.' rest)] := by
  rw [x.scopes_of_isSupported c hmessage, h, x.credentialType?_literal_append hkind]
  rfl

theorem credentialType?_of_foreign (x : CredentialScopeExtractor) {leftOperand : String}
    (h : Text.begins x.policyNamespace leftOperand = false) :
    x.credentialType? leftOperand = none := by
  have hafter : Text.after? x.policyNamespace leftOperand = none := by
    simpa [Text.begins, Text.after?] using h
  simp only [credentialType?, hafter]

theorem scopes_of_foreign (x : CredentialScopeExtractor) (c : Constraint)
    (ctx : RequestPolicyContext) (h : Text.begins x.policyNamespace c.leftOperand = false) :
    x.scopes c ctx = [] := by
  simp [scopes, x.credentialType?_of_foreign h]

end CredentialScopeExtractor

theorem mem_collect (r : ScopeExtractorRegistry) (policy : Policy) (ctx : RequestPolicyContext)
    (scope : String) :
    scope ∈ r.collect policy ctx ↔
      ∃ c ∈ policy.constraints, ∃ x ∈ r.extractors, scope ∈ x c ctx := by
  simp only [ScopeExtractorRegistry.collect, mem_sortedOnce, List.mem_flatMap]

theorem mem_collect_forCredentials (config : Configuration) (policy : Policy)
    (ctx : RequestPolicyContext) (scope : String) :
    scope ∈ (ScopeExtractorRegistry.forCredentials config).collect policy ctx ↔
      ∃ c ∈ policy.constraints,
        scope ∈ (CredentialScopeExtractor.ofConfiguration config).scopes c ctx := by
  have hextractors : (ScopeExtractorRegistry.forCredentials config).extractors =
      [(CredentialScopeExtractor.ofConfiguration config).scopes] := rfl
  rw [mem_collect, hextractors]
  simp only [List.mem_singleton, exists_eq_left]

end CredentialPolicy
