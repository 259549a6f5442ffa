import Mathlib.Data.List.TakeWhile
import CredentialPolicy.Proofs.CaseMapping
import CredentialPolicy.Proofs.CredentialScopes

namespace CredentialPolicy

namespace Text

theorem not_mem_before (c : Char) (text : String) : c ∉ (before c text).toList := by
  intro h
  rw [before, String.toList_ofList] at h
  have hne : decide (c ≠ c) = true := List.mem_takeWhile_imp (p := fun d => decide (d ≠ c)) h
  simp at hne

theorem before_eq_self {c : Char} {text : String} (h : c ∉ text.toList) : before c text = text := by
  have happend := before_append h ""
  rwa [String.append_empty, (before_eq_empty_iff c "").2 (.inl rfl), String.append_empty] at happend

end Text

def canonicalToken (name : String) : String :=
  String.ofList (Text.upperFirst (Text.before '.' name).toList)

theorem canonicalToken_eq_empty_iff (name : String) :
    canonicalToken name = "" ↔ Text.before '.' name = "" := by
  rw [← String.toList_inj, canonicalToken, String.toList_ofList]
  exact (Text.upperFirst_eq_nil_iff _).trans String.toList_eq_nil_iff

theorem dot_not_mem_canonicalToken (name : String) : '.' ∉ (canonicalToken name).toList := by
  rw [canonicalToken, String.toList_ofList]
  exact Text.dot_not_mem_upperFirst (Text.not_mem_before '.' name)

theorem canonicalToken_append_dot {name : String} (h : '.' ∉ name.toList) (rest : String) :
    canonicalToken (name ++ "." ++ rest) = canonicalToken name := by
  have hbefore : Text.before '.' (name ++ "." ++ rest) = name :=
    Text.before_append_singleton h rest
  rw [canonicalToken, canonicalToken, hbefore, Text.before_eq_self h]

theorem canonicalToken_canonicalToken (name : String) :
    canonicalToken (canonicalToken name) = canonicalToken name := by
  have hbefore := Text.before_eq_self (dot_not_mem_canonicalToken name)
  rw [canonicalToken, hbefore, canonicalToken, String.toList_ofList, Text.upperFirst_upperFirst]

def AgreeToDot (name other : String) : Prop :=
  Text.upperFirst (Text.before '.' name).toList = Text.upperFirst (Text.before '.' other).toList

theorem canonicalToken_eq_iff (name other : String) :
    canonicalToken name = canonicalToken other ↔ AgreeToDot name other := by
  rw [AgreeToDot, canonicalToken, canonicalToken, String.ofList_inj]

namespace CredentialScopeExtractor

variable (x : CredentialScopeExtractor) {leftOperand token : String}

theorem credentialType?_append (name : String) :
    x.credentialType? (x.policyNamespace ++ name) =
      if canonicalToken name = "" then none else some (canonicalToken name) := by
  have hafter := (Text.after?_eq_some_iff x.policyNamespace _ name).2 rfl
  simp only [credentialType?, hafter, String.isEmpty_iff, canonicalToken_eq_empty_iff]
  rfl

theorem credentialType?_append_eq_some_iff (name : String) :
    x.credentialType? (x.policyNamespace ++ name) = some token ↔
      token ≠ "" ∧ canonicalToken name = token := by
  rw [credentialType?_append]
  split
  · next h => exact iff_of_false nofun fun htoken => htoken.1 (htoken.2.symm.trans h)
  · next h =>
    rw [Option.some_inj]
    exact ⟨fun htoken => ⟨htoken ▸ h, htoken⟩, And.right⟩

theorem credentialType?_eq_none_iff :
    x.credentialType? leftOperand = none ↔
      Text.begins x.policyNamespace leftOperand = false ∨ leftOperand = x.policyNamespace ∨
        ∃ rest, leftOperand = x.policyNamespace ++ "." ++ rest := by
  cases hbegins : Text.begins x.policyNamespace leftOperand with
  | false => exact iff_of_true (x.credentialType?_of_foreign hbegins) (.inl rfl)
  | true =>
    obtain ⟨name, rfl⟩ := (Text.begins_iff _ _).1 hbegins
    have hempty : canonicalToken name = "" ↔ name = "" ∨ ∃ rest, name = "." ++ rest :=
      (canonicalToken_eq_empty_iff name).trans (Text.before_eq_empty_iff '.' name)
    have hnone : x.credentialType? (x.policyNamespace ++ name) = none ↔
        canonicalToken name = "" := by
      rw [credentialType?_append]
      split
      · next h => exact iff_of_true rfl h
      · next h => exact iff_of_false nofun h
    rw [hnone, hempty]
    simp [String.append_assoc]

theorem credentialType?_canonical (leftOperand : String) :
    (x.credentialType? leftOperand = none ↔
      Text.begins x.policyNamespace leftOperand = false ∨ leftOperand = x.policyNamespace ∨
        ∃ rest, leftOperand = x.policyNamespace ++ "." ++ rest) ∧
    ∀ token, x.credentialType? leftOperand = some token →
      token ≠ "" ∧ '.' ∉ token.toList ∧
      x.credentialType? (x.policyNamespace ++ token) = some token ∧
      (∀ rest, x.credentialType? (x.policyNamespace ++ token ++ "." ++ rest) = some token) ∧
      ∀ name other, leftOperand = x.policyNamespace ++ name →
        (x.credentialType? (x.policyNamespace ++ other) = some token ↔ AgreeToDot name other) := by
  refine ⟨x.credentialType?_eq_none_iff, fun token htoken => ?_⟩
  have hbegins : Text.begins x.policyNamespace leftOperand = true := by
    by_contra hforeign
    rw [x.credentialType?_of_foreign (Bool.eq_false_iff.2 hforeign)] at htoken
    cases htoken
  obtain ⟨name, rfl⟩ := (Text.begins_iff _ _).1 hbegins
  obtain ⟨hne, rfl⟩ := (x.credentialType?_append_eq_some_iff name).1 htoken
  have hdot := dot_not_mem_canonicalToken name
  refine ⟨hne, hdot, ?_, fun rest => ?_, ?_⟩
  · exact (x.credentialType?_append_eq_some_iff _).2 ⟨hne, canonicalToken_canonicalToken name⟩
  · have hassoc : x.policyNamespace ++ canonicalToken name ++ "." ++ rest =
        x.policyNamespace ++ (canonicalToken name ++ "." ++ rest) := by
      simp only [String.append_assoc]
    rw [hassoc, credentialType?_append_eq_some_iff, canonicalToken_append_dot hdot]
    exact ⟨hne, canonicalToken_canonicalToken name⟩
  · intro same other hsame
    obtain rfl := (String.append_right_inj _).1 hsame
    rw [credentialType?_append_eq_some_iff, eq_comm (a := canonicalToken other),
      canonicalToken_eq_iff]
    exact and_iff_right hne

theorem credentialType?_canonical_expanded :
    let x := ofConfiguration {}
    x.credentialType? (x.policyNamespace ++ "ßtufe.gold") = some "SStufe" ∧
      x.credentialType? (x.policyNamespace ++ "SStufe") = some "SStufe" ∧
      x.credentialType? (x.policyNamespace ++ "SStufe" ++ "." ++ "a.b") = some "SStufe" ∧
      x.credentialType? (x.policyNamespace ++ "SStufe.silver") = some "SStufe" ∧
      x.credentialType? (x.policyNamespace ++ "." ++ "gold") = none := by
  intro x
  have htoken : x.credentialType? (x.policyNamespace ++ "ßtufe.gold") = some "SStufe" := by
    decide +kernel
  have hagree : AgreeToDot "ßtufe.gold" "SStufe.silver" := by
    unfold AgreeToDot
    decide +kernel
  obtain ⟨-, hcanonical⟩ := x.credentialType?_canonical (x.policyNamespace ++ "ßtufe.gold")
  obtain ⟨hnone, -⟩ := x.credentialType?_canonical (x.policyNamespace ++ "." ++ "gold")
  obtain ⟨-, -, hself, hdot, hother⟩ := hcanonical "SStufe" htoken
  refine ⟨htoken, hself, hdot "a.b", ?_, hnone.2 (.inr (.inr ⟨"gold", rfl⟩))⟩
  exact (hother "ßtufe.gold" "SStufe.silver" rfl).2 hagree

end CredentialScopeExtractor

end CredentialPolicy
