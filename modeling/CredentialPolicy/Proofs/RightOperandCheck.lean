import Mathlib.Data.List.Forall2
import CredentialPolicy.Proofs.DefinitionCheck
import CredentialPolicy.Proofs.FunctionRegistry

namespace CredentialPolicy

theorem forall₂_filter_filterMap {α β : Type} {r : α → β → Prop} {p : α → Bool}
    {f : α → Option β} (hsome : ∀ a b, f a = some b → p a = true ∧ r a b)
    (hnone : ∀ a, f a = none → p a = false) (items : List α) :
    List.Forall₂ r (items.filter p) (items.filterMap f) := by
  induction items with
  | nil => exact .nil
  | cons a items ih =>
    cases hf : f a with
    | none =>
      have hp : ¬ p a = true := by simp [hnone a hf]
      rw [List.filter_cons_of_neg hp, List.filterMap_cons_none hf]
      exact ih
    | some b =>
      obtain ⟨hp, hr⟩ := hsome a b hf
      rw [List.filter_cons_of_pos hp, List.filterMap_cons_some hf]
      exact .cons hr ih

def Constraint.IsRejected (config : Configuration) (c : Constraint) : Prop :=
  (c.leftOperand = Vocabulary.businessPartnerDid ∨
      c.leftOperand = config.policyNamespace ++ Vocabulary.businessPartnerDid) ∧
    (⟨.businessPartnerDid, config⟩ : ConstraintFunction).check c.rightOperand ≠ .ok ()

instance (config : Configuration) (c : Constraint) : Decidable (c.IsRejected config) :=
  inferInstanceAs (Decidable (_ ∧ _))

namespace PolicyEngine

variable {registrations : List Registration} {config : Configuration}

theorem config_of_mem_ofRegistrations (h : ∀ r ∈ registrations, r.2.config = config)
    {scope : PolicyScope} {f : ConstraintFunction}
    (hf : f ∈ (ofRegistrations registrations).functions scope) : f.config = config := by
  obtain ⟨before, after, heq, -⟩ := ((registers_ofRegistrations registrations scope).latest f).1 hf
  apply h (scope, f)
  rw [heq]
  exact List.mem_append_right _ List.mem_cons_self

theorem mem_ofRegistrations_iff (h : ∀ r ∈ registrations, r.2.config = config)
    (scope : PolicyScope) (kind : FunctionKind) :
    ⟨kind, config⟩ ∈ (ofRegistrations registrations).functions scope ↔
      IsRegistered registrations scope kind := by
  rw [← (registers_ofRegistrations registrations scope).registered kind, List.mem_map]
  constructor
  · intro hf
    exact ⟨_, hf, rfl⟩
  · rintro ⟨f, hf, rfl⟩
    rw [← config_of_mem_ofRegistrations h hf]
    exact hf

theorem checkConstraint_ofRegistrations (h : ∀ r ∈ registrations, r.2.config = config)
    (c : Constraint) (e : ValidationError) :
    (ofRegistrations registrations).checkConstraint c = some e ↔
      (∃ scope, IsRegistered registrations scope .businessPartnerDid) ∧
        (c.leftOperand = Vocabulary.businessPartnerDid ∨
          c.leftOperand = config.policyNamespace ++ Vocabulary.businessPartnerDid) ∧
        (⟨.businessPartnerDid, config⟩ : ConstraintFunction).check c.rightOperand = .error e := by
  have hfunction := functionFor?_eq_some_iff (fun _ _ hf => config_of_mem_ofRegistrations h hf)
    c.leftOperand
  simp only [checkConstraint_eq_some_iff, hfunction, ← mem_ofRegistrations_iff h]
  constructor
  · rintro ⟨f, ⟨⟨scope, hf⟩, hhandles⟩, hcheck⟩
    have hkind : f.kind = .businessPartnerDid := by
      apply FunctionKind.eq_businessPartnerDid
      intro hcredential
      rw [ConstraintFunction.check_of_mem_credentialKinds hcredential] at hcheck
      cases hcheck
    have hpartner : f = ⟨.businessPartnerDid, config⟩ := by
      rw [← hkind, ← config_of_mem_ofRegistrations h hf]
    subst hpartner
    exact ⟨⟨scope, hf⟩, (ConstraintFunction.handles_partner_iff rfl _).1 hhandles, hcheck⟩
  · rintro ⟨⟨scope, hf⟩, hleft, hcheck⟩
    have hhandles := (ConstraintFunction.handles_partner_iff (f := ⟨_, config⟩) rfl _).2 hleft
    exact ⟨_, ⟨⟨scope, hf⟩, hhandles⟩, hcheck⟩

theorem check_finds_rejected (config : Configuration) (registrations : List Registration)
    (h : ∀ r ∈ registrations, r.2.config = config) (policy : Policy) :
    let errors := (ofRegistrations registrations).check policy
    let partner : ConstraintFunction := ⟨.businessPartnerDid, config⟩
    ((∃ scope, IsRegistered registrations scope .businessPartnerDid) →
      List.Forall₂ (fun c e => partner.check c.rightOperand = .error e)
        ((policy.permissions.flatMap (·.constraints)).filter (·.IsRejected config)) errors ∧
      (errors = [] ↔ ∀ p ∈ policy.permissions, ∀ c ∈ p.constraints, ¬ c.IsRejected config)) ∧
    ((∀ scope, ¬ IsRegistered registrations scope .businessPartnerDid) → errors = []) := by
  intro errors partner
  have hsome := checkConstraint_ofRegistrations h
  constructor
  · intro hregistered
    have herrors : List.Forall₂ (fun c e => partner.check c.rightOperand = .error e)
        ((policy.permissions.flatMap (·.constraints)).filter (·.IsRejected config)) errors := by
      apply forall₂_filter_filterMap
      · intro c e he
        obtain ⟨-, hleft, hcheck⟩ := (hsome c e).1 he
        refine ⟨decide_eq_true ⟨hleft, ?_⟩, hcheck⟩
        rw [hcheck]
        exact nofun
      · intro c hnone
        apply decide_eq_false
        rintro ⟨hleft, hcheck⟩
        cases hright : partner.check c.rightOperand with
        | ok _ => exact hcheck hright
        | error e =>
          rw [(hsome c e).2 ⟨hregistered, hleft, hright⟩] at hnone
          cases hnone
    refine ⟨herrors, ?_⟩
    rw [← List.length_eq_zero_iff, ← herrors.length_eq, List.length_eq_zero_iff,
      List.filter_eq_nil_iff]
    simp only [List.mem_flatMap, decide_eq_true_eq, forall_exists_index, and_imp]
    constructor
    · intro hall p hp c hc
      exact hall c p hp hc
    · intro hall c p hp hc
      exact hall p hp c hc
  · intro hunregistered
    apply List.filterMap_eq_nil_iff.2
    intro c _
    rw [Option.eq_none_iff_forall_ne_some]
    intro e he
    obtain ⟨⟨scope, hscope⟩, -⟩ := (hsome c e).1 he
    exact hunregistered scope hscope

theorem check_finds_rejected_requested :
    let membership : Registration := (.catalog, ⟨.membership, {}⟩)
    let registrations : List Registration :=
      [membership, (.requestCatalog, ⟨.businessPartnerDid, {}⟩)]
    let policy : Policy :=
      ⟨[⟨"use", [⟨"BusinessPartnerDID", .eq, .scalar "DID:WEB:a.example"⟩,
          ⟨Vocabulary.policyNamespace ++ "BusinessPartnerDID", .eq, .scalar "a.example"⟩]⟩,
        ⟨"use", [⟨Vocabulary.policyNamespace ++ "Membership", .eq, .scalar "none"⟩,
          ⟨"BusinessPartnerDID", .isAnyOf, .list ["did:web:a.example", "DID:WEB:b.example"]⟩]⟩]⟩
    (∀ r ∈ registrations, r.2.config = {}) ∧
      (∃ scope, IsRegistered registrations scope .businessPartnerDid) ∧
      (ofRegistrations registrations).check policy =
        [.rightOperandStart "did:web" "a.example",
          .rightOperandListStart "did:web" ["did:web:a.example", "DID:WEB:b.example"]] ∧
      (∀ scope, ¬ IsRegistered [membership] scope .businessPartnerDid) ∧
      (ofRegistrations [membership]).check policy = [] := by
  intro membership registrations policy
  have hconfig : ∀ r ∈ registrations, r.2.config = {} := by simp [registrations, membership]
  have hregistered : ∃ scope, IsRegistered registrations scope .businessPartnerDid :=
    ⟨.requestCatalog, _, List.mem_cons_of_mem _ List.mem_cons_self, rfl⟩
  have hunregistered : ∀ scope, ¬ IsRegistered [membership] scope .businessPartnerDid := by
    rintro scope ⟨f, hf, hkind⟩
    obtain ⟨-, rfl⟩ := Prod.mk.inj (List.mem_singleton.1 hf)
    cases hkind
  obtain ⟨herrors, -⟩ := (check_finds_rejected {} registrations hconfig policy).1 hregistered
  have hrejected : (policy.permissions.flatMap (·.constraints)).filter (·.IsRejected {}) =
      [⟨Vocabulary.policyNamespace ++ "BusinessPartnerDID", .eq, .scalar "a.example"⟩,
        ⟨"BusinessPartnerDID", .isAnyOf, .list ["did:web:a.example", "DID:WEB:b.example"]⟩] := by
    decide +kernel
  rw [hrejected] at herrors
  obtain ⟨first, rest, hfirst, hrest, hall⟩ := List.forall₂_cons_left_iff.1 herrors
  obtain ⟨second, none, hsecond, hnone, rfl⟩ := List.forall₂_cons_left_iff.1 hrest
  obtain rfl := List.forall₂_nil_left_iff.1 hnone
  refine ⟨hconfig, hregistered, ?_, hunregistered, ?_⟩
  · rw [hall, ← Except.error.inj hfirst, ← Except.error.inj hsecond]
    rfl
  · apply (check_finds_rejected {} [membership] _ policy).2 hunregistered
    simp [membership]

end PolicyEngine

end CredentialPolicy
