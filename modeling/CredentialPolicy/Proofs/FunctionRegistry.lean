import Mathlib.Data.List.Nodup
import CredentialPolicy.Proofs.Reconfiguration

namespace CredentialPolicy

abbrev Registration : Type :=
  PolicyScope × ConstraintFunction

def IsRegistered (registrations : List Registration) (scope : PolicyScope) (kind : FunctionKind) :
    Prop :=
  ∃ f, (scope, f) ∈ registrations ∧ f.kind = kind

def firstRegistration (registrations : List Registration) (scope : PolicyScope)
    (kind : FunctionKind) : Nat :=
  registrations.findIdx fun r => r.1 = scope ∧ r.2.kind = kind

def IsLatest (registrations : List Registration) (scope : PolicyScope) (f : ConstraintFunction) :
    Prop :=
  ∃ before after, registrations = before ++ (scope, f) :: after ∧
    ∀ r ∈ after, r.1 = scope → r.2.kind ≠ f.kind

section

variable {registrations : List Registration} {scope : PolicyScope} {kind : FunctionKind}

theorem isRegistered_concat (r : Registration) :
    IsRegistered (registrations ++ [r]) scope kind ↔
      IsRegistered registrations scope kind ∨ r.1 = scope ∧ r.2.kind = kind := by
  constructor
  · rintro ⟨f, hf, hkind⟩
    rcases List.mem_append.1 hf with hf | hf
    · exact .inl ⟨f, hf, hkind⟩
    · obtain rfl := List.mem_singleton.1 hf
      exact .inr ⟨rfl, hkind⟩
  · rintro (⟨f, hf, hkind⟩ | ⟨rfl, hkind⟩)
    · exact ⟨f, List.mem_append_left _ hf, hkind⟩
    · exact ⟨r.2, List.mem_append_right _ (List.mem_singleton_self r), hkind⟩

theorem firstRegistration_lt_iff :
    firstRegistration registrations scope kind < registrations.length ↔
      IsRegistered registrations scope kind := by
  rw [firstRegistration, List.findIdx_lt_length]
  constructor
  · rintro ⟨⟨_, f⟩, hf, hr⟩
    obtain ⟨rfl, hkind⟩ := of_decide_eq_true hr
    exact ⟨f, hf, hkind⟩
  · rintro ⟨f, hf, hkind⟩
    exact ⟨(scope, f), hf, decide_eq_true ⟨rfl, hkind⟩⟩

theorem firstRegistration_concat (h : IsRegistered registrations scope kind) (r : Registration) :
    firstRegistration (registrations ++ [r]) scope kind =
      firstRegistration registrations scope kind := by
  rw [← firstRegistration_lt_iff] at h
  unfold firstRegistration at h ⊢
  rw [List.findIdx_append, if_pos h]

theorem length_le_firstRegistration_concat (h : ¬ IsRegistered registrations scope kind)
    (r : Registration) :
    registrations.length ≤ firstRegistration (registrations ++ [r]) scope kind := by
  rw [← firstRegistration_lt_iff] at h
  unfold firstRegistration at h ⊢
  rw [List.findIdx_append, if_neg h]
  exact Nat.le_add_left _ _

theorem isLatest_concat (r : Registration) (f : ConstraintFunction) :
    IsLatest (registrations ++ [r]) scope f ↔
      r = (scope, f) ∨
        IsLatest registrations scope f ∧ (r.1 = scope → r.2.kind ≠ f.kind) := by
  constructor
  · rintro ⟨before, after, heq, hafter⟩
    -- the new registration is the one in question, or it stands behind it
    rcases List.eq_nil_or_concat' after with rfl | ⟨middle, last, rfl⟩
    · obtain ⟨-, hr⟩ := List.append_inj' heq rfl
      exact .inl (List.singleton_inj.1 hr)
    · rw [← List.cons_append, ← List.append_assoc] at heq
      obtain ⟨hregistrations, hr⟩ := List.append_inj' heq rfl
      obtain rfl := List.singleton_inj.1 hr
      obtain ⟨hmiddle, hlast⟩ := List.forall_mem_append.1 hafter
      exact .inr ⟨⟨before, middle, hregistrations, hmiddle⟩, hlast r (List.mem_singleton_self r)⟩
  · rintro (rfl | ⟨⟨before, after, rfl, hafter⟩, hr⟩)
    · exact ⟨registrations, [], rfl, nofun⟩
    · refine ⟨before, after ++ [r], by simp, List.forall_mem_append.2 ⟨hafter, ?_⟩⟩
      intro last hlast
      rw [List.mem_singleton.1 hlast]
      exact hr

end

structure Registers (registrations : List Registration) (scope : PolicyScope)
    (functions : List ConstraintFunction) : Prop where
  distinct : HasDistinctKinds functions
  registered (kind : FunctionKind) :
    kind ∈ functions.map (·.kind) ↔ IsRegistered registrations scope kind
  latest (f : ConstraintFunction) : f ∈ functions ↔ IsLatest registrations scope f
  ordered : (functions.map (·.kind)).Pairwise fun kind other =>
    firstRegistration registrations scope kind < firstRegistration registrations scope other

namespace Registers

variable {registrations : List Registration} {scope : PolicyScope}
  {functions : List ConstraintFunction}

theorem nil (scope : PolicyScope) : Registers [] scope [] where
  distinct := List.nodup_nil
  registered kind := by simp [IsRegistered]
  latest f := by simp [IsLatest]
  ordered := List.Pairwise.nil

theorem ordered_concat (h : Registers registrations scope functions) (r : Registration) :
    (functions.map (·.kind)).Pairwise fun kind other =>
      firstRegistration (registrations ++ [r]) scope kind <
        firstRegistration (registrations ++ [r]) scope other := by
  apply h.ordered.imp_of_mem
  intro kind other hkind hother hlt
  rwa [firstRegistration_concat ((h.registered kind).1 hkind),
    firstRegistration_concat ((h.registered other).1 hother)]

theorem register (h : Registers registrations scope functions) (f : ConstraintFunction) :
    Registers (registrations ++ [(scope, f)]) scope (registerIn f functions) where
  distinct := h.distinct.registerIn f
  registered kind := by
    rw [kinds_registerIn, isRegistered_concat, ← h.registered]
    split
    · next hknown =>
      constructor
      · exact .inl
      · rintro (hkind | ⟨-, rfl⟩)
        · exact hkind
        · exact hknown
    · rw [List.mem_append, List.mem_singleton]
      exact or_congr_right ⟨fun hkind => ⟨rfl, hkind.symm⟩, fun hkind => hkind.2.symm⟩
  latest g := by
    rw [mem_registerIn_iff h.distinct, isLatest_concat, ← h.latest, Prod.mk.injEq]
    simp only [true_and, forall_const, eq_comm, ne_eq]
  ordered := by
    have hordered := h.ordered_concat (scope, f)
    rw [kinds_registerIn]
    split
    · exact hordered
    · next hnew =>
      -- a new kind comes behind all that were there before
      refine List.pairwise_append.2 ⟨hordered, List.pairwise_singleton _ _, ?_⟩
      intro kind hkind other hother
      rw [List.mem_singleton.1 hother]
      have hregistered := (h.registered kind).1 hkind
      have hunregistered := mt (h.registered f.kind).2 hnew
      calc firstRegistration (registrations ++ [(scope, f)]) scope kind
          = firstRegistration registrations scope kind :=
            firstRegistration_concat hregistered (scope, f)
        _ < registrations.length := firstRegistration_lt_iff.2 hregistered
        _ ≤ _ := length_le_firstRegistration_concat hunregistered (scope, f)

theorem skip (h : Registers registrations scope functions) {r : Registration}
    (hr : r.1 ≠ scope) : Registers (registrations ++ [r]) scope functions where
  distinct := h.distinct
  registered kind := by
    rw [isRegistered_concat, h.registered]
    exact ⟨.inl, fun hkind => hkind.resolve_right fun hsame => hr hsame.1⟩
  latest f := by
    have hne : r ≠ (scope, f) := fun heq => hr (congrArg Prod.fst heq)
    rw [isLatest_concat, h.latest]
    simp [hne, hr]
  ordered := h.ordered_concat r

end Registers

namespace PolicyEngine

@[simp]
theorem functions_register_self (engine : PolicyEngine) (scope : PolicyScope)
    (f : ConstraintFunction) :
    (engine.register scope f).functions scope = registerIn f (engine.functions scope) :=
  if_pos rfl

theorem functions_register_of_ne (engine : PolicyEngine) {scope other : PolicyScope}
    (h : other ≠ scope) (f : ConstraintFunction) :
    (engine.register other f).functions scope = engine.functions scope :=
  if_neg h.symm

theorem registers_ofRegistrations (registrations : List Registration) (scope : PolicyScope) :
    Registers registrations scope ((ofRegistrations registrations).functions scope) := by
  -- from the end of the history, where each registration acts on what the earlier ones left
  induction registrations using List.reverseRecOn with
  | nil => exact .nil scope
  | append_singleton registrations last ih =>
    obtain ⟨other, f⟩ := last
    rw [ofRegistrations_concat]
    by_cases h : other = scope
    · subst h
      rw [functions_register_self]
      exact ih.register f
    · rw [functions_register_of_ne _ h]
      exact ih.skip h

theorem functions_ofRegistrations_filter (registrations : List Registration)
    (scope : PolicyScope) :
    (ofRegistrations (registrations.filter (·.1 = scope))).functions scope =
      (ofRegistrations registrations).functions scope := by
  induction registrations using List.reverseRecOn with
  | nil => rfl
  | append_singleton registrations last ih =>
    obtain ⟨other, f⟩ := last
    rw [List.filter_append, ofRegistrations_concat]
    by_cases h : other = scope
    · subst h
      rw [List.filter_cons_of_pos (by simp), List.filter_nil, ofRegistrations_concat,
        functions_register_self, functions_register_self, ih]
    · rw [List.filter_cons_of_neg (by simpa using h), List.filter_nil, List.append_nil, ih,
        functions_register_of_ne _ h]

theorem registry_keeps_last (registrations : List Registration) (scope : PolicyScope) :
    let functions := (ofRegistrations registrations).functions scope
    Registers registrations scope functions ∧
      (ofRegistrations (registrations.filter (·.1 = scope))).functions scope = functions ∧
      (∀ other f, other ≠ scope →
        (ofRegistrations (registrations ++ [(other, f)])).functions scope = functions) := by
  intro functions
  refine ⟨registers_ofRegistrations registrations scope,
    functions_ofRegistrations_filter registrations scope, ?_⟩
  intro other f h
  rw [ofRegistrations_concat]
  exact functions_register_of_ne _ h f

theorem registry_keeps_last_replaced :
    let renamed : Configuration := { policyNamespace := "https://old.example/" }
    let registrations : List Registration :=
      [(.catalog, ⟨.membership, renamed⟩), (.transferProcess, ⟨.certificationType, {}⟩),
        (.catalog, ⟨.businessPartnerDid, {}⟩), (.catalog, ⟨.membership, {}⟩)]
    let engine := ofRegistrations registrations
    engine.functions .catalog = [⟨.membership, {}⟩, ⟨.businessPartnerDid, {}⟩] ∧
      firstRegistration registrations .catalog .membership <
        firstRegistration registrations .catalog .businessPartnerDid ∧
      ¬ IsLatest registrations .catalog ⟨.membership, renamed⟩ ∧
      PolicyScope.transferProcess ≠ .catalog ∧
      (ofRegistrations (registrations ++
        [(.transferProcess, ⟨.membership, renamed⟩)])).functions .catalog =
        engine.functions .catalog := by
  intro renamed registrations engine
  have hfunctions : engine.functions .catalog =
      [⟨.membership, {}⟩, ⟨.businessPartnerDid, {}⟩] := rfl
  obtain ⟨hregisters, -, hother⟩ := registry_keeps_last registrations .catalog
  have hne : PolicyScope.transferProcess ≠ .catalog := by decide
  have hordered := hregisters.ordered
  refine ⟨hfunctions, ?_, ?_, hne, hother _ _ hne⟩
  · rw [show (ofRegistrations registrations).functions .catalog = _ from hfunctions] at hordered
    exact List.rel_of_pairwise_cons hordered (List.mem_singleton_self _)
  · rw [← hregisters.latest, show (ofRegistrations registrations).functions .catalog = _ from
      hfunctions]
    decide

end PolicyEngine

namespace ConstraintFunction

theorem length_handlers_le_one (config : Configuration) (leftOperand : String) :
    ((standard config).filter (·.handles leftOperand)).length ≤ 1 := by
  have hnodup : ((standard config).filter (·.handles leftOperand)).Nodup :=
    (List.Nodup.of_map _ (hasDistinctKinds_standard config)).filter _
  have hmem (f : ConstraintFunction) : f ∈ (standard config).filter (·.handles leftOperand) ↔
      f.config = config ∧ f.handles leftOperand = true := by
    rw [List.mem_filter, mem_standard]
  cases hhandlers : (standard config).filter (·.handles leftOperand) with
  | nil => exact Nat.zero_le 1
  | cons f rest =>
    rw [hhandlers] at hnodup hmem
    have hrest : rest = [] := by
      apply List.eq_nil_iff_forall_not_mem.2
      intro g hg
      obtain ⟨hf, hfhandles⟩ := (hmem f).1 List.mem_cons_self
      obtain ⟨hg', hghandles⟩ := (hmem g).1 (List.mem_cons_of_mem f hg)
      have heq := eq_of_handles_same (hf.trans hg'.symm) hfhandles hghandles
      exact (List.nodup_cons.1 hnodup).1 (heq ▸ hg)
    rw [hrest]
    exact Nat.le_refl 1

theorem standard_disjoint (config : Configuration) (leftOperand : String) :
    ((standard config).filter (·.handles leftOperand)).length ≤ 1 ∧
      ∀ functions, (∀ f, f ∈ functions ↔ f ∈ standard config) →
        select? functions leftOperand = select? (standard config) leftOperand := by
  refine ⟨length_handlers_le_one config leftOperand, ?_⟩
  intro functions h
  apply Option.ext
  intro f
  rw [select?_eq_some_iff fun g => (h g).trans mem_standard,
    select?_eq_some_iff fun _ => mem_standard]

theorem standard_disjoint_unnamed :
    let config : Configuration := { policyNamespace := "" }
    let functions : List ConstraintFunction :=
      [⟨.businessPartnerDid, config⟩, ⟨.certificationType, config⟩, ⟨.businessPartnerDid, config⟩,
        ⟨.membership, config⟩]
    (∀ f, f ∈ functions ↔ f ∈ standard config) ∧
      select? functions "BusinessPartnerDID" = some ⟨.businessPartnerDid, config⟩ ∧
      select? functions "MembershipCertificationType" = some ⟨.membership, config⟩ := by
  intro config functions
  have hfunctions : ∀ f, f ∈ functions ↔ f ∈ standard config := by
    rintro ⟨kind, other⟩
    rw [mem_standard]
    cases kind <;> simp [functions]
  obtain ⟨-, hpartner⟩ := standard_disjoint config "BusinessPartnerDID"
  obtain ⟨-, hmembership⟩ := standard_disjoint config "MembershipCertificationType"
  refine ⟨hfunctions, ?_, ?_⟩
  · rw [hpartner functions hfunctions]
    decide +kernel
  · rw [hmembership functions hfunctions]
    decide +kernel

end ConstraintFunction

end CredentialPolicy
