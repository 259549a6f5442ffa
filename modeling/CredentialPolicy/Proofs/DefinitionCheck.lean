import Mathlib.Data.List.Enum
import CredentialPolicy.Proofs.CaseMapping
import CredentialPolicy.Proofs.Dispatch
import CredentialPolicy.Url
import CredentialPolicy.Violation

namespace CredentialPolicy

open FunctionKind (credentialKinds)

theorem flatMap_zipIdx_eq_nil_iff {α β : Type} {f : α × Nat → List β} {p : α → Prop}
    (h : ∀ a i, f (a, i) = [] ↔ p a) (items : List α) :
    items.zipIdx.flatMap f = [] ↔ ∀ a ∈ items, p a := by
  rw [List.flatMap_eq_nil_iff, List.forall_mem_zipIdx', List.forall_mem_iff_getElem]
  exact forall₂_congr fun i _ => h _ i

theorem Configuration.isTerminated_of_check [UrlParser] {config : Configuration}
    (h : config.check = .ok ()) : isTerminated config.policyNamespace = true := by
  cases hterminated : isTerminated config.policyNamespace with
  | true => rfl
  | false =>
    rw [check, checkNamespace, hterminated] at h
    cases h

def Constraint.NamesDids (didStart : String) (c : Constraint) : Prop :=
  ∀ value ∈ c.rightOperand.values, ∃ rest, value = didStart ++ rest

namespace PolicyDefinition

theorem selectsPartner_append {namespaceText : String} (h : isTerminated namespaceText = true) :
    selectsPartner (namespaceText ++ Vocabulary.businessPartnerDid) = true := by
  obtain ⟨c, hlast, hc⟩ := (Option.any_eq_true _ _).1 h
  have hmem : c ∈ ['/', '#', ':'] := by
    have : c = '/' ∨ c = '#' := by simpa using hc
    rcases this with rfl | rfl <;> decide
  have hstart : ∀ d ∈ namespaceText.toList.getLast?, d ∈ ['/', '#', ':'] := by
    intro d hd
    obtain rfl := Option.some_inj.1 (hlast.symm.trans hd)
    exact hmem
  rw [selectsPartner, Text.lastSegment_append hstart (by decide)]
  decide

theorem selectsPartner_of_handles {f : ConstraintFunction} (hkind : f.kind = .businessPartnerDid)
    (hterminated : isTerminated f.config.policyNamespace = true) {leftOperand : String}
    (h : f.handles leftOperand = true) : selectsPartner leftOperand = true := by
  rcases (ConstraintFunction.handles_partner_iff hkind leftOperand).1 h with rfl | rfl
  · decide
  · exact selectsPartner_append hterminated

theorem checkId_eq_nil_iff (d : PolicyDefinition) :
    d.checkId = [] ↔ ∃ id, d.id = some id ∧ Text.isBlank id = false := by
  cases hid : d.id with
  | none => simp [checkId, hid]
  | some id => simp [checkId, hid]

theorem checkPermissions_eq_nil_iff (d : PolicyDefinition) :
    d.checkPermissions = [] ↔ d.policy.permissions ≠ [] := by
  simp [checkPermissions]

theorem checkSelector_eq_nil_iff (didStart : String) (i j : Nat) (c : Constraint) :
    checkSelector didStart i j c = [] ↔
      (selectsPartner c.leftOperand = true → c.NamesDids didStart) := by
  have hnames : c.rightOperand.values.any (!Text.begins didStart ·) = false ↔
      c.NamesDids didStart := by simp [Constraint.NamesDids, ← Text.begins_iff]
  rw [checkSelector, ← hnames]
  cases selectsPartner c.leftOperand <;>
    cases c.rightOperand.values.any (!Text.begins didStart ·) <;> simp

theorem checkSelectors_eq_nil_iff (didStart : String) (d : PolicyDefinition) :
    d.checkSelectors didStart = [] ↔ ∀ c ∈ d.policy.constraints,
      selectsPartner c.leftOperand = true → c.NamesDids didStart := by
  have hpermissions : d.checkSelectors didStart = [] ↔ ∀ p ∈ d.policy.permissions,
      ∀ c ∈ p.constraints, selectsPartner c.leftOperand = true → c.NamesDids didStart := by
    refine flatMap_zipIdx_eq_nil_iff ?_ d.policy.permissions
    intro p i
    refine flatMap_zipIdx_eq_nil_iff ?_ p.constraints
    intro c j
    exact checkSelector_eq_nil_iff didStart i j c
  rw [hpermissions, Policy.constraints]
  simp only [List.mem_flatMap, forall_exists_index, and_imp]
  constructor
  · intro h c p hp hc
    exact h p hp c hc
  · intro h p hp c hc
    exact h c p hp hc

theorem checkForm_eq_nil_iff {config : Configuration} (hon : config.checksDidSelectors = true)
    (d : PolicyDefinition) :
    d.checkForm config = [] ↔
      (∃ id, d.id = some id ∧ Text.isBlank id = false) ∧ d.policy.permissions ≠ [] ∧
        ∀ c ∈ d.policy.constraints,
          selectsPartner c.leftOperand = true → c.NamesDids config.didStart := by
  rw [checkForm, if_pos hon, List.append_eq_nil_iff, List.append_eq_nil_iff, checkId_eq_nil_iff,
    checkPermissions_eq_nil_iff, checkSelectors_eq_nil_iff, and_assoc]

theorem namesDids_of_checkForm [UrlParser] {config : Configuration}
    (hconfig : config.check = .ok ()) (hon : config.checksDidSelectors = true)
    {d : PolicyDefinition} (hd : d.checkForm config = []) {c : Constraint}
    (hc : c ∈ d.policy.constraints) {f : ConstraintFunction} (hf : f.config = config)
    (hkind : f.kind = .businessPartnerDid)
    (hhandles : f.handles c.leftOperand = true) : c.NamesDids config.didStart := by
  obtain ⟨-, -, hselectors⟩ := (checkForm_eq_nil_iff hon d).1 hd
  have hterminated : isTerminated f.config.policyNamespace = true := by
    rw [hf]
    exact config.isTerminated_of_check hconfig
  exact hselectors c hc (selectsPartner_of_handles hkind hterminated hhandles)

theorem dids_of_check [UrlParser] (config : Configuration) (hconfig : config.check = .ok ())
    (hon : config.checksDidSelectors = true) (d : PolicyDefinition) (hd : d.check config = []) :
    (∃ id, d.id = some id ∧ Text.isBlank id = false) ∧ d.policy.permissions ≠ [] ∧
      ∀ p ∈ d.policy.permissions, ∀ c ∈ p.constraints, ∀ scope ∈ PolicyScope.functionScopes,
        ∀ f : ConstraintFunction,
          ConstraintFunction.select? ((configured config).1.functions scope) c.leftOperand =
            some f → f.kind = .businessPartnerDid →
          ∀ value ∈ c.rightOperand.values, ∃ rest, value = config.didStart ++ rest := by
  have hform : d.checkForm config = [] := (List.append_eq_nil_iff.1 hd).1
  obtain ⟨hid, hpermissions, -⟩ := (checkForm_eq_nil_iff hon d).1 hform
  refine ⟨hid, hpermissions, fun p hp c hc scope _ f hselect hkind => ?_⟩
  obtain ⟨-, hf, hhandles⟩ := (select?_configured_iff config scope _ f).1 hselect
  have hpolicy : c ∈ d.policy.constraints := List.mem_flatMap.2 ⟨p, hp, hc⟩
  exact namesDids_of_checkForm hconfig hon hform hpolicy hf hkind hhandles

theorem dids_of_check_listed :
    let c : Constraint := ⟨Vocabulary.policyNamespace ++ "BusinessPartnerDID", .isAnyOf,
      .list ["did:web:a.example", "did:web:b.example"]⟩
    let d : PolicyDefinition := ⟨some "definition", ⟨[⟨"use", []⟩, ⟨"use", [c]⟩]⟩⟩
    d.check {} = [] ∧ (∃ id, d.id = some id ∧ Text.isBlank id = false) ∧
      ∀ value ∈ c.rightOperand.values, ∃ rest, value = "did:web:" ++ rest := by
  intro c d
  have hd : d.check {} = [] := by decide +kernel
  obtain ⟨hid, -, hdids⟩ := dids_of_check {} Configuration.check_default rfl d hd
  refine ⟨hd, hid, ?_⟩
  exact hdids ⟨"use", [c]⟩ (by simp [d]) c (by simp) .catalog (by decide)
    ⟨.businessPartnerDid, {}⟩ (by decide +kernel) rfl

end PolicyDefinition

namespace ConstraintFunction

theorem check_of_mem_credentialKinds {f : ConstraintFunction} (h : f.kind ∈ credentialKinds)
    (right : RightOperand) : f.check right = .ok () := by
  unfold check
  split
  · next hkind => simp [hkind, credentialKinds] at h
  · rfl

theorem check_partner_iff {f : ConstraintFunction} (hkind : f.kind = .businessPartnerDid)
    {c : Constraint} (hdids : c.NamesDids f.config.didStart) :
    f.check c.rightOperand = .ok () ↔
      ∀ value, c.rightOperand = .scalar value →
        Text.lower f.config.didStart = f.config.didStart := by
  cases hright : c.rightOperand with
  | scalar value =>
    obtain ⟨rest, hvalue⟩ := hdids value (by rw [hright]; exact List.mem_singleton_self value)
    have hcheck : f.check (.scalar value) = .ok () ↔
        Text.begins f.config.didStart (Text.lower value) = true := by simp [check, hkind]
    rw [hcheck, hvalue, Text.begins_lower_append_iff]
    simp
  | list values =>
    have hall : values.all (Text.begins f.config.didStart) = true := by
      refine List.all_eq_true.2 fun value hvalue => (Text.begins_iff _ _).2 (hdids value ?_)
      rw [hright]
      exact hvalue
    simp [check, hkind, hall]

end ConstraintFunction

namespace PolicyEngine

theorem functionFor?_eq_some_iff {engine : PolicyEngine} {config : Configuration}
    (h : ∀ scope, ∀ f ∈ engine.functions scope, f.config = config) (leftOperand : String)
    (f : ConstraintFunction) :
    engine.functionFor? leftOperand = some f ↔
      (∃ scope, f ∈ engine.functions scope) ∧ f.handles leftOperand = true := by
  constructor
  · intro hf
    obtain ⟨scope, -, hselect⟩ := List.exists_of_findSome?_eq_some hf
    obtain ⟨hmem, hhandles⟩ := ConstraintFunction.select?_eq_some hselect
    exact ⟨⟨scope, hmem⟩, hhandles⟩
  · rintro ⟨⟨scope, hf⟩, hhandles⟩
    cases hfound : engine.functionFor? leftOperand with
    | none =>
      have hnone := List.findSome?_eq_none_iff.1 hfound scope scope.mem_ascending
      exact absurd hhandles (List.find?_eq_none.1 hnone f hf)
    | some g =>
      obtain ⟨other, -, hselect⟩ := List.exists_of_findSome?_eq_some hfound
      obtain ⟨hg, hother⟩ := ConstraintFunction.select?_eq_some hselect
      have hsame : g.config = f.config := (h other g hg).trans (h scope f hf).symm
      rw [ConstraintFunction.eq_of_handles_same hsame hother hhandles]

theorem functionFor?_configured_iff (config : Configuration) (leftOperand : String)
    (f : ConstraintFunction) :
    (configured config).1.functionFor? leftOperand = some f ↔
      f.config = config ∧ f.handles leftOperand = true := by
  have hmem (scope : PolicyScope) (g : ConstraintFunction) :
      g ∈ (configured config).1.functions scope ↔
        scope ∈ PolicyScope.functionScopes ∧ g.config = config := by
    rw [functions_configured]
    split
    · next hscope => simp [hscope, ConstraintFunction.mem_standard]
    · next hscope => simp [hscope]
  rw [functionFor?_eq_some_iff fun scope g hg => ((hmem scope g).1 hg).2]
  simp only [hmem, exists_and_right]
  have hscopes : ∃ scope, scope ∈ PolicyScope.functionScopes := ⟨.catalog, by decide⟩
  rw [and_iff_right hscopes]

theorem checkConstraint_eq_some_iff (engine : PolicyEngine) (c : Constraint) (e : ValidationError) :
    engine.checkConstraint c = some e ↔
      ∃ f, engine.functionFor? c.leftOperand = some f ∧ f.check c.rightOperand = .error e := by
  unfold checkConstraint
  cases engine.functionFor? c.leftOperand with
  | none => simp
  | some f => cases hcheck : f.check c.rightOperand <;> simp [hcheck]

theorem checkConstraint_eq_none_iff (engine : PolicyEngine) (c : Constraint) :
    engine.checkConstraint c = none ↔
      ∀ f, engine.functionFor? c.leftOperand = some f → f.check c.rightOperand = .ok () := by
  unfold checkConstraint
  cases engine.functionFor? c.leftOperand with
  | none => simp
  | some f => cases hcheck : f.check c.rightOperand <;> simp [hcheck]

theorem check_configured_eq_nil_iff (config : Configuration) (policy : Policy) :
    (configured config).1.check policy = [] ↔
      ∀ c ∈ policy.constraints, ∀ f : ConstraintFunction, f.config = config →
        f.handles c.leftOperand = true → f.check c.rightOperand = .ok () := by
  rw [check, List.filterMap_eq_nil_iff]
  refine forall₂_congr fun c _ => ?_
  simp only [checkConstraint_eq_none_iff, functionFor?_configured_iff, and_imp]

end PolicyEngine

namespace PolicyDefinition

theorem check_configured_iff_of_checkForm [UrlParser] {config : Configuration}
    (hconfig : config.check = .ok ()) (hon : config.checksDidSelectors = true)
    {d : PolicyDefinition} (hd : d.checkForm config = []) :
    (configured config).1.check d.policy = [] ↔
      ∀ c ∈ d.policy.constraints, ∀ f : ConstraintFunction, f.config = config →
        f.kind = .businessPartnerDid → f.handles c.leftOperand = true →
        ∀ value, c.rightOperand = .scalar value →
          Text.lower config.didStart = config.didStart := by
  have hcheck {c : Constraint} (hc : c ∈ d.policy.constraints) {f : ConstraintFunction}
      (hf : f.config = config) (hkind : f.kind = .businessPartnerDid)
      (hhandles : f.handles c.leftOperand = true) :
      f.check c.rightOperand = .ok () ↔ ∀ value, c.rightOperand = .scalar value →
        Text.lower config.didStart = config.didStart := by
    have hdids := namesDids_of_checkForm hconfig hon hd hc hf hkind hhandles
    rw [← hf] at hdids ⊢
    exact ConstraintFunction.check_partner_iff hkind hdids
  rw [PolicyEngine.check_configured_eq_nil_iff]
  constructor
  · intro h c hc f hf hkind hhandles
    exact (hcheck hc hf hkind hhandles).1 (h c hc f hf hhandles)
  · intro h c hc f hf hhandles
    by_cases hcredential : f.kind ∈ credentialKinds
    · exact ConstraintFunction.check_of_mem_credentialKinds hcredential c.rightOperand
    · have hkind := FunctionKind.eq_businessPartnerDid hcredential
      exact (hcheck hc hf hkind hhandles).2 (h c hc f hf hkind hhandles)

theorem checks_agree_iff [UrlParser] (config : Configuration) (hconfig : config.check = .ok ())
    (hon : config.checksDidSelectors = true) :
    (∀ d : PolicyDefinition, d.checkForm config = [] → (configured config).1.check d.policy = []) ↔
      Text.lower config.didStart = config.didStart := by
  constructor
  · intro h
    -- the beginning of all DIDs, taken for one itself
    let c : Constraint := ⟨Vocabulary.businessPartnerDid, .eq, .scalar config.didStart⟩
    let d : PolicyDefinition := ⟨some "definition", ⟨[⟨"use", [c]⟩]⟩⟩
    have hconstraints : d.policy.constraints = [c] := rfl
    have hform : d.checkForm config = [] := by
      refine (checkForm_eq_nil_iff hon d).2 ⟨⟨_, rfl, by decide⟩, List.cons_ne_nil _ _, ?_⟩
      rw [hconstraints]
      intro other hother _ value hvalue
      obtain rfl := List.mem_singleton.1 hother
      exact ⟨"", by simpa [c, RightOperand.values] using hvalue⟩
    have hcheck := (check_configured_iff_of_checkForm hconfig hon hform).1 (h d hform)
    let f : ConstraintFunction := ⟨.businessPartnerDid, config⟩
    have hhandles : f.handles c.leftOperand = true :=
      (ConstraintFunction.handles_partner_iff rfl _).2 (.inl rfl)
    exact hcheck c (by simp [hconstraints]) f rfl rfl hhandles config.didStart rfl
  · intro hlower d hform
    exact (check_configured_iff_of_checkForm hconfig hon hform).2 fun _ _ _ _ _ _ _ _ => hlower

theorem checks_agree_iff_webDid :
    let d : PolicyDefinition := ⟨some "definition", ⟨[⟨"use",
      [⟨"BusinessPartnerDID", .eq, .scalar "did:web:Partner.example"⟩]⟩]⟩⟩
    d.checkForm {} = [] ∧ (configured {}).1.check d.policy = [] := by
  intro d
  have hform : d.checkForm {} = [] := by decide +kernel
  have hlower : Text.lower Vocabulary.webDid = Vocabulary.webDid := by decide +kernel
  exact ⟨hform, (checks_agree_iff {} Configuration.check_default rfl).2 hlower d hform⟩

theorem not_forall_checks_agree :
    ¬ ∀ (config : Configuration) (d : PolicyDefinition), config.check = .ok () →
      config.checksDidSelectors = true → d.checkForm config = [] →
      (configured config).1.check d.policy = [] := by
  intro h
  let config : Configuration := { didStart := "DID:WEB:" }
  let d : PolicyDefinition := ⟨some "definition-1", ⟨[⟨"use",
    [⟨"BusinessPartnerDID", .eq, .scalar "DID:WEB:partner.example"⟩]⟩]⟩⟩
  have hconfig : config.check = .ok () := Configuration.check_eq_ok (by decide +kernel)
  have hcheck := h config d hconfig rfl (by decide +kernel)
  exact absurd hcheck (by decide +kernel)

end PolicyDefinition

end CredentialPolicy
