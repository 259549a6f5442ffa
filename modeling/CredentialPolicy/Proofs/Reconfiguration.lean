import Mathlib.Data.List.Induction
import CredentialPolicy.Proofs.Binding

namespace CredentialPolicy

open FunctionKind (credentialKinds)

def HasDistinctKinds (functions : List ConstraintFunction) : Prop :=
  (functions.map (·.kind)).Nodup

theorem kinds_registerIn (f : ConstraintFunction) (functions : List ConstraintFunction) :
    (registerIn f functions).map (·.kind) =
      if f.kind ∈ functions.map (·.kind) then functions.map (·.kind)
      else functions.map (·.kind) ++ [f.kind] := by
  induction functions with
  | nil => rfl
  | cons g rest ih =>
    unfold registerIn
    by_cases h : g.kind = f.kind
    · simp [h]
    · have hne : f.kind ≠ g.kind := Ne.symm h
      simp only [if_neg h, List.map_cons, ih, List.mem_cons, hne, false_or]
      split
      · rfl
      · rfl

theorem HasDistinctKinds.registerIn {functions : List ConstraintFunction}
    (h : HasDistinctKinds functions) (f : ConstraintFunction) :
    HasDistinctKinds (registerIn f functions) := by
  rw [HasDistinctKinds, kinds_registerIn]
  split
  · exact h
  · next hnew =>
    refine List.nodup_append.2 ⟨h, List.nodup_cons.2 ⟨List.not_mem_nil, List.nodup_nil⟩, ?_⟩
    intro kind hkind other hother heq
    exact hnew (List.mem_singleton.1 hother ▸ heq ▸ hkind)

theorem mem_registerIn_iff {functions : List ConstraintFunction} (h : HasDistinctKinds functions)
    (f g : ConstraintFunction) :
    g ∈ registerIn f functions ↔ g = f ∨ g ∈ functions ∧ g.kind ≠ f.kind := by
  induction functions with
  | nil => simp [registerIn]
  | cons head rest ih =>
    obtain ⟨hhead, hrest⟩ := List.nodup_cons.1 h
    unfold registerIn
    by_cases hkind : head.kind = f.kind
    · -- the head gives way, and no other function is of its kind
      have hother : ∀ g ∈ rest, g.kind ≠ f.kind := by
        intro g hg heq
        exact hhead (List.mem_map.2 ⟨g, hg, heq.trans hkind.symm⟩)
      rw [if_pos hkind, List.mem_cons, List.mem_cons]
      constructor
      · rintro (hg | hg)
        · exact .inl hg
        · exact .inr ⟨.inr hg, hother g hg⟩
      · rintro (hg | ⟨rfl | hg, hne⟩)
        · exact .inl hg
        · exact absurd hkind hne
        · exact .inr hg
    · rw [if_neg hkind, List.mem_cons, ih hrest, List.mem_cons]
      constructor
      · rintro (rfl | hg | ⟨hg, hne⟩)
        · exact .inr ⟨.inl rfl, hkind⟩
        · exact .inl hg
        · exact .inr ⟨.inr hg, hne⟩
      · rintro (hg | ⟨rfl | hg, hne⟩)
        · exact .inr (.inl hg)
        · exact .inl rfl
        · exact .inr (.inr ⟨hg, hne⟩)

namespace PolicyEngine

def ofRegistrations (registrations : List (PolicyScope × ConstraintFunction)) : PolicyEngine :=
  registrations.foldl (fun engine r => engine.register r.1 r.2) empty

def IsRegistry (engine : PolicyEngine) : Prop :=
  ∀ scope, HasDistinctKinds (engine.functions scope)

theorem IsRegistry.register {engine : PolicyEngine} (h : engine.IsRegistry) (scope : PolicyScope)
    (f : ConstraintFunction) : (engine.register scope f).IsRegistry := by
  intro other
  simp only [PolicyEngine.register]
  split
  · exact (h other).registerIn f
  · exact h other

theorem ofRegistrations_concat (registrations : List (PolicyScope × ConstraintFunction))
    (last : PolicyScope × ConstraintFunction) :
    ofRegistrations (registrations ++ [last]) =
      (ofRegistrations registrations).register last.1 last.2 := by
  simp [ofRegistrations]

theorem isRegistry_ofRegistrations (registrations : List (PolicyScope × ConstraintFunction)) :
    (ofRegistrations registrations).IsRegistry := by
  induction registrations using List.reverseRecOn with
  | nil => exact fun _ => List.nodup_nil
  | append_singleton registrations last ih =>
    rw [ofRegistrations_concat]
    exact ih.register last.1 last.2

theorem functions_registerStandard (engine : PolicyEngine) (config : Configuration)
    {scope : PolicyScope} (hscope : scope ∈ PolicyScope.functionScopes) :
    (engine.registerStandard config).functions scope =
      (ConstraintFunction.standard config).foldl (fun functions f => registerIn f functions)
        (engine.functions scope) := by
  cases scope with
  | catalog | contractNegotiation | transferProcess => rfl
  | requestCatalog | requestContractNegotiation | requestTransferProcess =>
    exact absurd hscope (by decide)

end PolicyEngine

namespace ConstraintFunction

theorem mem_foldl_registerIn_iff {functions added : List ConstraintFunction}
    (h : HasDistinctKinds functions) (hadded : HasDistinctKinds added) (g : ConstraintFunction) :
    g ∈ added.foldl (fun functions f => registerIn f functions) functions ↔
      g ∈ added ∨ g ∈ functions ∧ ∀ f ∈ added, g.kind ≠ f.kind := by
  induction added generalizing functions with
  | nil => simp
  | cons f added ih =>
    obtain ⟨hf, hrest⟩ := List.nodup_cons.1 hadded
    rw [List.foldl_cons, ih (h.registerIn f) hrest, mem_registerIn_iff h, List.mem_cons,
      List.forall_mem_cons]
    constructor
    · rintro (hg | ⟨rfl | ⟨hg, hkind⟩, hothers⟩)
      · exact .inl (.inr hg)
      · exact .inl (.inl rfl)
      · exact .inr ⟨hg, hkind, hothers⟩
    · rintro ((rfl | hg) | ⟨hg, hkind, hothers⟩)
      · refine .inr ⟨.inl rfl, fun other hother heq => ?_⟩
        exact hf (List.mem_map.2 ⟨other, hother, heq.symm⟩)
      · exact .inl hg
      · exact .inr ⟨.inr ⟨hg, hkind⟩, hothers⟩

theorem hasDistinctKinds_standard (config : Configuration) :
    HasDistinctKinds (standard config) := by
  have hkinds : (standard config).map (·.kind) = FunctionKind.all := rfl
  rw [HasDistinctKinds, hkinds]
  decide

theorem mem_foldl_registerIn_standard {functions : List ConstraintFunction}
    (h : HasDistinctKinds functions) (config : Configuration) (g : ConstraintFunction) :
    g ∈ (standard config).foldl (fun functions f => registerIn f functions) functions ↔
      g.config = config := by
  rw [mem_foldl_registerIn_iff h (hasDistinctKinds_standard config), mem_standard]
  constructor
  · rintro (hconfig | ⟨-, hother⟩)
    · exact hconfig
    · -- a function of its kind was added
      exact absurd rfl (hother ⟨g.kind, config⟩ (mem_standard.2 rfl))
  · exact .inl

end ConstraintFunction

namespace RuleBindings

theorem named_registerStandard (bindings : RuleBindings) (config : Configuration) :
    (bindings.registerStandard config).named = bindings.named ++ (configured config).2.named := by
  simp [registerStandard, configured, bind, bindDynamically, empty, PolicyScope.functionScopes]

theorem binders_registerStandard (bindings : RuleBindings) (config : Configuration) :
    (bindings.registerStandard config).binders =
      bindings.binders ++ (configured config).2.binders := by
  simp [registerStandard, configured, bind, bindDynamically, empty, PolicyScope.functionScopes]

theorem isInScope_registerStandard (bindings : RuleBindings) (config : Configuration)
    (key : String) (scope : PolicyScope) :
    (bindings.registerStandard config).isInScope key scope = true ↔
      bindings.isInScope key scope = true ∨ (configured config).2.isInScope key scope = true := by
  simp only [isInScope_iff, named_registerStandard, binders_registerStandard, List.mem_append,
    or_and_right, exists_or]
  exact or_or_or_comm

end RuleBindings

namespace PolicyEngine

theorem decide_of_unhandled [DateFormat] (engine : PolicyEngine) {bindings : RuleBindings}
    {scope : PolicyScope} (participant : Option Participant) {c : Constraint}
    (hbound : bindings.isInScope c.leftOperand scope = true)
    (hnone : ConstraintFunction.select? (engine.functions scope) c.leftOperand = none) :
    engine.decide bindings scope participant c = .error (.noFunction c.leftOperand scope.name) := by
  rw [decide, if_pos hbound, hnone]

theorem select?_registerStandard {engine : PolicyEngine} (h : engine.IsRegistry)
    (config : Configuration) {scope : PolicyScope} (hscope : scope ∈ PolicyScope.functionScopes)
    (leftOperand : String) :
    ConstraintFunction.select? ((engine.registerStandard config).functions scope) leftOperand =
      ConstraintFunction.select? ((configured config).1.functions scope) leftOperand := by
  have hmem (g : ConstraintFunction) :
      g ∈ (engine.registerStandard config).functions scope ↔ g.config = config := by
    rw [functions_registerStandard engine config hscope]
    exact ConstraintFunction.mem_foldl_registerIn_standard (h scope) config g
  apply Option.ext
  intro f
  rw [ConstraintFunction.select?_eq_some_iff hmem, select?_configured_iff]
  simp [hscope]

theorem select?_configured_eq_none {config : Configuration} {scope : PolicyScope}
    (hscope : scope ∈ PolicyScope.functionScopes) {leftOperand : String}
    (h : (configured config).2.isInScope leftOperand scope = false) :
    ConstraintFunction.select? ((configured config).1.functions scope) leftOperand = none := by
  refine List.find?_eq_none.2 fun f hf hhandles => ?_
  have hbound := RuleBindings.isInScope_configured_functionScope config leftOperand hscope
  exact absurd (hbound.2 (.inl ⟨f, hf, hhandles⟩)) (by simp [h])

theorem reconfigured_fails_closed [DateFormat]
    (registrations : List (PolicyScope × ConstraintFunction)) (old new : Configuration)
    {scope : PolicyScope} (hscope : scope ∈ PolicyScope.functionScopes) (leftOperand : String) :
    let engine := (ofRegistrations registrations).registerStandard new
    let bindings := (RuleBindings.empty.registerStandard old).registerStandard new
    ConstraintFunction.select? (engine.functions scope) leftOperand =
        ConstraintFunction.select? ((configured new).1.functions scope) leftOperand ∧
      (bindings.isInScope leftOperand scope = true ↔
        (configured old).2.isInScope leftOperand scope = true ∨
          (configured new).2.isInScope leftOperand scope = true) ∧
      ((configured old).2.isInScope leftOperand scope = true →
        (configured new).2.isInScope leftOperand scope = false →
        ∀ (operator : Operator) (right : RightOperand) (participant : Option Participant)
          (problems : List Problem),
          let ctx : PolicyContext := ⟨scope, participant, problems⟩
          engine.evaluateConstraint bindings ⟨leftOperand, operator, right⟩ ctx =
            (false, ctx.report (.noFunction leftOperand scope.name))) := by
  intro engine bindings
  have hselect := select?_registerStandard (isRegistry_ofRegistrations registrations) new hscope
    leftOperand
  have hbound : bindings.isInScope leftOperand scope = true ↔ _ :=
    RuleBindings.isInScope_registerStandard (configured old).2 new leftOperand scope
  refine ⟨hselect, hbound, ?_⟩
  intro hold hnew operator right participant problems ctx
  have hnone : ConstraintFunction.select? (engine.functions scope) leftOperand = none :=
    hselect.trans (select?_configured_eq_none hscope hnew)
  have hdecide := engine.decide_of_unhandled participant (c := ⟨leftOperand, operator, right⟩)
    (hbound.2 (.inl hold)) hnone
  change ctx.settle (engine.decide bindings scope participant ⟨leftOperand, operator, right⟩) = _
  rw [hdecide]
  rfl

theorem reconfigured_fails_closed_renamed :
    let old : Configuration := { policyNamespace := "https://old.example/" }
    let registrations : List (PolicyScope × ConstraintFunction) :=
      [(.catalog, ⟨.businessPartnerDid, {}⟩), (.requestCatalog, ⟨.membership, old⟩),
        (.catalog, ⟨.membership, old⟩)]
    let leftOperand := "https://old.example/Membership"
    let c : Constraint := ⟨leftOperand, .neq, .scalar "active"⟩
    let engine := (ofRegistrations registrations).registerStandard {}
    let bindings := (RuleBindings.empty.registerStandard old).registerStandard {}
    let ctx : PolicyContext := .start .catalog none
    (configured old).2.isInScope leftOperand .catalog = true ∧
      (configured {}).2.isInScope leftOperand .catalog = false ∧
      engine.evaluateConstraint bindings c ctx =
        (false, ctx.report (.noFunction leftOperand "catalog")) := by
  intro old registrations leftOperand c engine bindings ctx
  have hold : (configured old).2.isInScope leftOperand .catalog = true := by decide +kernel
  have hnew : (configured {}).2.isInScope leftOperand .catalog = false := by decide +kernel
  have hscope : PolicyScope.catalog ∈ PolicyScope.functionScopes := by decide
  obtain ⟨-, -, hdenied⟩ := reconfigured_fails_closed registrations old {} hscope leftOperand
  exact ⟨hold, hnew, hdenied hold hnew .neq (.scalar "active") none []⟩

end PolicyEngine

end CredentialPolicy
