import CredentialPolicy.Proofs.Comparison
import CredentialPolicy.Proofs.CredentialPresence

namespace CredentialPolicy

open FunctionKind (credentialKinds)

def ErrorsSatisfy {α : Type} (p : EvaluationError → Prop) (result : Except EvaluationError α) :
    Prop :=
  ∀ e, result = .error e → p e

section

variable {α β : Type} {p : EvaluationError → Prop}

theorem errorsSatisfy_ok (a : α) : ErrorsSatisfy p (.ok a) := by
  intro e h
  cases h

theorem errorsSatisfy_error {e : EvaluationError} (h : p e) :
    ErrorsSatisfy p (.error e : Except EvaluationError α) := by
  intro other hother
  cases hother
  exact h

theorem ErrorsSatisfy.bind {result : Except EvaluationError α} (h : ErrorsSatisfy p result)
    {next : α → Except EvaluationError β} (hnext : ∀ a, ErrorsSatisfy p (next a)) :
    ErrorsSatisfy p (result >>= next) := by
  cases result with
  | ok a => exact hnext a
  | error e => exact errorsSatisfy_error (h e rfl)

end

def FindsFunction (e : EvaluationError) : Prop :=
  e.kind ≠ .noFunction

namespace FindsFunction

open EvaluationError

theorem unsupportedOperator (operator : Operator) (supported : List Operator) :
    FindsFunction (.unsupportedOperator operator supported) := by
  simp [FindsFunction, kind]

theorem invalidRightOperandShape (operator : Operator) (expected received : String) :
    FindsFunction (.invalidRightOperandShape operator expected received) := by
  simp [FindsFunction, kind]

theorem extraction (fault : ExtractionError) : FindsFunction (.extraction fault) := by
  cases fault <;> simp [FindsFunction, kind, ExtractionError.kind]

end FindsFunction

theorem Matching.decide_findsFunction (identity : String) (right : RightOperand)
    (operator : Operator) : ErrorsSatisfy FindsFunction (decide identity right operator) := by
  intro e h
  rw [decide_eq_iff] at h
  cases h with
  | listExpected | scalarExpected => exact .invalidRightOperandShape _ _ _
  | unsupported => exact .unsupportedOperator _ _

theorem PresenceFault.findsFunction [DateFormat] {kind : FunctionKind} {operator : Operator}
    {right : RightOperand} {participant : Option Participant} {check : PresenceCheck}
    {e : EvaluationError} (h : PresenceFault kind operator right participant check e) :
    FindsFunction e := by
  cases h with
  | operator => exact .unsupportedOperator _ _
  | shape => exact .invalidRightOperandShape _ _ _
  | participant | claimMissing | claimWrongType | claimEmpty => exact .extraction _
  | membership | certification => simp [FindsFunction, EvaluationError.kind]

namespace ConstraintFunction

theorem extracted_findsFunction {α : Type} (result : Except ExtractionError α) :
    ErrorsSatisfy FindsFunction (extracted result) := by
  cases result with
  | ok a => exact errorsSatisfy_ok a
  | error fault => exact errorsSatisfy_error (.extraction fault)

theorem requireOperator_findsFunction (operator : Operator) (supported : List Operator) :
    ErrorsSatisfy FindsFunction (requireOperator operator supported) := by
  intro e h
  rw [requireOperator, guard_eq_error_iff] at h
  obtain ⟨-, rfl⟩ := h
  exact .unsupportedOperator operator supported

theorem decide_findsFunction [DateFormat] (f : ConstraintFunction) (operator : Operator)
    (right : RightOperand) (participant : Option Participant) :
    ErrorsSatisfy FindsFunction (f.decide operator right participant) := by
  by_cases hkind : f.kind ∈ credentialKinds
  · rw [decide_eq_decidePresence hkind]
    intro e h
    rw [decidePresence_eq_error_iff hkind] at h
    obtain ⟨check, hfault⟩ := h.exists_fails
    exact hfault.findsFunction
  · rw [decide, FunctionKind.eq_businessPartnerDid hkind]
    refine (requireOperator_findsFunction operator _).bind fun _ => ?_
    refine (extracted_findsFunction _).bind fun p => ?_
    refine (extracted_findsFunction _).bind fun identity => ?_
    exact Matching.decide_findsFunction identity right operator

theorem exists_handles_standard (config : Configuration) (leftOperand : String) :
    (∃ f ∈ standard config, f.handles leftOperand = true) ↔
      (∃ kind ∈ credentialKinds,
        ∃ rest, leftOperand = config.policyNamespace ++ kind.literal ++ rest) ∨
      leftOperand = Vocabulary.businessPartnerDid ∨
      leftOperand = config.policyNamespace ++ Vocabulary.businessPartnerDid := by
  constructor
  · rintro ⟨f, hf, hhandles⟩
    obtain rfl := mem_standard.1 hf
    by_cases hkind : f.kind ∈ credentialKinds
    · exact .inl ⟨f.kind, hkind, (handles_iff hkind leftOperand).1 hhandles⟩
    · have hpartner := FunctionKind.eq_businessPartnerDid hkind
      exact .inr ((handles_partner_iff hpartner leftOperand).1 hhandles)
  · rintro (⟨kind, hkind, hrest⟩ | hpartner)
    · exact ⟨⟨kind, config⟩, mem_standard.2 rfl, (handles_iff hkind leftOperand).2 hrest⟩
    · let f : ConstraintFunction := ⟨.businessPartnerDid, config⟩
      exact ⟨f, mem_standard.2 rfl, (handles_partner_iff rfl leftOperand).2 hpartner⟩

theorem not_handles_useAction (f : ConstraintFunction) :
    f.handles RuleBindings.useAction = false := by
  refine Bool.eq_false_iff.2 fun h => ?_
  rcases eq_of_handles h with ⟨-, hbare⟩ | ⟨rest, hrest⟩
  · exact absurd hbare (by decide)
  · have hcontains : Text.contains f.kind.literal RuleBindings.useAction = true :=
      (Text.contains_iff _ _).2 ⟨_, rest, hrest⟩
    revert hcontains
    cases f.kind <;> decide

end ConstraintFunction

theorem PolicyScope.not_mem_functionScopes {scope : PolicyScope} (h : scope.isRequest = true) :
    scope ∉ functionScopes := by
  cases scope with
  | catalog | contractNegotiation | transferProcess => cases h
  | requestCatalog | requestContractNegotiation | requestTransferProcess => decide

namespace RuleBindings

theorem isInScope_configured_functionScope (config : Configuration) (leftOperand : String)
    {scope : PolicyScope} (hscope : scope ∈ PolicyScope.functionScopes) :
    (configured config).2.isInScope leftOperand scope = true ↔
      (∃ f ∈ (configured config).1.functions scope, f.handles leftOperand = true) ∨
        leftOperand = useAction := by
  rw [isInScope_configured, functions_configured, if_pos hscope,
    ConstraintFunction.exists_handles_standard]
  simp only [hscope, namedKeys, List.mem_cons, List.not_mem_nil, or_false, true_and]
  exact (or_congr_right or_comm).trans or_assoc.symm

theorem isInScope_configured_request (config : Configuration) (leftOperand : String)
    {scope : PolicyScope} (hscope : scope.isRequest = true) :
    (configured config).2.isInScope leftOperand scope = true ↔
      Text.begins (config.policyNamespace ++ Vocabulary.membership) leftOperand = true ∨
        Text.begins (config.policyNamespace ++ Vocabulary.certificationType) leftOperand = true := by
  rw [isInScope_configured, Text.begins_iff, Text.begins_iff]
  simp [PolicyScope.not_mem_functionScopes hscope, credentialKinds, FunctionKind.literal]

end RuleBindings

theorem PolicyContext.exists_problem_of_kind_iff (decision : Except EvaluationError Bool)
    (kind : EvaluationErrorKind) :
    (∃ problem ∈ problemsOf decision, problem.kind = some kind) ↔
      ∃ e, decision = .error e ∧ e.kind = kind := by
  cases decision with
  | ok granted => simp [problemsOf]
  | error e => simp [problemsOf, EvaluationError.problem]

namespace PolicyEngine

open PolicyContext

theorem decide_configured_request [DateFormat] (config : Configuration) {scope : PolicyScope}
    (hscope : scope.isRequest = true) (participant : Option Participant) (c : Constraint) :
    (configured config).1.decide (configured config).2 scope participant c =
      if (configured config).2.isInScope c.leftOperand scope then
        .error (.noFunction c.leftOperand scope.name)
      else .ok true := by
  rw [decide, functions_configured, if_neg (PolicyScope.not_mem_functionScopes hscope)]
  rfl

theorem decide_configured_noFunction_iff [DateFormat] (config : Configuration) {scope : PolicyScope}
    (hscope : scope ∈ PolicyScope.functionScopes) (participant : Option Participant)
    (c : Constraint) :
    (∃ e, (configured config).1.decide (configured config).2 scope participant c = .error e ∧
        e.kind = .noFunction) ↔
      c.leftOperand = RuleBindings.useAction := by
  have hbound := RuleBindings.isInScope_configured_functionScope config c.leftOperand hscope
  constructor
  · rintro ⟨e, he, hkind⟩
    unfold decide at he
    split at he
    · next hinScope =>
      split at he
      · next f _ =>
        -- what a function reports is of another kind
        exact absurd hkind (f.decide_findsFunction c.operator c.rightOperand participant e he)
      · next hnone =>
        refine (hbound.1 hinScope).resolve_left ?_
        rintro ⟨f, hf, hhandles⟩
        exact absurd hhandles (List.find?_eq_none.1 hnone f hf)
    · cases he
  · intro huse
    have hnone : ConstraintFunction.select? ((configured config).1.functions scope)
        c.leftOperand = none := by
      refine List.find?_eq_none.2 fun f _ => ?_
      rw [huse, f.not_handles_useAction]
      exact Bool.false_ne_true
    refine ⟨.noFunction c.leftOperand scope.name, ?_, rfl⟩
    rw [decide, if_pos (hbound.2 (.inr huse)), hnone]

theorem bindings_agree_with_functions [DateFormat] (config : Configuration) (c : Constraint)
    (ctx : PolicyContext) :
    let engine := (configured config).1
    let bindings := (configured config).2
    let outcome := engine.evaluateConstraint bindings c ctx
    (ctx.scope ∈ PolicyScope.functionScopes →
      (bindings.isInScope c.leftOperand ctx.scope = true ↔
        (∃ f ∈ engine.functions ctx.scope, f.handles c.leftOperand = true) ∨
          c.leftOperand = RuleBindings.useAction) ∧
      ∃ added : List Problem, outcome.2.problems = ctx.problems ++ added ∧
        ((∃ problem ∈ added, problem.kind = some .noFunction) ↔
          c.leftOperand = RuleBindings.useAction)) ∧
    (ctx.scope.isRequest = true →
      (bindings.isInScope c.leftOperand ctx.scope = true ↔
        Text.begins (config.policyNamespace ++ Vocabulary.membership) c.leftOperand = true ∨
          Text.begins (config.policyNamespace ++ Vocabulary.certificationType) c.leftOperand =
            true) ∧
      outcome =
        if bindings.isInScope c.leftOperand ctx.scope then
          (false, ctx.report (.noFunction c.leftOperand ctx.scope.name))
        else (true, ctx)) := by
  intro engine bindings outcome
  have houtcome : outcome = _ := evaluateConstraint_eq engine bindings c ctx
  refine ⟨fun hscope => ⟨?_, ?_⟩, fun hscope => ⟨?_, ?_⟩⟩
  · exact RuleBindings.isInScope_configured_functionScope config c.leftOperand hscope
  · rw [houtcome]
    refine ⟨_, rfl, ?_⟩
    rw [exists_problem_of_kind_iff]
    exact decide_configured_noFunction_iff config hscope ctx.participant c
  · exact RuleBindings.isInScope_configured_request config c.leftOperand hscope
  · have hdecide := decide_configured_request config hscope ctx.participant c
    change ctx.settle (engine.decide bindings ctx.scope ctx.participant c) = _
    rw [hdecide]
    split
    · rfl
    · rfl

theorem bindings_agree_with_functions_useAction :
    let c : Constraint := ⟨RuleBindings.useAction, .isNoneOf, .list []⟩
    let engine := (configured {}).1
    let bindings := (configured {}).2
    let ctx : PolicyContext := .start .catalog none
    let requestCtx : PolicyContext := .start .requestCatalog none
    bindings.isInScope c.leftOperand .catalog = true ∧
      (∃ problem ∈ (engine.evaluateConstraint bindings c ctx).2.problems,
        problem.kind = some .noFunction) ∧
      engine.evaluateConstraint bindings c requestCtx = (true, requestCtx) := by
  intro c engine bindings ctx requestCtx
  have hfunction : ctx.scope ∈ PolicyScope.functionScopes := by decide
  have hrequest : requestCtx.scope.isRequest = true := rfl
  obtain ⟨hbound, added, hadded, hkind⟩ := (bindings_agree_with_functions {} c ctx).1 hfunction
  obtain ⟨hiff, houtcome⟩ := (bindings_agree_with_functions {} c requestCtx).2 hrequest
  refine ⟨hbound.2 (.inr rfl), ?_, houtcome.trans (if_neg fun h => ?_)⟩
  · rw [hadded]
    exact hkind.2 rfl
  · exact absurd (hiff.1 h) (by decide +kernel)

end PolicyEngine

end CredentialPolicy
