import CredentialPolicy.Proofs.Decision

namespace CredentialPolicy

def Fails {α : Type} (result : Except EvaluationError α) : Prop :=
  ∃ e, result = .error e

theorem length_flatMap_eq_countP {α β : Type} {f : α → List β} {p : α → Bool}
    (h : ∀ a, (f a).length = if p a then 1 else 0) (items : List α) :
    (items.flatMap f).length = items.countP p := by
  induction items with
  | nil => rfl
  | cons a items ih =>
    rw [List.flatMap_cons, List.length_append, h, ih, List.countP_cons, Nat.add_comm]

namespace PolicyContext

theorem isGrant_of_fails {decision : Except EvaluationError Bool} (h : Fails decision) :
    isGrant decision = false := by
  obtain ⟨e, rfl⟩ := h
  rfl

theorem problemsOf_of_fails {decision : Except EvaluationError Bool} (h : Fails decision) :
    ∃ problem, problemsOf decision = [problem] := by
  obtain ⟨e, rfl⟩ := h
  exact ⟨e.problem, rfl⟩

end PolicyContext

def Unusable [DateFormat] : Option Participant → Prop
  | none => True
  | some p => p.identity = none ∧ ∃ fault, p.credentials = .error fault

namespace ConstraintFunction

variable [DateFormat]

theorem not_decides_of_unusable {f : ConstraintFunction} {operator : Operator}
    {right : RightOperand} {participant : Option Participant} (h : Unusable participant)
    (granted : Bool) : ¬ f.Decides operator right participant granted := by
  intro hdecides
  cases hdecides with
  | presence _ _ _ hcredentials _ =>
    obtain ⟨-, fault, hfault⟩ := h
    cases hfault.symm.trans hcredentials
  | identity _ _ hidentity _ =>
    obtain ⟨hnone, -⟩ := h
    cases hnone.symm.trans hidentity

theorem decide_fails (f : ConstraintFunction) (operator : Operator) (right : RightOperand)
    {participant : Option Participant} (h : Unusable participant) :
    Fails (f.decide operator right participant) := by
  cases hdecision : f.decide operator right participant with
  | ok granted =>
    rw [decide_eq_ok_iff] at hdecision
    exact absurd hdecision (not_decides_of_unusable h granted)
  | error e => exact ⟨e, rfl⟩

end ConstraintFunction

namespace PolicyEngine

open PolicyContext

variable (engine : PolicyEngine) (bindings : RuleBindings) (scope : PolicyScope)

theorem decide_fails_of_bound [DateFormat] {participant : Option Participant}
    (hp : Unusable participant) {c : Constraint}
    (h : bindings.isInScope c.leftOperand scope = true) :
    Fails (engine.decide bindings scope participant c) := by
  rw [decide, if_pos h]
  cases ConstraintFunction.select? (engine.functions scope) c.leftOperand with
  | none => exact ⟨_, rfl⟩
  | some f => exact f.decide_fails c.operator c.rightOperand hp

theorem isGrant_decide_of_unusable [DateFormat] {participant : Option Participant}
    (hp : Unusable participant) (c : Constraint) :
    isGrant (engine.decide bindings scope participant c) =
      !bindings.isInScope c.leftOperand scope := by
  cases h : bindings.isInScope c.leftOperand scope with
  | false => rw [decide_of_unbound engine bindings scope participant h]; rfl
  | true => exact isGrant_of_fails (decide_fails_of_bound engine bindings scope hp h)

theorem length_problemsOf_decide_of_unusable [DateFormat] {participant : Option Participant}
    (hp : Unusable participant) (c : Constraint) :
    (problemsOf (engine.decide bindings scope participant c)).length =
      if bindings.isInScope c.leftOperand scope then 1 else 0 := by
  cases h : bindings.isInScope c.leftOperand scope with
  | false => rw [decide_of_unbound engine bindings scope participant h]; rfl
  | true =>
    obtain ⟨problem, hproblem⟩ :=
      problemsOf_of_fails (decide_fails_of_bound engine bindings scope hp h)
    rw [hproblem]
    rfl

theorem evaluatePolicy_of_unusable [DateFormat] (policy : Policy) (ctx : PolicyContext)
    (hp : Unusable ctx.participant) :
    let result := engine.evaluatePolicy bindings policy ctx
    let isBound := fun c : Constraint => bindings.isInScope c.leftOperand ctx.scope
    (result.1 = true ↔ ∀ c ∈ policy.constraints, isBound c = false) ∧
      (∃ added : List Problem, result.2.problems = ctx.problems ++ added ∧
        added.length = policy.constraints.countP isBound) ∧
      ∀ (leftOperand : String) (operator : Operator) (right : RightOperand),
        bindings.isInScope leftOperand ctx.scope = true →
        let outcome := engine.evaluateConstraint bindings ⟨leftOperand, operator, right⟩ ctx
        outcome.1 = false ∧ ∃ problem, outcome.2.problems = ctx.problems ++ [problem] := by
  intro result isBound
  have hresult : result = _ := evaluatePolicy_eq engine bindings policy ctx
  refine ⟨?_, ?_, ?_⟩
  · simp [hresult, isGrant_decide_of_unusable engine bindings ctx.scope hp, isBound]
  · rw [hresult]
    refine ⟨_, rfl, length_flatMap_eq_countP ?_ policy.constraints⟩
    exact length_problemsOf_decide_of_unusable engine bindings ctx.scope hp
  · intro leftOperand operator right hbound outcome
    have hfails : Fails (engine.decide bindings ctx.scope ctx.participant
        ⟨leftOperand, operator, right⟩) :=
      decide_fails_of_bound engine bindings ctx.scope hp hbound
    obtain ⟨problem, hproblem⟩ := problemsOf_of_fails hfails
    have houtcome : outcome = _ := evaluateConstraint_eq engine bindings _ ctx
    rw [houtcome]
    exact ⟨isGrant_of_fails hfails, problem, by simp [hproblem]⟩

theorem evaluatePolicy_of_unusable_anonymous :
    let nobody := Participant.anonymous.withClaim Vocabulary.credentialClaim (.text "none")
    let policy : Policy :=
      ⟨[⟨"use", [⟨Vocabulary.policyNamespace ++ Vocabulary.membership, .neq, .scalar "active"⟩,
          ⟨"Dismantler", .eq, .scalar "anything"⟩]⟩,
        ⟨"use", [⟨Vocabulary.businessPartnerDid, .isNoneOf, .list []⟩]⟩]⟩
    let ctx : PolicyContext := .start .catalog (some nobody)
    let result := (configured {}).1.evaluatePolicy (configured {}).2 policy ctx
    Unusable (some nobody) ∧ result.1 = false ∧ result.2.problems.length = 2 := by
  intro nobody policy ctx result
  have hnobody : Unusable (some nobody) := ⟨rfl, _, rfl⟩
  obtain ⟨hgrant, ⟨added, hadded, hlength⟩, -⟩ :=
    evaluatePolicy_of_unusable (configured {}).1 (configured {}).2 policy ctx hnobody
  have hcount : policy.constraints.countP (fun c =>
      (configured {}).2.isInScope c.leftOperand ctx.scope) = 2 := by decide +kernel
  have hdenied : ¬ ∀ c ∈ policy.constraints,
      (configured {}).2.isInScope c.leftOperand ctx.scope = false := by decide +kernel
  refine ⟨hnobody, Bool.eq_false_iff.2 fun hresult => hdenied (hgrant.1 hresult), ?_⟩
  rw [hadded, List.length_append, hlength, hcount]
  rfl

end PolicyEngine

end CredentialPolicy
