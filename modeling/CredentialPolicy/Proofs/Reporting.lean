import CredentialPolicy.Proofs.Decision

namespace CredentialPolicy

theorem length_flatMap_le_count {α β : Type} {f : α → List β} {p : α → Bool}
    (h : ∀ a, (f a).length ≤ if p a then 0 else 1) (items : List α) :
    (items.flatMap f).length ≤ (items.map p).count false := by
  induction items with
  | nil => exact Nat.le_refl _
  | cons a items ih =>
    have ha := h a
    rw [List.flatMap_cons, List.length_append, List.map_cons, List.count_cons]
    cases hp : p a with
    | true =>
      rw [hp, if_pos rfl] at ha
      simpa [Nat.le_zero.1 ha] using ih
    | false =>
      rw [hp, if_neg Bool.false_ne_true] at ha
      simpa [Nat.add_comm] using Nat.add_le_add ha ih

namespace PolicyContext

theorem length_problemsOf_le (decision : Except EvaluationError Bool) :
    (problemsOf decision).length ≤ if isGrant decision then 0 else 1 := by
  cases decision with
  | ok granted => simp [problemsOf]
  | error e => simp [problemsOf, isGrant]

theorem exists_kind_of_mem_problemsOf {decision : Except EvaluationError Bool} {problem : Problem}
    (h : problem ∈ problemsOf decision) : ∃ kind, problem.kind = some kind := by
  cases decision with
  | ok granted => cases h
  | error e =>
    rw [List.mem_singleton.1 h]
    exact ⟨e.kind, rfl⟩

theorem problemsOf_eq_nil_of_isGrant {decision : Except EvaluationError Bool}
    (h : isGrant decision = true) : problemsOf decision = [] := by
  cases decision with
  | ok granted => rfl
  | error e => cases h

theorem silent_denial_iff (decision : Except EvaluationError Bool) :
    isGrant decision = false ∧ problemsOf decision = [] ↔ decision = .ok false := by
  cases decision with
  | ok granted => simp [isGrant, problemsOf]
  | error e => simp [problemsOf]

end PolicyContext

namespace PolicyEngine

open PolicyContext

variable (engine : PolicyEngine) (bindings : RuleBindings)

def verdicts [DateFormat] : List Constraint → PolicyContext → List Bool
  | [], _ => []
  | c :: rest, ctx =>
    let outcome := engine.evaluateConstraint bindings c ctx
    outcome.1 :: verdicts rest outcome.2

theorem verdicts_eq [DateFormat] (constraints : List Constraint) (ctx : PolicyContext) :
    engine.verdicts bindings constraints ctx =
      constraints.map fun c => isGrant (engine.decide bindings ctx.scope ctx.participant c) := by
  induction constraints generalizing ctx with
  | nil => rfl
  | cons c rest ih =>
    rw [verdicts, ih, evaluateConstraint_eq]
    rfl

theorem decide_eq_ok_false_iff [DateFormat] (scope : PolicyScope) (participant : Option Participant)
    (c : Constraint) :
    engine.decide bindings scope participant c = .ok false ↔
      bindings.isInScope c.leftOperand scope = true ∧
        ∃ f, ConstraintFunction.select? (engine.functions scope) c.leftOperand = some f ∧
          f.Decides c.operator c.rightOperand participant false := by
  rw [decide_eq_ok_iff]
  cases bindings.isInScope c.leftOperand scope <;> simp

theorem reports_only_denials [DateFormat] (ctx : PolicyContext) :
    (∀ c : Constraint,
      let outcome := engine.evaluateConstraint bindings c ctx
      (∃ added : List Problem, outcome.2.problems = ctx.problems ++ added ∧ added.length ≤ 1 ∧
        (added ≠ [] → outcome.1 = false) ∧
        ∀ problem ∈ added, ∃ kind, problem.kind = some kind) ∧
      (outcome.1 = false ∧ outcome.2.problems = ctx.problems ↔
        bindings.isInScope c.leftOperand ctx.scope = true ∧
          ∃ f, ConstraintFunction.select? (engine.functions ctx.scope) c.leftOperand = some f ∧
            f.Decides c.operator c.rightOperand ctx.participant false)) ∧
    ∀ policy : Policy,
      let result := engine.evaluatePolicy bindings policy ctx
      let verdicts := engine.verdicts bindings policy.constraints ctx
      result.1 = verdicts.all id ∧ (result.1 = true → result.2.problems = ctx.problems) ∧
      ∃ added : List Problem, result.2.problems = ctx.problems ++ added ∧
        added.length ≤ verdicts.count false := by
  refine ⟨fun c => ?_, fun policy => ?_⟩
  · intro outcome
    have houtcome : outcome = _ := evaluateConstraint_eq engine bindings c ctx
    rw [houtcome]
    refine ⟨⟨_, rfl, ?_, fun hadded => ?_, fun problem => exists_kind_of_mem_problemsOf⟩, ?_⟩
    · have hlength := length_problemsOf_le
        (engine.decide bindings ctx.scope ctx.participant c)
      split at hlength
      · exact Nat.le_succ_of_le hlength
      · exact hlength
    · exact Bool.eq_false_iff.2 fun hgranted => hadded (problemsOf_eq_nil_of_isGrant hgranted)
    · rw [← decide_eq_ok_false_iff, ← silent_denial_iff]
      simp
  · intro result verdicts
    have hresult : result = _ := evaluatePolicy_eq engine bindings policy ctx
    have hverdicts : verdicts = _ := verdicts_eq engine bindings policy.constraints ctx
    rw [hresult, hverdicts]
    refine ⟨?_, fun hgranted => ?_, _, rfl, ?_⟩
    · rw [List.all_map]
      rfl
    · have hsilent : policy.constraints.flatMap (fun c =>
          problemsOf (engine.decide bindings ctx.scope ctx.participant c)) = [] := by
        refine List.flatMap_eq_nil_iff.2 fun c hc => ?_
        exact problemsOf_eq_nil_of_isGrant (List.all_eq_true.1 hgranted c hc)
      simp [hsilent]
    · exact length_flatMap_le_count (fun c => length_problemsOf_le _) policy.constraints

theorem reports_only_denials_stranger :
    let silent : Constraint :=
      ⟨Vocabulary.policyNamespace ++ "Membership", .eq, .scalar "active"⟩
    let reported : Constraint := ⟨Vocabulary.businessPartnerDid, .lt, .scalar "did:web:a"⟩
    let stranger := Participant.anonymous.withClaim Vocabulary.credentialClaim
      (.credentials [.ofTypes ["OtherCredential"] (.named "did:web:issuer")])
    let ctx : PolicyContext := .start .catalog (some stranger)
    let engine := (configured {}).1
    let bindings := (configured {}).2
    let outcome := engine.evaluateConstraint bindings silent ctx
    let result := engine.evaluatePolicy bindings ⟨[⟨"use", [silent, reported]⟩]⟩ ctx
    outcome.1 = false ∧ outcome.2.problems = [] ∧ result.1 = false ∧
      result.2.problems.length ≤ 2 := by
  intro silent reported stranger ctx engine bindings outcome result
  obtain ⟨hconstraint, hpolicy⟩ := reports_only_denials engine bindings ctx
  let f : ConstraintFunction := ⟨.membership, {}⟩
  have hcredentials : stranger.credentials =
      .ok [.ofTypes ["OtherCredential"] (.named "did:web:issuer")] := rfl
  have hmissing : ¬ f.Finds [.ofTypes ["OtherCredential"] (.named "did:web:issuer")] := by
    rw [← f.any_hasType_iff]
    decide +kernel
  have hdecides : f.Decides silent.operator silent.rightOperand ctx.participant false :=
    .presence (by decide) (.inl rfl) rfl hcredentials (by simp [silent, hmissing])
  obtain ⟨hdenied, hsilent⟩ := (hconstraint silent).2.2
    ⟨by decide +kernel, f, by decide +kernel, hdecides⟩
  obtain ⟨hall, -, added, hadded, hlength⟩ := hpolicy ⟨[⟨"use", [silent, reported]⟩]⟩
  refine ⟨hdenied, hsilent, ?_, ?_⟩
  · rw [show result.1 = _ from hall]
    decide +kernel
  · have hcount : (engine.verdicts bindings [silent, reported] ctx).count false = 2 := by
      decide +kernel
    rw [show result.2.problems = _ from hadded, ← hcount]
    exact hlength

end PolicyEngine

end CredentialPolicy
