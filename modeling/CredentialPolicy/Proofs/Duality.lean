import CredentialPolicy.Proofs.Composition

namespace CredentialPolicy

inductive Operator.Dual : Operator → Operator → Prop
  | eq : Dual .eq .neq
  | isIn : Dual .isIn .isNoneOf
  | isA : Dual .isA .isNoneOf
  | isAnyOf : Dual .isAnyOf .isNoneOf

/-- Two results that go together: related values, or failures for reasons of one kind. -/
inductive Parallel {α β : Type} (r : α → β → Prop) :
    Except EvaluationError α → Except EvaluationError β → Prop
  | ok {a : α} {b : β} (h : r a b) : Parallel r (.ok a) (.ok b)
  | error {e other : EvaluationError} (h : e.kind = other.kind) :
      Parallel r (.error e) (.error other)

namespace Parallel

variable {α β : Type}

theorem refl (result : Except EvaluationError α) : Parallel Eq result result := by
  cases result with
  | ok a => exact .ok rfl
  | error e => exact .error rfl

theorem bind {result other : Except EvaluationError α} (h : Parallel Eq result other)
    {r : β → β → Prop} {next otherNext : α → Except EvaluationError β}
    (hnext : ∀ a, Parallel r (next a) (otherNext a)) :
    Parallel r (result >>= next) (other >>= otherNext) := by
  cases h with
  | @ok a b hab =>
    obtain rfl := hab
    exact hnext a
  | error hkind => exact .error hkind

end Parallel

def Complementary (granted other : Bool) : Prop :=
  other = !granted

theorem Matching.decide_dual (identity : String) (right : RightOperand) {operator dual : Operator}
    (h : operator.Dual dual) :
    Parallel Complementary (decide identity right operator) (decide identity right dual) := by
  cases h with
  | eq => exact .ok rfl
  | isIn | isA | isAnyOf =>
    cases right with
    | scalar value => exact .error rfl
    | list values => exact .ok rfl

namespace ConstraintFunction

theorem requireScalar_parallel (operator other : Operator) (right : RightOperand) :
    Parallel Eq (requireScalar operator right) (requireScalar other right) := by
  cases right with
  | scalar value => exact .ok rfl
  | list values => exact .error rfl

theorem decidePresence_dual [DateFormat] (f : ConstraintFunction) (right : RightOperand)
    (participant : Option Participant) {operator dual : Operator} (h : operator.Dual dual) :
    Parallel Complementary (f.decidePresence operator right participant)
      (f.decidePresence dual right participant) := by
  cases h with
  | eq =>
    refine (Parallel.refl (.ok ())).bind fun _ => ?_
    refine (requireScalar_parallel .eq .neq right).bind fun value => ?_
    refine (Parallel.refl _).bind fun p => ?_
    refine (Parallel.refl _).bind fun credentials => ?_
    exact (Parallel.refl _).bind fun _ => .ok rfl
  -- of the others neither is known where credentials are looked for
  | isIn | isA | isAnyOf => exact .error rfl

theorem decideIdentity_dual (right : RightOperand) (participant : Option Participant)
    {operator dual : Operator} (h : operator.Dual dual) :
    Parallel Complementary (decideIdentity operator right participant)
      (decideIdentity dual right participant) := by
  have hoperator : Parallel Eq (requireOperator operator Matching.operators)
      (requireOperator dual Matching.operators) := by
    cases h with
    | eq | isIn | isA | isAnyOf => exact .ok rfl
  refine hoperator.bind fun _ => ?_
  refine (Parallel.refl _).bind fun p => ?_
  refine (Parallel.refl _).bind fun identity => ?_
  exact Matching.decide_dual identity right h

theorem decide_dual [DateFormat] (f : ConstraintFunction) (right : RightOperand)
    (participant : Option Participant) {operator dual : Operator} (h : operator.Dual dual) :
    Parallel Complementary (f.decide operator right participant)
      (f.decide dual right participant) := by
  unfold decide
  split
  · exact decideIdentity_dual right participant h
  · exact f.decidePresence_dual right participant h

theorem dual_decisions [DateFormat] (config : Configuration) (kind : FunctionKind)
    {operator dual : Operator} (h : operator.Dual dual) (right : RightOperand)
    (ctx : PolicyContext) :
    let f : ConstraintFunction := ⟨kind, config⟩
    let outcome := f.evaluate operator right ctx
    let dualOutcome := f.evaluate dual right ctx
    (outcome.2.problems = ctx.problems ∧ dualOutcome.2.problems = ctx.problems ∧
        dualOutcome.1 = !outcome.1) ∨
      (outcome.1 = false ∧ dualOutcome.1 = false ∧
        ∃ problem dualProblem : Problem, ∃ errorKind : EvaluationErrorKind,
          outcome.2.problems = ctx.problems ++ [problem] ∧
          dualOutcome.2.problems = ctx.problems ++ [dualProblem] ∧
          problem.kind = some errorKind ∧ dualProblem.kind = some errorKind) := by
  intro f outcome dualOutcome
  have houtcome : outcome = ctx.settle (f.decide operator right ctx.participant) := rfl
  have hdual : dualOutcome = ctx.settle (f.decide dual right ctx.participant) := rfl
  have hparallel := f.decide_dual right ctx.participant h
  rw [houtcome, hdual]
  generalize f.decide operator right ctx.participant = decision at hparallel
  generalize f.decide dual right ctx.participant = dualDecision at hparallel
  cases hparallel with
  | ok hcomplementary => exact .inl ⟨rfl, rfl, hcomplementary⟩
  | @error e other hkind =>
    refine .inr ⟨rfl, rfl, e.problem, other.problem, e.kind, rfl, rfl, rfl, ?_⟩
    rw [hkind]
    rfl

theorem dual_decisions_empty :
    let partner : ConstraintFunction := ⟨.businessPartnerDid, {}⟩
    let membership : ConstraintFunction := ⟨.membership, {}⟩
    let ctx : PolicyContext := .start .catalog (some ⟨some "did:web:a", .empty⟩)
    let right : RightOperand := .list []
    Operator.Dual .isAnyOf .isNoneOf ∧ Operator.Dual .eq .neq ∧
      (partner.evaluate .isAnyOf right ctx).1 = false ∧
      (partner.evaluate .isNoneOf right ctx).1 = true ∧
      (membership.evaluate .eq right ctx).1 = false ∧
      (membership.evaluate .neq right ctx).1 = false := by
  intro partner membership ctx right
  have hdenied : (partner.evaluate .isAnyOf right ctx).1 = false := rfl
  have hsilent : (partner.evaluate .isAnyOf right ctx).2.problems = [] := rfl
  have hreported : (membership.evaluate .eq right ctx).2.problems ≠ [] := by decide +kernel
  refine ⟨.isAnyOf, .eq, hdenied, ?_, ?_⟩
  · rcases dual_decisions {} .businessPartnerDid .isAnyOf right ctx with
      ⟨-, -, hdual⟩ | ⟨-, -, _, _, _, hproblem, -⟩
    · rw [hdual, hdenied]
      rfl
    · rw [hsilent] at hproblem
      cases hproblem
  · rcases dual_decisions {} .membership .eq right ctx with ⟨hproblems, -⟩ | ⟨hgranted, hdual, -⟩
    · exact absurd hproblems hreported
    · exact ⟨hgranted, hdual⟩

end ConstraintFunction

end CredentialPolicy
