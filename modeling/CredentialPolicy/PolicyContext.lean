import CredentialPolicy.EvaluationError
import CredentialPolicy.Participant
import CredentialPolicy.PolicyScope

namespace CredentialPolicy

/-- A report to whoever asked. One without a kind is free text. -/
structure Problem where
  kind : Option EvaluationErrorKind
  message : String
deriving DecidableEq, Repr

def EvaluationError.problem (e : EvaluationError) : Problem :=
  ⟨some e.kind, e.message⟩

structure PolicyContext where
  scope : PolicyScope
  participant : Option Participant
  problems : List Problem

namespace PolicyContext

def start (scope : PolicyScope) (participant : Option Participant) : PolicyContext :=
  ⟨scope, participant, []⟩

def addProblem (ctx : PolicyContext) (problem : Problem) : PolicyContext :=
  { ctx with problems := ctx.problems ++ [problem] }

def report (ctx : PolicyContext) (e : EvaluationError) : PolicyContext :=
  ctx.addProblem e.problem

def reportText (ctx : PolicyContext) (message : String) : PolicyContext :=
  ctx.addProblem ⟨none, message⟩

/-- A decision as it counts in the context: what cannot be decided is denied and reported. -/
def settle (ctx : PolicyContext) : Except EvaluationError Bool → Bool × PolicyContext
  | .ok granted => (granted, ctx)
  | .error e => (false, ctx.report e)

def hasProblems (ctx : PolicyContext) : Bool :=
  !ctx.problems.isEmpty

def hasProblemOf (ctx : PolicyContext) (kind : EvaluationErrorKind) : Bool :=
  ctx.problems.any (·.kind = some kind)

def problemsOf : Except EvaluationError Bool → List Problem
  | .ok _ => []
  | .error e => [e.problem]

@[simp]
theorem scope_settle (ctx : PolicyContext) (decision : Except EvaluationError Bool) :
    (ctx.settle decision).2.scope = ctx.scope := by
  cases decision <;> rfl

@[simp]
theorem participant_settle (ctx : PolicyContext) (decision : Except EvaluationError Bool) :
    (ctx.settle decision).2.participant = ctx.participant := by
  cases decision <;> rfl

theorem problems_settle (ctx : PolicyContext) (decision : Except EvaluationError Bool) :
    (ctx.settle decision).2.problems = ctx.problems ++ problemsOf decision := by
  cases decision <;> simp [settle, problemsOf, report, addProblem]

end PolicyContext

end CredentialPolicy
