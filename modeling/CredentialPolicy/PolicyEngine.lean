import CredentialPolicy.ConstraintFunction
import CredentialPolicy.RuleBindings

namespace CredentialPolicy

/-- Puts a function in the place of the one of its kind, or behind all others. -/
def registerIn (f : ConstraintFunction) : List ConstraintFunction → List ConstraintFunction
  | [] => [f]
  | g :: rest => if g.kind = f.kind then f :: rest else g :: registerIn f rest

structure PolicyEngine where
  functions : PolicyScope → List ConstraintFunction

namespace PolicyEngine

def empty : PolicyEngine :=
  ⟨fun _ => []⟩

def register (engine : PolicyEngine) (scope : PolicyScope) (f : ConstraintFunction) :
    PolicyEngine :=
  ⟨fun s => if s = scope then registerIn f (engine.functions s) else engine.functions s⟩

def decide [DateFormat] (engine : PolicyEngine) (bindings : RuleBindings) (scope : PolicyScope)
    (participant : Option Participant) (c : Constraint) : Except EvaluationError Bool :=
  if bindings.isInScope c.leftOperand scope then
    match ConstraintFunction.select? (engine.functions scope) c.leftOperand with
    | some f => f.decide c.operator c.rightOperand participant
    | none => .error (.noFunction c.leftOperand scope.name)
  else .ok true

def evaluateConstraint [DateFormat] (engine : PolicyEngine) (bindings : RuleBindings)
    (c : Constraint) (ctx : PolicyContext) : Bool × PolicyContext :=
  ctx.settle (engine.decide bindings ctx.scope ctx.participant c)

def evaluatePermission [DateFormat] (engine : PolicyEngine) (bindings : RuleBindings)
    (p : Permission) (ctx : PolicyContext) : Bool × PolicyContext :=
  p.constraints.foldl
    (fun (granted, ctx) c =>
      let (holds, ctx) := engine.evaluateConstraint bindings c ctx
      (granted && holds, ctx))
    (true, ctx)

def evaluatePolicy [DateFormat] (engine : PolicyEngine) (bindings : RuleBindings) (policy : Policy)
    (ctx : PolicyContext) : Bool × PolicyContext :=
  policy.permissions.foldl
    (fun (granted, ctx) p =>
      let (holds, ctx) := engine.evaluatePermission bindings p ctx
      (granted && holds, ctx))
    (true, ctx)

def functionFor? (engine : PolicyEngine) (leftOperand : String) : Option ConstraintFunction :=
  PolicyScope.ascending.findSome? fun scope =>
    ConstraintFunction.select? (engine.functions scope) leftOperand

def checkConstraint (engine : PolicyEngine) (c : Constraint) : Option ValidationError :=
  match engine.functionFor? c.leftOperand with
  | none => none
  | some f =>
    match f.check c.rightOperand with
    | .ok _ => none
    | .error e => some e

def check (engine : PolicyEngine) (policy : Policy) : List ValidationError :=
  policy.constraints.filterMap engine.checkConstraint

end PolicyEngine

end CredentialPolicy
