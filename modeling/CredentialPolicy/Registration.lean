import CredentialPolicy.PolicyEngine

namespace CredentialPolicy

def PolicyEngine.registerStandard (engine : PolicyEngine) (config : Configuration) :
    PolicyEngine :=
  PolicyScope.functionScopes.foldl
    (fun engine scope =>
      (ConstraintFunction.standard config).foldl (fun engine f => engine.register scope f) engine)
    engine

namespace RuleBindings

def useAction : String :=
  Vocabulary.odrlNamespace ++ "use"

def everywhere (starts : List String) : Binder := fun key =>
  if starts.any (Text.begins · key) then PolicyScope.all else []

def registerStandard (bindings : RuleBindings) (config : Configuration) : RuleBindings :=
  let starts :=
    [config.policyNamespace ++ Vocabulary.certificationType,
      config.policyNamespace ++ Vocabulary.membership]
  let keys :=
    [useAction, Vocabulary.businessPartnerDid,
      config.policyNamespace ++ Vocabulary.businessPartnerDid]
  PolicyScope.functionScopes.foldl
    (fun bindings scope => keys.foldl (fun bindings key => bindings.bind key scope) bindings)
    (bindings.bindDynamically (everywhere starts))

end RuleBindings

def configured (config : Configuration) : PolicyEngine × RuleBindings :=
  (PolicyEngine.empty.registerStandard config, RuleBindings.empty.registerStandard config)

structure Report where
  scope : PolicyScope
  granted : Bool
  problems : List Problem
deriving DecidableEq, Repr

def evaluate [DateFormat] (config : Configuration) (policy : Policy) (participant : Participant)
    (scope : PolicyScope) : Report :=
  let (engine, bindings) := configured config
  let (granted, ctx) := engine.evaluatePolicy bindings policy (.start scope (some participant))
  ⟨scope, granted, ctx.problems⟩

end CredentialPolicy
