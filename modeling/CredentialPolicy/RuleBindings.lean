import CredentialPolicy.PolicyScope

namespace CredentialPolicy

abbrev Binder := String → List PolicyScope

structure RuleBindings where
  named : List (String × PolicyScope)
  binders : List Binder

namespace RuleBindings

def empty : RuleBindings :=
  ⟨[], []⟩

def bind (b : RuleBindings) (key : String) (scope : PolicyScope) : RuleBindings :=
  { b with named := b.named ++ [(key, scope)] }

def bindDynamically (b : RuleBindings) (binder : Binder) : RuleBindings :=
  { b with binders := b.binders ++ [binder] }

def bindingsByName (b : RuleBindings) (key : String) : List PolicyScope :=
  (b.named.filter (·.1 = key)).map (·.2)

def bindings (b : RuleBindings) (key : String) : List PolicyScope :=
  let scopes := b.binders.foldl (fun scopes binder => scopes ++ binder key) (b.bindingsByName key)
  PolicyScope.ascending.filter scopes.contains

def isInScope (b : RuleBindings) (key : String) (scope : PolicyScope) : Bool :=
  b.named.contains (key, scope) || b.binders.any fun binder => (binder key).contains scope

theorem isInScope_iff (b : RuleBindings) (key : String) (scope : PolicyScope) :
    b.isInScope key scope = true ↔
      (key, scope) ∈ b.named ∨ ∃ binder ∈ b.binders, scope ∈ binder key := by
  rw [isInScope, Bool.or_eq_true, List.contains_iff_mem, List.any_eq_true]
  simp only [List.contains_iff_mem]

end RuleBindings

end CredentialPolicy
