import Mathlib.Data.List.Induction
import CredentialPolicy.RuleBindings
import CredentialPolicy.Text.Affix

namespace CredentialPolicy

inductive BindingCall
  | named (key : String) (scope : PolicyScope)
  | dynamic (binder : Binder)

def Binds (calls : List BindingCall) (key : String) (scope : PolicyScope) : Prop :=
  .named key scope ∈ calls ∨ ∃ binder, .dynamic binder ∈ calls ∧ scope ∈ binder key

section

variable {calls others : List BindingCall} {key : String} {scope : PolicyScope}

theorem not_binds_nil : ¬ Binds [] key scope := by
  rintro (h | ⟨binder, h, -⟩)
  · exact List.not_mem_nil h
  · exact List.not_mem_nil h

theorem binds_append :
    Binds (calls ++ others) key scope ↔ Binds calls key scope ∨ Binds others key scope := by
  constructor
  · rintro (h | ⟨binder, h, hscope⟩)
    · exact (List.mem_append.1 h).imp .inl .inl
    · exact (List.mem_append.1 h).imp (.inr ⟨binder, ·, hscope⟩) (.inr ⟨binder, ·, hscope⟩)
  · rintro ((h | ⟨binder, h, hscope⟩) | (h | ⟨binder, h, hscope⟩))
    · exact .inl (List.mem_append_left _ h)
    · exact .inr ⟨binder, List.mem_append_left _ h, hscope⟩
    · exact .inl (List.mem_append_right _ h)
    · exact .inr ⟨binder, List.mem_append_right _ h, hscope⟩

theorem binds_named {name : String} {bound : PolicyScope} :
    Binds [.named name bound] key scope ↔ key = name ∧ scope = bound := by
  simp [Binds]

theorem binds_dynamic {binder : Binder} :
    Binds [.dynamic binder] key scope ↔ scope ∈ binder key := by
  simp [Binds]

theorem binds_congr (h : ∀ call, call ∈ others ↔ call ∈ calls) :
    Binds others key scope ↔ Binds calls key scope := by
  simp only [Binds, h]

end

namespace RuleBindings

theorem mem_foldl_binders (binders : List Binder) (key : String) (scopes : List PolicyScope)
    (scope : PolicyScope) :
    scope ∈ binders.foldl (fun scopes binder => scopes ++ binder key) scopes ↔
      scope ∈ scopes ∨ ∃ binder ∈ binders, scope ∈ binder key := by
  simp [List.foldl_append_eq_append]

theorem mem_bindingsByName (b : RuleBindings) (key : String) (scope : PolicyScope) :
    scope ∈ b.bindingsByName key ↔ (key, scope) ∈ b.named := by
  simp [bindingsByName]

theorem bindings_eq_filter (b : RuleBindings) (key : String) :
    b.bindings key = PolicyScope.ascending.filter (b.isInScope key) := by
  refine List.filter_congr fun scope _ => Bool.eq_iff_iff.2 ?_
  rw [List.contains_iff_mem, mem_foldl_binders, mem_bindingsByName, isInScope_iff]

theorem mem_bindings_iff (b : RuleBindings) (key : String) (scope : PolicyScope) :
    scope ∈ b.bindings key ↔ b.isInScope key scope = true := by
  rw [bindings_eq_filter, List.mem_filter]
  exact and_iff_right scope.mem_ascending

def apply (b : RuleBindings) : BindingCall → RuleBindings
  | .named key scope => b.bind key scope
  | .dynamic binder => b.bindDynamically binder

theorem isInScope_apply (b : RuleBindings) (call : BindingCall) (key : String)
    (scope : PolicyScope) :
    (b.apply call).isInScope key scope = true ↔
      b.isInScope key scope = true ∨ Binds [call] key scope := by
  rw [isInScope_iff, isInScope_iff]
  cases call with
  | named name bound =>
    rw [binds_named, apply, bind, List.mem_append, List.mem_singleton, Prod.mk.injEq]
    exact or_right_comm
  | dynamic binder =>
    simp only [binds_dynamic, apply, bindDynamically, List.mem_append, List.mem_singleton,
      or_and_right, exists_or, exists_eq_left]
    exact or_assoc.symm

theorem bindingsByName_apply (b : RuleBindings) {call : BindingCall} {key : String}
    (h : ∀ scope, call ≠ .named key scope) :
    (b.apply call).bindingsByName key = b.bindingsByName key := by
  cases call with
  | named name scope =>
    have hname : name ≠ key := fun heq => h scope (heq ▸ rfl)
    simp [apply, bind, bindingsByName, hname]
  | dynamic binder => rfl

def ofCalls (calls : List BindingCall) : RuleBindings :=
  calls.foldl apply empty

theorem ofCalls_concat (calls : List BindingCall) (last : BindingCall) :
    ofCalls (calls ++ [last]) = (ofCalls calls).apply last := by
  simp [ofCalls]

theorem isInScope_ofCalls (calls : List BindingCall) (key : String) (scope : PolicyScope) :
    (ofCalls calls).isInScope key scope = true ↔ Binds calls key scope := by
  induction calls using List.reverseRecOn with
  | nil => exact iff_of_false Bool.false_ne_true not_binds_nil
  | append_singleton calls last ih => rw [ofCalls_concat, isInScope_apply, ih, binds_append]

theorem bindingsByName_ofCalls_append (calls : List BindingCall) {later : List BindingCall}
    {key : String} (h : ∀ scope, .named key scope ∉ later) :
    (ofCalls (calls ++ later)).bindingsByName key = (ofCalls calls).bindingsByName key := by
  induction later using List.reverseRecOn with
  | nil => rw [List.append_nil]
  | append_singleton later last ih =>
    have hlater : ∀ scope, .named key scope ∉ later :=
      fun scope hmem => h scope (List.mem_append_left _ hmem)
    have hlast : ∀ scope, last ≠ .named key scope :=
      fun scope heq => h scope (List.mem_append_right _ (List.mem_singleton.2 heq.symm))
    rw [← List.append_assoc, ofCalls_concat, bindingsByName_apply _ hlast, ih hlater]

theorem lookups_congr {calls others : List BindingCall} {key : String}
    (h : ∀ scope, Binds others key scope ↔ Binds calls key scope) :
    (ofCalls others).isInScope key = (ofCalls calls).isInScope key ∧
      (ofCalls others).bindings key = (ofCalls calls).bindings key := by
  have hlookup : (ofCalls others).isInScope key = (ofCalls calls).isInScope key := by
    funext scope
    rw [Bool.eq_iff_iff, isInScope_ofCalls, isInScope_ofCalls, h]
  refine ⟨hlookup, ?_⟩
  rw [bindings_eq_filter, bindings_eq_filter, hlookup]

theorem bindings_accumulate (calls : List BindingCall) (key : String) :
    let b := ofCalls calls
    (∀ scope, b.isInScope key scope = true ↔ scope ∈ b.bindings key) ∧
    (∀ scope, scope ∈ b.bindings key ↔
      .named key scope ∈ calls ∨ ∃ binder, .dynamic binder ∈ calls ∧ scope ∈ binder key) ∧
    (∀ others : List BindingCall, (∀ call, call ∈ others ↔ call ∈ calls) →
      (ofCalls others).isInScope key = b.isInScope key ∧
        (ofCalls others).bindings key = b.bindings key) ∧
    ∀ later : List BindingCall,
      (∀ scope ∈ b.bindings key, scope ∈ (ofCalls (calls ++ later)).bindings key) ∧
      ((∀ scope, .named key scope ∉ later) →
        (ofCalls (calls ++ later)).bindingsByName key = b.bindingsByName key) ∧
      ((∀ scope, ¬ Binds later key scope) →
        (ofCalls (calls ++ later)).bindings key = b.bindings key) := by
  intro b
  have hmem (calls : List BindingCall) (scope : PolicyScope) :
      scope ∈ (ofCalls calls).bindings key ↔ Binds calls key scope :=
    ((ofCalls calls).mem_bindings_iff key scope).trans (isInScope_ofCalls calls key scope)
  refine ⟨fun scope => (b.mem_bindings_iff key scope).symm, hmem calls, ?_, ?_⟩
  · intro others h
    exact lookups_congr fun scope => binds_congr h
  · intro later
    refine ⟨?_, bindingsByName_ofCalls_append calls, ?_⟩
    · intro scope hscope
      rw [hmem] at hscope ⊢
      exact binds_append.2 (.inl hscope)
    · intro h
      refine (lookups_congr fun scope => ?_).2
      rw [binds_append]
      exact or_iff_left (h scope)

theorem bindings_accumulate_repeated :
    let binder : Binder := fun key => if Text.begins "dyn:" key then [.transferProcess] else []
    let calls : List BindingCall :=
      [.named "use" .catalog, .dynamic binder, .named "use" .catalog]
    let later : List BindingCall := [.named "dyn:x" .catalog]
    (ofCalls calls).bindings "use" = [.catalog] ∧
      .transferProcess ∈ (ofCalls calls).bindings "dyn:x" ∧
      (ofCalls [.dynamic binder, .named "use" .catalog]).bindings "use" =
        (ofCalls calls).bindings "use" ∧
      (ofCalls (calls ++ later)).bindings "use" = (ofCalls calls).bindings "use" ∧
      .transferProcess ∈ (ofCalls (calls ++ later)).bindings "dyn:x" := by
  intro binder calls later
  obtain ⟨-, -, horder, hlater⟩ := bindings_accumulate calls "use"
  obtain ⟨-, hmem, -, hkept⟩ := bindings_accumulate calls "dyn:x"
  have hdynamic : .transferProcess ∈ (ofCalls calls).bindings "dyn:x" :=
    (hmem _).2 (.inr ⟨binder, by simp [calls], by decide⟩)
  refine ⟨by decide, hdynamic, (horder _ ?_).2, (hlater later).2.2 ?_, ?_⟩
  · intro call
    simp only [calls, List.mem_cons, List.not_mem_nil, or_false]
    exact ⟨.inr, fun h => h.elim .inr id⟩
  · intro scope
    rw [binds_named]
    exact fun h => absurd h.1 (by decide)
  · exact (hkept later).1 _ hdynamic

end RuleBindings

end CredentialPolicy
