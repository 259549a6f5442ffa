import Mathlib.Logic.Relation
import CredentialPolicy.Instant.Text
import CredentialPolicy.Registration

namespace CredentialPolicy

namespace PolicyContext

def adding (ctx : PolicyContext) (problems : List Problem) : PolicyContext :=
  { ctx with problems := ctx.problems ++ problems }

@[simp]
theorem scope_adding (ctx : PolicyContext) (problems : List Problem) :
    (ctx.adding problems).scope = ctx.scope := rfl

@[simp]
theorem participant_adding (ctx : PolicyContext) (problems : List Problem) :
    (ctx.adding problems).participant = ctx.participant := rfl

@[simp]
theorem problems_adding (ctx : PolicyContext) (problems : List Problem) :
    (ctx.adding problems).problems = ctx.problems ++ problems := rfl

@[simp]
theorem adding_nil (ctx : PolicyContext) : ctx.adding [] = ctx := by
  simp [adding]

theorem adding_adding (ctx : PolicyContext) (problems more : List Problem) :
    (ctx.adding problems).adding more = ctx.adding (problems ++ more) := by
  simp [adding]

def isGrant : Except EvaluationError Bool → Bool
  | .ok granted => granted
  | .error _ => false

theorem isGrant_iff (decision : Except EvaluationError Bool) :
    isGrant decision = true ↔ decision = .ok true := by
  cases decision <;> simp [isGrant]

theorem settle_eq (ctx : PolicyContext) (decision : Except EvaluationError Bool) :
    ctx.settle decision = (isGrant decision, ctx.adding (problemsOf decision)) := by
  cases decision with
  | ok granted => simp [settle, isGrant, problemsOf]
  | error e => rfl

end PolicyContext

namespace PolicyEngine

open PolicyContext

theorem foldl_verdicts {α : Type} {step : α → PolicyContext → Bool × PolicyContext}
    {verdict : α → Bool} {reported : α → List Problem} {scope : PolicyScope}
    {participant : Option Participant}
    (hstep : ∀ a ctx, ctx.scope = scope → ctx.participant = participant →
      step a ctx = (verdict a, ctx.adding (reported a)))
    (items : List α) (granted : Bool) (ctx : PolicyContext) (hs : ctx.scope = scope)
    (hp : ctx.participant = participant) :
    items.foldl (fun (acc : Bool × PolicyContext) a =>
        (acc.1 && (step a acc.2).1, (step a acc.2).2)) (granted, ctx) =
      (granted && items.all verdict, ctx.adding (items.flatMap reported)) := by
  induction items generalizing granted ctx with
  | nil => simp
  | cons a items ih =>
    -- the problems grow, but a step looks at the scope and the participant only
    rw [List.foldl_cons, hstep a ctx hs hp, ih _ _ (by simpa using hs) (by simpa using hp)]
    simp [adding_adding, Bool.and_assoc]

variable (engine : PolicyEngine) (bindings : RuleBindings)

theorem decide_of_unbound [DateFormat] (scope : PolicyScope) (participant : Option Participant)
    {c : Constraint} (h : bindings.isInScope c.leftOperand scope = false) :
    engine.decide bindings scope participant c = .ok true := by
  simp [decide, h]

theorem evaluateConstraint_of_unbound [DateFormat] {c : Constraint} {ctx : PolicyContext}
    (h : bindings.isInScope c.leftOperand ctx.scope = false) :
    engine.evaluateConstraint bindings c ctx = (true, ctx) := by
  rw [evaluateConstraint, decide_of_unbound engine bindings ctx.scope ctx.participant h]
  rfl

theorem evaluateConstraint_eq [DateFormat] (c : Constraint) (ctx : PolicyContext) :
    engine.evaluateConstraint bindings c ctx =
      (isGrant (engine.decide bindings ctx.scope ctx.participant c),
        ctx.adding (problemsOf (engine.decide bindings ctx.scope ctx.participant c))) :=
  settle_eq ctx _

theorem evaluatePermission_eq [DateFormat] (p : Permission) (ctx : PolicyContext) :
    engine.evaluatePermission bindings p ctx =
      (p.constraints.all fun c => isGrant (engine.decide bindings ctx.scope ctx.participant c),
        ctx.adding (p.constraints.flatMap fun c =>
          problemsOf (engine.decide bindings ctx.scope ctx.participant c))) := by
  have hstep (c : Constraint) (other : PolicyContext) (hs : other.scope = ctx.scope)
      (hp : other.participant = ctx.participant) : engine.evaluateConstraint bindings c other =
        (isGrant (engine.decide bindings ctx.scope ctx.participant c),
          other.adding (problemsOf (engine.decide bindings ctx.scope ctx.participant c))) := by
    rw [evaluateConstraint_eq, hs, hp]
  exact foldl_verdicts hstep p.constraints true ctx rfl rfl

theorem evaluatePolicy_eq [DateFormat] (policy : Policy) (ctx : PolicyContext) :
    engine.evaluatePolicy bindings policy ctx =
      (policy.constraints.all fun c =>
          isGrant (engine.decide bindings ctx.scope ctx.participant c),
        ctx.adding (policy.constraints.flatMap fun c =>
          problemsOf (engine.decide bindings ctx.scope ctx.participant c))) := by
  rw [Policy.constraints, List.all_flatMap, List.flatMap_assoc]
  have hstep (p : Permission) (other : PolicyContext) (hs : other.scope = ctx.scope)
      (hp : other.participant = ctx.participant) : engine.evaluatePermission bindings p other =
        (p.constraints.all fun c => isGrant (engine.decide bindings ctx.scope ctx.participant c),
          other.adding (p.constraints.flatMap fun c =>
            problemsOf (engine.decide bindings ctx.scope ctx.participant c))) := by
    rw [evaluatePermission_eq, hs, hp]
  exact foldl_verdicts hstep policy.permissions true ctx rfl rfl

end PolicyEngine

theorem evaluate_eq [DateFormat] (config : Configuration) (policy : Policy)
    (participant : Participant) (scope : PolicyScope) :
    evaluate config policy participant scope =
      let decide := (configured config).1.decide (configured config).2 scope (some participant)
      ⟨scope, policy.constraints.all fun c => PolicyContext.isGrant (decide c),
        policy.constraints.flatMap fun c => PolicyContext.problemsOf (decide c)⟩ := by
  simp [evaluate, PolicyEngine.evaluatePolicy_eq, PolicyContext.start]

/-- One change to how a policy is written that leaves its constraints as they are. -/
inductive Rewording : Policy → Policy → Prop
  | constraints (before after : List Permission) (action : String) {cs ds : List Constraint}
      (h : cs.Perm ds) :
      Rewording ⟨before ++ ⟨action, cs⟩ :: after⟩ ⟨before ++ ⟨action, ds⟩ :: after⟩
  | permissions {ps qs : List Permission} (h : ps.Perm qs) : Rewording ⟨ps⟩ ⟨qs⟩
  | split (before after : List Permission) (action : String) (cs ds : List Constraint) :
      Rewording ⟨before ++ ⟨action, cs ++ ds⟩ :: after⟩
        ⟨before ++ ⟨action, cs⟩ :: ⟨action, ds⟩ :: after⟩
  | action (before after : List Permission) (a b : String) (cs : List Constraint) :
      Rewording ⟨before ++ ⟨a, cs⟩ :: after⟩ ⟨before ++ ⟨b, cs⟩ :: after⟩

theorem Rewording.perm {p q : Policy} (h : Rewording p q) : p.constraints.Perm q.constraints := by
  cases h with
  | constraints before after action h =>
    simp only [Policy.constraints, List.flatMap_append, List.flatMap_cons]
    exact (h.append_right _).append_left _
  | permissions h => exact h.flatMap_right _
  | split before after action cs ds => simp [Policy.constraints]
  | action before after a b cs => simp [Policy.constraints]

def Reworded : Policy → Policy → Prop :=
  Relation.EqvGen Rewording

theorem Reworded.perm {p q : Policy} (h : Reworded p q) : p.constraints.Perm q.constraints := by
  induction h with
  | rel p q h => exact h.perm
  | refl p => exact .refl _
  | symm p q _ ih => exact ih.symm
  | trans p q r _ _ ihp ihq => exact ihp.trans ihq

namespace PolicyEngine

open PolicyContext

theorem evaluatePolicy_composes [DateFormat] (engine : PolicyEngine) (bindings : RuleBindings)
    (policy : Policy) (ctx : PolicyContext) :
    let alone := fun c => engine.evaluateConstraint bindings c (.start ctx.scope ctx.participant)
    let result := engine.evaluatePolicy bindings policy ctx
    result.1 = policy.constraints.all (fun c => (alone c).1) ∧
      result.2.problems =
        ctx.problems ++ policy.constraints.flatMap (fun c => (alone c).2.problems) ∧
      result.2.scope = ctx.scope ∧ result.2.participant = ctx.participant ∧
      ∀ (other : Policy) (otherCtx : PolicyContext), Reworded policy other →
        otherCtx.scope = ctx.scope → otherCtx.participant = ctx.participant →
        (engine.evaluatePolicy bindings other otherCtx).1 = result.1 ∧
          ∃ added otherAdded : List Problem,
            result.2.problems = ctx.problems ++ added ∧
            (engine.evaluatePolicy bindings other otherCtx).2.problems =
              otherCtx.problems ++ otherAdded ∧
            otherAdded.Perm added := by
  intro alone result
  have hresult : result = _ := evaluatePolicy_eq engine bindings policy ctx
  have halone (c : Constraint) : alone c = _ :=
    evaluateConstraint_eq engine bindings c (.start ctx.scope ctx.participant)
  refine ⟨?_, ?_, ?_, ?_, ?_⟩
  · simp [hresult, halone, start]
  · simp [hresult, halone, start]
  · simp [hresult]
  · simp [hresult]
  · intro other otherCtx hother hscope hparticipant
    have hperm := hother.perm
    rw [evaluatePolicy_eq engine bindings other otherCtx, hscope, hparticipant, hresult]
    exact ⟨hperm.symm.all_eq, _, _, rfl, rfl, hperm.symm.flatMap_right _⟩

theorem evaluatePolicy_composes_split :
    let a : Constraint := ⟨Vocabulary.businessPartnerDid, .neq, .scalar "did:web:a"⟩
    let b : Constraint := ⟨Vocabulary.policyNamespace ++ Vocabulary.membership, .lt, .list []⟩
    let policy : Policy := ⟨[⟨"use", [a, b]⟩]⟩
    let other : Policy := ⟨[⟨"use", [b]⟩, ⟨"transfer", [a]⟩]⟩
    let engine := (configured {}).1
    let bindings := (configured {}).2
    let ctx : PolicyContext := .start .catalog none
    let otherCtx := ctx.reportText "earlier"
    let result := engine.evaluatePolicy bindings policy ctx
    Reworded policy other ∧
      (engine.evaluatePolicy bindings other otherCtx).1 = result.1 ∧
      ∃ added otherAdded : List Problem,
        result.2.problems = ctx.problems ++ added ∧
        (engine.evaluatePolicy bindings other otherCtx).2.problems =
          otherCtx.problems ++ otherAdded ∧
        otherAdded.Perm added := by
  intro a b policy other engine bindings ctx otherCtx result
  have hsplit : Reworded policy ⟨[⟨"use", [a]⟩, ⟨"use", [b]⟩]⟩ :=
    .rel _ _ (.split [] [] "use" [a] [b])
  have haction : Reworded ⟨[⟨"use", [a]⟩, ⟨"use", [b]⟩]⟩ ⟨[⟨"transfer", [a]⟩, ⟨"use", [b]⟩]⟩ :=
    .rel _ _ (.action [] [⟨"use", [b]⟩] "use" "transfer" [a])
  have hswap : Reworded ⟨[⟨"transfer", [a]⟩, ⟨"use", [b]⟩]⟩ other :=
    .rel _ _ (.permissions (.swap _ _ _))
  have h : Reworded policy other := .trans _ _ _ hsplit (.trans _ _ _ haction hswap)
  exact ⟨h, (evaluatePolicy_composes engine bindings policy ctx).2.2.2.2 other otherCtx h rfl rfl⟩

end PolicyEngine

end CredentialPolicy
