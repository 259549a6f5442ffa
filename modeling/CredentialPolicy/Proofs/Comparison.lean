import CredentialPolicy.Proofs.Decision

namespace CredentialPolicy.Matching

def listOperators : List Operator :=
  [.isIn, .isA, .isAnyOf, .isNoneOf]

def orderOperators : List Operator :=
  [.lt, .gt, .lteq, .gteq]

inductive Outcome (identity : String) (right : RightOperand) (operator : Operator) :
    Except EvaluationError Bool → Prop
  | compared {granted : Bool} (hfits : fits operator right = true)
      (hgranted : granted = true ↔ Holds identity right operator) :
      Outcome identity right operator (.ok granted)
  | listExpected {value : String} (hoperator : operator ∈ listOperators)
      (hright : right = .scalar value) :
      Outcome identity right operator
        (.error (.invalidRightOperandShape operator "List" "String"))
  | scalarExpected {values : List String} (hoperator : operator = .hasPart)
      (hright : right = .list values) :
      Outcome identity right operator
        (.error (.invalidRightOperandShape operator "String" "List"))
  | unsupported (hoperator : operator ∈ orderOperators) :
      Outcome identity right operator (.error (.unsupportedOperator operator operators))

theorem Outcome.decide_eq {identity : String} {right : RightOperand} {operator : Operator}
    {outcome : Except EvaluationError Bool} (h : Outcome identity right operator outcome) :
    decide identity right operator = outcome := by
  cases h with
  | compared hfits hgranted =>
    exact (decide_eq_ok_iff identity right operator _).2 ⟨hfits, hgranted⟩
  | listExpected hoperator hright =>
    subst hright
    simp only [listOperators, List.mem_cons, List.not_mem_nil, or_false] at hoperator
    rcases hoperator with rfl | rfl | rfl | rfl <;> rfl
  | scalarExpected hoperator hright =>
    subst hoperator hright
    rfl
  | unsupported hoperator =>
    simp only [orderOperators, List.mem_cons, List.not_mem_nil, or_false] at hoperator
    rcases hoperator with rfl | rfl | rfl | rfl <;> rfl

theorem outcome_decide_of_fits {identity : String} {right : RightOperand} {operator : Operator}
    (h : fits operator right = true) :
    Outcome identity right operator (decide identity right operator) := by
  classical
  have hok := (decide_eq_ok_iff identity right operator
    (Decidable.decide (Holds identity right operator))).2 ⟨h, decide_eq_true_iff⟩
  rw [hok]
  exact .compared h decide_eq_true_iff

theorem outcome_decide (identity : String) (right : RightOperand) (operator : Operator) :
    Outcome identity right operator (decide identity right operator) := by
  cases hfits : fits operator right with
  | true => exact outcome_decide_of_fits hfits
  | false =>
    -- what does not fit is refused for its shape, or whatever its shape is
    cases operator with
    | eq | neq | isAllOf => cases hfits
    | isIn | isA | isAnyOf | isNoneOf =>
      cases right with
      | scalar value => exact .listExpected (by decide) rfl
      | list values => cases hfits
    | hasPart =>
      cases right with
      | scalar part => cases hfits
      | list values => exact .scalarExpected rfl rfl
    | lt | gt | lteq | gteq => exact .unsupported (by decide)

theorem decide_eq_iff (identity : String) (right : RightOperand) (operator : Operator)
    (outcome : Except EvaluationError Bool) :
    decide identity right operator = outcome ↔ Outcome identity right operator outcome := by
  constructor
  · rintro rfl
    exact outcome_decide identity right operator
  · exact Outcome.decide_eq

section

variable {identity : String} {values others : List String} {operator : Operator}

theorem fits_list (operator : Operator) (values others : List String) :
    fits operator (.list values) = fits operator (.list others) := by
  cases operator <;> rfl

theorem holds_congr (h : ∀ value, value ∈ values ↔ value ∈ others) :
    Holds identity (.list values) operator ↔ Holds identity (.list others) operator := by
  cases operator <;> simp only [Holds, RightOperand.values, h]

theorem Outcome.congr (h : ∀ value, value ∈ values ↔ value ∈ others)
    {outcome : Except EvaluationError Bool}
    (houtcome : Outcome identity (.list values) operator outcome) :
    Outcome identity (.list others) operator outcome := by
  cases houtcome with
  | compared hfits hgranted =>
    exact .compared (fits_list operator others values ▸ hfits) (hgranted.trans (holds_congr h))
  | listExpected _ hright => cases hright
  | scalarExpected hoperator _ => exact .scalarExpected hoperator rfl
  | unsupported hoperator => exact .unsupported hoperator

theorem decide_congr (h : ∀ value, value ∈ values ↔ value ∈ others) :
    decide identity (.list values) operator = decide identity (.list others) operator :=
  (decide_eq_iff ..).2 ((outcome_decide ..).congr fun value => (h value).symm)

end

theorem not_mem_operators_iff (operator : Operator) :
    operator ∉ operators ↔ operator ∈ orderOperators := by
  cases operator <;> decide

theorem exists_unsupported_iff (identity : String) (right : RightOperand) (operator : Operator) :
    (∃ supported, decide identity right operator =
      .error (.unsupportedOperator operator supported)) ↔ operator ∉ operators := by
  rw [not_mem_operators_iff]
  constructor
  · rintro ⟨supported, h⟩
    rw [decide_eq_iff] at h
    cases h with
    | unsupported hoperator => exact hoperator
  · intro h
    exact ⟨operators, Outcome.decide_eq (.unsupported h)⟩

theorem mem_values_of_granted {identity : String} {right : RightOperand} {operator : Operator}
    (hoperator : operator = .eq ∨ operator = .isAllOf) (hright : right ≠ .list [])
    (h : decide identity right operator = .ok true) : identity ∈ right.values := by
  obtain ⟨-, hgranted⟩ := (decide_eq_ok_iff identity right operator true).1 h
  have hall : ∀ value ∈ right.values, value = identity := by
    rcases hoperator with rfl | rfl <;> exact hgranted.1 rfl
  cases right with
  | scalar value => exact hall value (List.mem_singleton_self value) ▸ List.mem_singleton_self _
  | list values =>
    cases values with
    | nil => exact absurd rfl hright
    | cons value rest => exact hall value List.mem_cons_self ▸ List.mem_cons_self

theorem decision_table (identity : String) (right : RightOperand) (operator : Operator) :
    (∀ outcome, decide identity right operator = outcome ↔
        Outcome identity right operator outcome) ∧
      (operator = .eq ∨ operator = .isAllOf →
        decide identity (.list []) operator = .ok true ∧
          (right ≠ .list [] → decide identity right operator = .ok true →
            identity ∈ right.values)) ∧
      (∀ values others : List String, (∀ value, value ∈ values ↔ value ∈ others) →
        decide identity (.list values) operator = decide identity (.list others) operator) ∧
      ((∃ supported, decide identity right operator =
        .error (.unsupportedOperator operator supported)) ↔ operator ∉ operators) := by
  refine ⟨decide_eq_iff identity right operator, ?_, ?_, ?_⟩
  · intro hoperator
    refine ⟨?_, mem_values_of_granted hoperator⟩
    rcases hoperator with rfl | rfl <;> rfl
  · intro values others h
    exact decide_congr h
  · exact exists_unsupported_iff identity right operator

theorem decision_table_repeated :
    let identity := "did:web:a"
    let values := ["did:web:a", "did:web:b"]
    let others := ["did:web:b", "did:web:a", "did:web:b"]
    (∀ value, value ∈ values ↔ value ∈ others) ∧
      decide identity (.list others) .isAllOf = .ok false ∧
      decide identity (.list others) .isNoneOf = .ok false ∧
      decide identity (.scalar identity) .isNoneOf =
        .error (.invalidRightOperandShape .isNoneOf "List" "String") ∧
      decide identity (.list []) .eq = .ok true ∧
      identity ∈ (RightOperand.scalar identity).values := by
  intro identity values others
  have hsame : ∀ value, value ∈ values ↔ value ∈ others := by
    intro value
    simp only [values, others, List.mem_cons, List.not_mem_nil, or_false]
    rw [or_left_comm, or_self]
  obtain ⟨-, -, hall, -⟩ := decision_table identity (.list values) .isAllOf
  obtain ⟨-, -, hnone, -⟩ := decision_table identity (.list values) .isNoneOf
  obtain ⟨hscalar, -⟩ := decision_table identity (.scalar identity) .isNoneOf
  obtain ⟨-, hequal, -⟩ := decision_table identity (.scalar identity) .eq
  obtain ⟨hempty, hmember⟩ := hequal (.inl rfl)
  refine ⟨hsame, ?_, ?_, ?_, hempty, hmember nofun rfl⟩
  · rw [← hall values others hsame]
    rfl
  · rw [← hnone values others hsame]
    rfl
  · exact (hscalar _).2 (.listExpected (by decide) rfl)

end CredentialPolicy.Matching
