import CredentialPolicy.Document.Configuration
import CredentialPolicy.Document.Policy
import CredentialPolicy.Proofs.RestatedRecord
import CredentialPolicy.Request

namespace CredentialPolicy

def Document.RoundTrips (α : Type) [Document α] : Prop :=
  ∀ value : α, decode? (encode value) = some value

theorem Json.listOf?_map {α : Type} {encode : α → Json} {decode : Json → Option α}
    (h : ∀ value, decode (encode value) = some value) (values : List α) :
    (Json.list (values.map encode)).listOf? decode = some values :=
  mapM_map_eq_some fun value _ => h value

theorem Operator.ofJson?_toJson (op : Operator) : ofJson? op.toJson = some op := by
  cases op <;> decide

theorem RightOperand.ofJson?_toJson (operand : RightOperand) :
    ofJson? operand.toJson = some operand := by
  cases operand with
  | scalar value => rfl
  | list values =>
    have hvalues : (values.map Json.text).mapM Json.text? = some values :=
      mapM_map_eq_some fun _ _ => rfl
    exact congrArg (Option.map list) hvalues

namespace Constraint

theorem ofJson?_toJson (c : Constraint) : ofJson? c.toJson = some c := by
  simp [ofJson?, toJson, Json.entries?, Entries.required?, Json.text?,
    Operator.ofJson?_toJson, RightOperand.ofJson?_toJson]

end Constraint

namespace Permission

theorem ofJson?_toJson (p : Permission) : ofJson? p.toJson = some p := by
  have hconstraints := Json.listOf?_map Constraint.ofJson?_toJson p.constraints
  simp [ofJson?, toJson, Json.entries?, Entries.withDefault?, Json.text?, hconstraints]

end Permission

namespace Policy

theorem ofJson?_toJson (p : Policy) : ofJson? p.toJson = some p := by
  have hpermissions := Json.listOf?_map Permission.ofJson?_toJson p.permissions
  simp [ofJson?, toJson, Json.entries?, Entries.withDefault?, hpermissions]

end Policy

namespace PolicyDefinition

theorem ofJson?_toJson (d : PolicyDefinition) : ofJson? d.toJson = some d := by
  obtain ⟨id, policy⟩ := d
  let entries := optionalEntry "@id" .text id ++ [("policy", policy.toJson)]
  have hentries : (toJson ⟨id, policy⟩).entries? fields 0 = some entries := rfl
  have hvalues : entries.valuesOf ["@id"] = id.toList.map .text := by simp [entries]
  have hvalue : entries.valuesOf ["policy"] = [policy.toJson] := by simp [entries]
  have hid : entries.optional? ["@id"] Json.text? = some id :=
    Entries.optional?_of_valuesOf hvalues (by simp) fun _ => rfl
  have hpolicy : entries.withDefault? ["policy"] ⟨[]⟩ Policy.ofJson? = some policy := by
    rw [Entries.withDefault?_of_valuesOf hvalue, Policy.ofJson?_toJson]
  simp only [ofJson?, hentries, Option.bind_eq_bind, Option.bind_some, hid, hpolicy]
  rfl

end PolicyDefinition

theorem ValidatorSwitches.ofJson?_toJson (s : ValidatorSwitches) : ofJson? s.toJson = some s := by
  simp [ofJson?, toJson, fields, Json.entries?, Entries.onlyOf, Entries.withDefault?, Json.flag?]

theorem Configuration.ofJson?_toJson (c : Configuration) : ofJson? c.toJson = some c := by
  simp [ofJson?, toJson, fields, Json.entries?, Entries.onlyOf, Entries.withDefault?, Json.text?,
    ValidatorSwitches.ofJson?_toJson]

theorem MessageKind.ofNames?_name (kind : MessageKind) :
    Json.ofNames? ofName? (.text kind.name) = some kind := by
  cases kind <;> decide

theorem RequestContext.ofJson?_toJson (r : RequestContext) : ofJson? r.toJson = some r := by
  have hmessage : Entries.optional? [("message", (r.message.map fun kind =>
      Json.text kind.name).getD .null)] ["message"] (Json.ofNames? MessageKind.ofName?) =
      some r.message :=
    Entries.optional?_of_nullable rfl (by simp) MessageKind.ofNames?_name
  simp [ofJson?, toJson, Json.entries?, hmessage]

theorem RequestPolicyContext.ofJson?_toJson (ctx : RequestPolicyContext) :
    ofJson? ctx.toJson = some ctx := by
  have hrequest : Entries.optional? [("request_context", (ctx.request.map
      RequestContext.toJson).getD .null)] ["request_context"] RequestContext.ofJson? =
      some ctx.request :=
    Entries.optional?_of_nullable rfl (by simp [RequestContext.toJson])
      RequestContext.ofJson?_toJson
  simp [ofJson?, toJson, Json.entries?, hrequest]

inductive Json.ItemRestated (step : Json → Json → Prop) : Json → Json → Prop
  | item (before after : List Json) {value other : Json} (h : step value other) :
      ItemRestated step (.list (before ++ value :: after)) (.list (before ++ other :: after))

theorem Json.ItemRestated.listOf?_eq {α : Type} {decode : Json → Option α}
    {step : Json → Json → Prop} (hstep : ∀ value other, step value other → decode value = decode other)
    {json other : Json} (h : ItemRestated step json other) :
    json.listOf? decode = other.listOf? decode := by
  cases h with
  | @item before after value other h =>
    rw [listOf?, listOf?, List.mapM_append, List.mapM_append, List.mapM_cons, List.mapM_cons,
      hstep value other h]

inductive Operator.Respelled : Json → Json → Prop
  | texts {value other : String} (h : parse? value = parse? other) :
      Respelled (.text value) (.text other)

theorem Operator.ofJson?_respelled {value other : Json} (h : Respelled value other) :
    ofJson? value = ofJson? other := by
  cases h with
  | texts h => exact h

namespace Constraint

def variants : List FieldVariants :=
  [{ name := "leftOperand" }, { name := "operator", alike := Operator.Respelled },
    { name := "rightOperand" }]

theorem areSeparate_variants : FieldVariants.AreSeparate variants := by
  decide

def Restated : Json → Json → Prop :=
  Json.Restated 3 variants

theorem ofJson?_restated {json other : Json} (h : Restated json other) :
    ofJson? json = ofJson? other := by
  refine Json.Restated.bind_entries?_eq h rfl areSeparate_variants fun entries others hfields => ?_
  simp only [variants, List.forall_mem_cons] at hfields
  obtain ⟨hleft, hoperator, hright, -⟩ := hfields
  have hreadLeft : entries.required? ["leftOperand"] Json.text? =
      others.required? ["leftOperand"] Json.text? :=
    hleft.required?_eq (fun _ _ h => h.elim) fun _ h => h
  have hreadOperator : entries.required? ["operator"] Operator.ofJson? =
      others.required? ["operator"] Operator.ofJson? :=
    hoperator.required?_eq (fun _ _ h => Operator.ofJson?_respelled h) fun _ h => h
  have hreadRight : entries.required? ["rightOperand"] RightOperand.ofJson? =
      others.required? ["rightOperand"] RightOperand.ofJson? :=
    hright.required?_eq (fun _ _ h => h.elim) fun _ h => h
  rw [hreadLeft, hreadOperator, hreadRight]

end Constraint

namespace Permission

def variants : List FieldVariants :=
  [{ name := "action", idle := (· = .text defaultAction) },
    { name := "constraint", alike := Json.ItemRestated Constraint.Restated, idle := (· = .list []) }]

theorem areSeparate_variants : FieldVariants.AreSeparate variants := by
  decide

def Restated : Json → Json → Prop :=
  Json.Restated 0 variants

theorem ofJson?_restated {json other : Json} (h : Restated json other) :
    ofJson? json = ofJson? other := by
  refine Json.Restated.bind_entries?_eq h rfl areSeparate_variants fun entries others hfields => ?_
  simp only [variants, List.forall_mem_cons] at hfields
  obtain ⟨haction, hconstraints, -⟩ := hfields
  have hreadAction : entries.withDefault? ["action"] defaultAction Json.text? =
      others.withDefault? ["action"] defaultAction Json.text? :=
    haction.withDefault?_eq (fun _ _ h => h.elim) fun _ h => congrArg Json.text? h
  have hreadConstraints :
      entries.withDefault? ["constraint"] [] (Json.listOf? Constraint.ofJson?) =
        others.withDefault? ["constraint"] [] (Json.listOf? Constraint.ofJson?) :=
    hconstraints.withDefault?_eq
      (fun _ _ => Json.ItemRestated.listOf?_eq fun _ _ h => Constraint.ofJson?_restated h)
      fun _ h => congrArg (Json.listOf? Constraint.ofJson?) h
  rw [hreadAction, hreadConstraints]

end Permission

namespace Policy

def variants : List FieldVariants :=
  [{ name := "permission", alike := Json.ItemRestated Permission.Restated, idle := (· = .list []) }]

theorem areSeparate_variants : FieldVariants.AreSeparate variants := by
  decide

def Restated : Json → Json → Prop :=
  Json.Restated 0 variants

theorem ofJson?_restated {json other : Json} (h : Restated json other) :
    ofJson? json = ofJson? other := by
  refine Json.Restated.bind_entries?_eq h rfl areSeparate_variants fun entries others hfields => ?_
  have hreadPermissions :
      entries.withDefault? ["permission"] [] (Json.listOf? Permission.ofJson?) =
        others.withDefault? ["permission"] [] (Json.listOf? Permission.ofJson?) :=
    (hfields _ List.mem_cons_self).withDefault?_eq
      (fun _ _ => Json.ItemRestated.listOf?_eq fun _ _ h => Permission.ofJson?_restated h)
      fun _ h => congrArg (Json.listOf? Permission.ofJson?) h
  rw [hreadPermissions]

end Policy

namespace PolicyDefinition

def variants : List FieldVariants :=
  [{ name := "@id" }, { name := "policy", alike := Policy.Restated }]

theorem areSeparate_variants : FieldVariants.AreSeparate variants := by
  decide

def Restated : Json → Json → Prop :=
  Json.Restated 0 variants

theorem ofJson?_restated {json other : Json} (h : Restated json other) :
    ofJson? json = ofJson? other := by
  refine Json.Restated.bind_entries?_eq h rfl areSeparate_variants fun entries others hfields => ?_
  simp only [variants, List.forall_mem_cons] at hfields
  obtain ⟨hid, hpolicy, -⟩ := hfields
  have hreadId : entries.optional? ["@id"] Json.text? = others.optional? ["@id"] Json.text? :=
    hid.optional?_eq (fun _ _ h => h.elim) fun _ h => h.elim
  have hreadPolicy : entries.withDefault? ["policy"] ⟨[]⟩ Policy.ofJson? =
      others.withDefault? ["policy"] ⟨[]⟩ Policy.ofJson? :=
    hpolicy.withDefault?_eq (fun _ _ h => Policy.ofJson?_restated h) fun _ h => h.elim
  rw [hreadId, hreadPolicy]

theorem documents_round_trip :
    (Document.RoundTrips Constraint ∧ Document.RoundTrips Permission ∧
      Document.RoundTrips Policy ∧ Document.RoundTrips PolicyDefinition ∧
      Document.RoundTrips Configuration ∧ Document.RoundTrips RequestPolicyContext) ∧
    ∀ json other : Json, Relation.EqvGen Restated json other →
      (Document.decode? json : Option PolicyDefinition) = Document.decode? other := by
  refine ⟨⟨Constraint.ofJson?_toJson, Permission.ofJson?_toJson, Policy.ofJson?_toJson,
    ofJson?_toJson, Configuration.ofJson?_toJson, RequestPolicyContext.ofJson?_toJson⟩, ?_⟩
  exact fun json other => eq_of_eqvGen fun _ _ h => ofJson?_restated h

theorem documents_round_trip_spelled :
    let constraint (operator : String) := Json.object [("leftOperand", .text "Membership"),
      ("operator", .text operator), ("rightOperand", .text "active")]
    let definition (permission : Entries) :=
      Json.object [("policy", .object [("permission", .list [.object permission])])]
    let first := definition [("constraint", .list [constraint "eq"])]
    let second := definition [("action", .text "use"), ("constraint", .list [constraint "odrl:EQ"])]
    (Document.decode? first : Option PolicyDefinition) = Document.decode? second ∧
      (Document.decode? first : Option PolicyDefinition) ≠ none := by
  intro constraint definition first second
  have hpermission {permission other : Entries}
      (h : Permission.Restated (.object permission) (.object other)) :
      Restated (definition permission) (definition other) :=
    .object (.alike [] [] (List.mem_cons_of_mem _ List.mem_cons_self) List.mem_cons_self
      (.object (.alike [] [] List.mem_cons_self List.mem_cons_self (.item [] [] h))))
  have hoperator : Constraint.Restated (constraint "eq") (constraint "odrl:EQ") :=
    .object (.alike [_] [_] (List.mem_cons_of_mem _ List.mem_cons_self) List.mem_cons_self
      (.texts (by decide)))
  have hconstraint : Permission.Restated (.object [("constraint", .list [constraint "eq"])])
      (.object [("constraint", .list [constraint "odrl:EQ"])]) :=
    .object (.alike [] [] (List.mem_cons_of_mem _ List.mem_cons_self) List.mem_cons_self
      (.item [] [] hoperator))
  have haction : Permission.Restated (.object [("constraint", .list [constraint "odrl:EQ"])])
      (.object [("action", .text "use"), ("constraint", .list [constraint "odrl:EQ"])]) :=
    .object (.idle [] _ List.mem_cons_self List.mem_cons_self rfl (by
      simp [FieldVariants.spellings]))
  refine ⟨?_, ?_⟩
  · exact documents_round_trip.2 first second
      (.trans _ _ _ (.rel _ _ (hpermission hconstraint)) (.rel _ _ (hpermission haction)))
  · rw [Option.ne_none_iff_isSome]
    decide

end PolicyDefinition

end CredentialPolicy
