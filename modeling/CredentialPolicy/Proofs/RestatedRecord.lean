import Mathlib.Data.List.Pairwise
import Mathlib.Logic.Relation
import CredentialPolicy.Proofs.RecordReading

/-!
Records that say the same in other words: members in another order, unknown members, other
spellings of a name, and for each field the values that may stand for each other or be left out.
A field is read alike of both if its reader takes such values alike (`Restates.required?_eq` and the
lemmas beside it).
-/

namespace CredentialPolicy

structure FieldVariants where
  name : String
  aliases : List String := []
  /-- Values that may stand for each other. -/
  alike : Json → Json → Prop := fun _ _ => False
  /-- Values that may as well be left out. -/
  idle : Json → Prop := fun _ => False

namespace FieldVariants

def spellings (field : FieldVariants) : List String :=
  field.name :: field.aliases

def AreSeparate (fields : List FieldVariants) : Prop :=
  fields.Pairwise fun field other => ∀ name ∈ field.spellings, name ∉ other.spellings

instance (fields : List FieldVariants) : Decidable (AreSeparate fields) :=
  inferInstanceAs (Decidable (fields.Pairwise _))

theorem AreSeparate.eq {fields : List FieldVariants} (h : AreSeparate fields)
    {field other : FieldVariants} (hfield : field ∈ fields) (hother : other ∈ fields)
    {name : String} (hname : name ∈ field.spellings) (hsame : name ∈ other.spellings) :
    field = other := by
  by_contra hne
  have hsymm : Std.Symm fun field other : FieldVariants =>
      ∀ name ∈ field.spellings, name ∉ other.spellings :=
    ⟨fun _ _ hab name hb ha => hab name ha hb⟩
  exact h.forall hfield hother hne name hname hsame

inductive Restates (field : FieldVariants) : List Json → List Json → Prop
  | permuted {values others : List Json} (h : values.Perm others) : Restates field values others
  | alike (before after : List Json) {value other : Json} (h : field.alike value other) :
      Restates field (before ++ value :: after) (before ++ other :: after)
  | idle {value : Json} (h : field.idle value) : Restates field [] [value]

theorem Restates.cases {field : FieldVariants} {values others : List Json}
    (h : field.Restates values others) :
    values = others ∨ (∃ value other, field.alike value other ∧ values = [value] ∧ others = [other]) ∨
      (∃ value, field.idle value ∧ values = [] ∧ others = [value]) ∨
      2 ≤ values.length ∧ 2 ≤ others.length := by
  cases h with
  | permuted h =>
    by_cases hlength : 2 ≤ values.length
    · exact .inr (.inr (.inr ⟨hlength, h.length_eq ▸ hlength⟩))
    · refine .inl ?_
      match values, hlength with
      | [], _ => exact h.nil_eq
      | [value], _ => exact h.singleton_eq
      | _ :: _ :: _, hlength => simp at hlength
  | alike before after h =>
    by_cases hsingle : before = [] ∧ after = []
    · obtain ⟨rfl, rfl⟩ := hsingle
      exact .inr (.inl ⟨_, _, h, rfl, rfl⟩)
    · have hlength : 1 ≤ before.length + after.length := by
        rw [← List.length_eq_zero_iff, ← List.length_eq_zero_iff] at hsingle
        omega
      refine .inr (.inr (.inr ?_))
      simp only [List.length_append, List.length_cons]
      omega
  | idle h => exact .inr (.inr (.inl ⟨_, h, rfl, rfl⟩))

end FieldVariants

namespace Entries

inductive Restated (fields : List FieldVariants) : Entries → Entries → Prop
  | permuted {entries others : Entries} (h : entries.Perm others) : Restated fields entries others
  | unknown (before after : Entries) {name : String} (value : Json)
      (h : ∀ field ∈ fields, name ∉ field.spellings) :
      Restated fields (before ++ after) (before ++ (name, value) :: after)
  | renamed (before after : Entries) {field : FieldVariants} (hfield : field ∈ fields)
      {name other : String} (hname : name ∈ field.spellings) (hother : other ∈ field.spellings)
      (value : Json) :
      Restated fields (before ++ (name, value) :: after) (before ++ (other, value) :: after)
  | alike (before after : Entries) {field : FieldVariants} (hfield : field ∈ fields)
      {name : String} (hname : name ∈ field.spellings) {value other : Json}
      (h : field.alike value other) :
      Restated fields (before ++ (name, value) :: after) (before ++ (name, other) :: after)
  | idle (before after : Entries) {field : FieldVariants} (hfield : field ∈ fields)
      {name : String} (hname : name ∈ field.spellings) {value : Json} (h : field.idle value)
      (habsent : ∀ e ∈ before ++ after, e.1 ∉ field.spellings) :
      Restated fields (before ++ after) (before ++ (name, value) :: after)

theorem valuesOf_eq_nil_of_forall {entries : Entries} {spellings : List String}
    (h : ∀ e ∈ entries, e.1 ∉ spellings) : entries.valuesOf spellings = [] := by
  rw [valuesOf, List.map_eq_nil_iff, List.filter_eq_nil_iff]
  intro e he
  rw [List.contains_iff_mem]
  exact h e he

theorem Restated.valuesOf {fields : List FieldVariants} {entries others : Entries}
    (h : Restated fields entries others) (hfields : FieldVariants.AreSeparate fields)
    {field : FieldVariants} (hfield : field ∈ fields) :
    field.Restates (entries.valuesOf field.spellings) (others.valuesOf field.spellings) := by
  cases h with
  | permuted h => exact .permuted (valuesOf_perm h field.spellings)
  | unknown before after value h =>
    have hname := h field hfield
    simp only [valuesOf_append, valuesOf_cons, if_neg hname]
    exact .permuted (.refl _)
  | @renamed before after other hother name synonym hname hsynonym value =>
    simp only [valuesOf_append, valuesOf_cons]
    by_cases hmem : name ∈ field.spellings
    · obtain rfl := hfields.eq hfield hother hmem hname
      rw [if_pos hmem, if_pos hsynonym]
      exact .permuted (.refl _)
    · have hnot : synonym ∉ field.spellings := by
        intro hmem'
        obtain rfl := hfields.eq hfield hother hmem' hsynonym
        exact hmem hname
      rw [if_neg hmem, if_neg hnot]
      exact .permuted (.refl _)
  | @alike before after other hother name hname value variant h =>
    simp only [valuesOf_append, valuesOf_cons]
    by_cases hmem : name ∈ field.spellings
    · obtain rfl := hfields.eq hfield hother hmem hname
      rw [if_pos hmem, if_pos hmem]
      exact .alike _ _ h
    · rw [if_neg hmem, if_neg hmem]
      exact .permuted (.refl _)
  | @idle before after other hother name hname value h habsent =>
    by_cases hmem : name ∈ field.spellings
    · obtain rfl := hfields.eq hfield hother hmem hname
      obtain ⟨hbefore, hafter⟩ := List.forall_mem_append.1 habsent
      simp only [valuesOf_append, valuesOf_cons, if_pos hmem, valuesOf_eq_nil_of_forall hbefore,
        valuesOf_eq_nil_of_forall hafter, List.append_nil, List.nil_append]
      exact .idle h
    · simp only [valuesOf_append, valuesOf_cons, if_neg hmem]
      exact .permuted (.refl _)

end Entries

namespace FieldVariants.Restates

variable {α : Type} {field : FieldVariants} {entries others : Entries} {spellings : List String}
  {decode : Json → Option α}

theorem required?_eq
    (h : field.Restates (entries.valuesOf spellings) (others.valuesOf spellings))
    (halike : ∀ value other, field.alike value other → decode value = decode other)
    (hidle : ∀ value, ¬field.idle value) :
    entries.required? spellings decode = others.required? spellings decode := by
  rcases h.cases with heq | ⟨value, other, hvalue, hentries, hothers⟩ | ⟨value, hvalue, -⟩ |
    ⟨hentries, hothers⟩
  · rw [Entries.required?, Entries.required?, heq]
  · rw [Entries.required?_of_valuesOf hentries, Entries.required?_of_valuesOf hothers,
      halike value other hvalue]
  · exact absurd hvalue (hidle value)
  · rw [Entries.required?_eq_none hentries, Entries.required?_eq_none hothers]

theorem withDefault?_eq {default : α}
    (h : field.Restates (entries.valuesOf spellings) (others.valuesOf spellings))
    (halike : ∀ value other, field.alike value other → decode value = decode other)
    (hidle : ∀ value, field.idle value → decode value = some default) :
    entries.withDefault? spellings default decode =
      others.withDefault? spellings default decode := by
  rcases h.cases with heq | ⟨value, other, hvalue, hentries, hothers⟩ |
    ⟨value, hvalue, hentries, hothers⟩ | ⟨hentries, hothers⟩
  · rw [Entries.withDefault?, Entries.withDefault?, heq]
  · rw [Entries.withDefault?_of_valuesOf hentries, Entries.withDefault?_of_valuesOf hothers,
      halike value other hvalue]
  · rw [Entries.withDefault?_of_valuesOf hothers, hidle value hvalue, Entries.withDefault?, hentries]
  · rw [Entries.withDefault?_eq_none hentries, Entries.withDefault?_eq_none hothers]

theorem optional?_eq
    (h : field.Restates (entries.valuesOf spellings) (others.valuesOf spellings))
    (halike : ∀ value other, field.alike value other →
      decode value = decode other ∧ (value = .null ↔ other = .null))
    (hidle : ∀ value, field.idle value → value = .null) :
    entries.optional? spellings decode = others.optional? spellings decode := by
  rcases h.cases with heq | ⟨value, other, hvalue, hentries, hothers⟩ |
    ⟨value, hvalue, hentries, hothers⟩ | ⟨hentries, hothers⟩
  · rw [Entries.optional?, Entries.optional?, heq]
  · obtain ⟨hdecode, hnull⟩ := halike value other hvalue
    by_cases hvalueNull : value = .null
    · rw [Entries.optional?, Entries.optional?, hentries, hothers, hvalueNull, hnull.1 hvalueNull]
    · rw [Entries.optional?_of_value hentries hvalueNull,
        Entries.optional?_of_value hothers (mt hnull.2 hvalueNull), hdecode]
  · rw [Entries.optional?, Entries.optional?, hentries, hothers, hidle value hvalue]
  · rw [Entries.optional?_eq_none hentries, Entries.optional?_eq_none hothers]

end FieldVariants.Restates

namespace Json

/-- One change to a record, which may also list its fields in their order. The first `least` of
them have to stand in such a list. -/
inductive Restated (least : Nat) (fields : List FieldVariants) : Json → Json → Prop
  | object {entries others : Entries} (h : Entries.Restated fields entries others) :
      Restated least fields (.object entries) (.object others)
  | listed (before after : List Json) {field : FieldVariants}
      (hfield : fields[before.length]? = some field) {value other : Json}
      (h : field.alike value other) :
      Restated least fields (.list (before ++ value :: after)) (.list (before ++ other :: after))
  | shortened {items : List Json} (hleast : least ≤ items.length) {field : FieldVariants}
      (hfield : fields[items.length]? = some field) {value : Json} (h : field.idle value) :
      Restated least fields (.list items) (.list (items ++ [value]))

theorem entries?_list {fields : Fields} {least : Nat} {variants : List FieldVariants}
    (hfields : fields.map (·.1) = variants.map (·.spellings)) (items : List Json) :
    (list items).entries? fields least =
      if least ≤ items.length ∧ items.length ≤ variants.length then
        some ((variants.map (·.name)).zip items)
      else none := by
  have hlength : fields.length = variants.length := by
    simpa using congrArg List.length hfields
  have hnames : fields.map spellingOf = variants.map (·.name) := by
    calc fields.map spellingOf
        = (fields.map (·.1)).map (·.headD "") := by rw [List.map_map]; rfl
      _ = (variants.map (·.spellings)).map (·.headD "") := by rw [hfields]
      _ = variants.map (·.name) := by rw [List.map_map]; rfl
  rw [entries?, hlength, hnames]

theorem exists_eq_append_cons {α : Type} {items : List α} {i : Nat} {a : α}
    (h : items[i]? = some a) : ∃ front back, items = front ++ a :: back ∧ front.length = i := by
  obtain ⟨hi, rfl⟩ := List.getElem?_eq_some_iff.1 h
  refine ⟨items.take i, items.drop (i + 1), ?_, ?_⟩
  · rw [← List.drop_eq_getElem_cons hi, List.take_append_drop]
  · rw [List.length_take]
    omega

theorem zip_names_append {front : List FieldVariants} {items : List Json}
    (h : front.length = items.length) (back : List FieldVariants) (rest : List Json) :
    (List.map (·.name) (front ++ back)).zip (items ++ rest) =
      (front.map (·.name)).zip items ++ (back.map (·.name)).zip rest := by
  rw [List.map_append, List.zip_append (by rw [List.length_map, h])]

theorem Restated.entries? {fields : Fields} {least : Nat} {variants : List FieldVariants}
    {json other : Json} (h : Restated least variants json other)
    (hfields : fields.map (·.1) = variants.map (·.spellings))
    (hvariants : FieldVariants.AreSeparate variants) :
    (json.entries? fields least = none ∧ other.entries? fields least = none) ∨
      ∃ entries others, json.entries? fields least = some entries ∧
        other.entries? fields least = some others ∧ Entries.Restated variants entries others := by
  cases h with
  | object h => exact .inr ⟨_, _, rfl, rfl, h⟩
  | @listed before after field hfield value other h =>
    have hlength : (before ++ other :: after).length = (before ++ value :: after).length := by
      simp
    rw [entries?_list hfields, entries?_list hfields, hlength]
    split
    · refine .inr ⟨_, _, rfl, rfl, ?_⟩
      obtain ⟨front, back, rfl, hfront⟩ := exists_eq_append_cons hfield
      rw [zip_names_append hfront, zip_names_append hfront]
      exact .alike _ _ (List.mem_append_right front List.mem_cons_self) List.mem_cons_self h
    · exact .inl ⟨rfl, rfl⟩
  | @shortened items hleast field hfield value h =>
    obtain ⟨front, back, rfl, hfront⟩ := exists_eq_append_cons hfield
    have hitems := zip_names_append hfront (field :: back) []
    rw [List.append_nil, List.zip_nil_right, List.append_nil] at hitems
    have habsent : ∀ e ∈ (front.map (·.name)).zip items, e.1 ∉ field.spellings := by
      intro e he
      obtain ⟨earlier, hearlier, hname⟩ := List.mem_map.1 (List.of_mem_zip he).1
      have hseparate := (List.pairwise_append.1 hvariants).2.2 earlier hearlier field
        List.mem_cons_self
      exact hseparate e.1 (hname ▸ List.mem_cons_self)
    rw [entries?_list hfields, entries?_list hfields, hitems, zip_names_append hfront,
      List.map_cons, List.zip_cons_cons, List.zip_nil_right]
    have hlength : (front ++ field :: back).length = items.length + (back.length + 1) := by
      rw [List.length_append, hfront, List.length_cons]
    rw [if_pos (by omega), if_pos (by rw [List.length_append, List.length_singleton]; omega)]
    refine .inr ⟨_, _, rfl, rfl, ?_⟩
    have hfield : field ∈ front ++ field :: back := List.mem_append_right front List.mem_cons_self
    have hstep := Entries.Restated.idle ((front.map (·.name)).zip items) [] hfield
      List.mem_cons_self h (by simpa using habsent)
    rwa [List.append_nil] at hstep

theorem Restated.bind_entries?_eq {α : Type} {read : Entries → Option α} {fields : Fields}
    {least : Nat} {variants : List FieldVariants} {json other : Json}
    (h : Restated least variants json other)
    (hfields : fields.map (·.1) = variants.map (·.spellings))
    (hvariants : FieldVariants.AreSeparate variants)
    (hread : ∀ entries others : Entries,
      (∀ field ∈ variants, field.Restates (entries.valuesOf field.spellings)
        (others.valuesOf field.spellings)) → read entries = read others) :
    (json.entries? fields least).bind read = (other.entries? fields least).bind read := by
  rcases h.entries? hfields hvariants with
    ⟨hjson, hother⟩ | ⟨entries, others, hjson, hother, hentries⟩
  · rw [hjson, hother]
  · rw [hjson, hother]
    exact hread entries others fun field hfield => hentries.valuesOf hvariants hfield

end Json

theorem eq_of_eqvGen {α β : Type} {step : α → α → Prop} {read : α → β}
    (hstep : ∀ a b, step a b → read a = read b) {a b : α} (h : Relation.EqvGen step a b) :
    read a = read b := by
  induction h with
  | rel a b h => exact hstep a b h
  | refl a => rfl
  | symm a b _ ih => exact ih.symm
  | trans a b c _ _ ihab ihbc => exact ihab.trans ihbc

end CredentialPolicy
