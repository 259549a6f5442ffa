import Mathlib.Data.List.Nodup
import CredentialPolicy.Document.Configuration
import CredentialPolicy.Proofs.RecordReading

namespace CredentialPolicy

namespace Entries

structure AreOf (fields : Fields) (entries : Entries) : Prop where
  distinct : HasDistinctNames entries
  known : ∀ e ∈ entries, ∃ field ∈ fields, e.1 ∈ field.1

theorem onlyOf_iff {entries : Entries} {fields : Fields} :
    entries.onlyOf fields = true ↔ ∀ e ∈ entries, ∃ field ∈ fields, e.1 ∈ field.1 := by
  simp only [onlyOf, List.all_eq_true, List.any_eq_true, List.contains_iff_mem]

theorem areOf_of_length_le {entries : Entries} {fields : Fields}
    (hknown : entries.onlyOf fields = true)
    (honce : ∀ field ∈ fields, (entries.valuesOf field.1).length ≤ 1) : entries.AreOf fields := by
  have hnames := onlyOf_iff.1 hknown
  refine ⟨List.nodup_iff_count_le_one.2 fun name => ?_, hnames⟩
  by_cases hname : name ∈ entries.map (·.1)
  · obtain ⟨e, he, rfl⟩ := List.mem_map.1 hname
    obtain ⟨field, hfield, hspelled⟩ := hnames e he
    have hcount : (entries.map (·.1)).count e.1 ≤ (entries.valuesOf field.1).length := by
      rw [valuesOf, List.length_map, ← List.countP_eq_length_filter, List.count, List.countP_map]
      refine List.countP_mono_left fun other _ hother => ?_
      rw [Function.comp_apply, beq_iff_eq] at hother
      rwa [hother, List.contains_iff_mem]
    exact Nat.le_trans hcount (honce field hfield)
  · rw [List.count_eq_zero_of_not_mem hname]
    exact Nat.zero_le 1

theorem length_le_of_withDefault? {α : Type} {entries : Entries} {spellings : List String}
    {default a : α} {decode : Json → Option α}
    (h : entries.withDefault? spellings default decode = some a) :
    (entries.valuesOf spellings).length ≤ 1 := by
  by_contra hlength
  rw [withDefault?_eq_none (by omega)] at h
  cases h

theorem valuesOf_eq_lookup {entries : Entries} (h : HasDistinctNames entries) (name : String) :
    entries.valuesOf [name] = (entries.lookup name).toList := by
  induction entries with
  | nil => rfl
  | cons e rest ih =>
    obtain ⟨hnew, hrest⟩ := List.nodup_cons.1 h
    rw [valuesOf_cons, Members.lookup_cons_ite]
    by_cases hname : name = e.1
    · obtain rfl := hname
      rw [if_pos List.mem_cons_self, if_pos rfl, valuesOf_eq_nil hnew, Option.toList_some]
    · have hnot : e.1 ∉ [name] := fun h => hname (List.mem_singleton.1 h).symm
      rw [if_neg hnot, if_neg hname, ih hrest]

theorem lookup_eq_some_iff {entries : Entries} (h : HasDistinctNames entries) {name : String}
    {value : Json} : entries.lookup name = some value ↔ (name, value) ∈ entries := by
  have hvalues : value ∈ entries.valuesOf [name] ↔ (name, value) ∈ entries := by
    simp [valuesOf, and_comm]
  rw [← hvalues, valuesOf_eq_lookup h, Option.mem_toList]

theorem withDefault?_eq_some_iff {α : Type} {entries : Entries} (h : HasDistinctNames entries)
    {name : String} {default a : α} {decode : Json → Option α} :
    entries.withDefault? [name] default decode = some a ↔
      (∀ value, (name, value) ∈ entries → ∃ b, decode value = some b) ∧
        ((entries.lookup name).bind decode).getD default = a := by
  have hvalues := valuesOf_eq_lookup h name
  simp only [← lookup_eq_some_iff h]
  cases hlookup : entries.lookup name with
  | none => simp [withDefault?, hvalues, hlookup]
  | some value =>
    rw [hlookup, Option.toList_some] at hvalues
    rw [withDefault?_of_valuesOf hvalues, Option.bind_some]
    cases hdecode : decode value with
    | none => simp [hdecode]
    | some b => simp [hdecode]

end Entries

theorem Json.text?_eq_some_iff {json : Json} {text : String} :
    json.text? = some text ↔ json = .text text := by
  cases json <;> simp [text?]

theorem Json.flag?_eq_some_iff {json : Json} {flag : Bool} :
    json.flag? = some flag ↔ json = .bool flag := by
  cases json <;> simp [flag?]

namespace ValidatorSwitches

structure IsRecord (entries : Entries) : Prop extends entries.AreOf fields where
  flags : ∀ value, ("incorrect_did_selector", value) ∈ entries → ∃ flag, value = .bool flag

def flagIn (entries : Entries) : Option Bool :=
  (entries.lookup "incorrect_did_selector").bind Json.flag?

theorem ofJson?_of_isRecord {json : Json} {entries : Entries}
    (hentries : json.entries? fields 0 = some entries) (h : IsRecord entries) :
    ofJson? json = some ⟨(flagIn entries).getD true⟩ := by
  have hflag : entries.withDefault? ["incorrect_did_selector"] true Json.flag? =
      some ((flagIn entries).getD true) := by
    refine (Entries.withDefault?_eq_some_iff h.distinct).2 ⟨fun value hvalue => ?_, rfl⟩
    obtain ⟨flag, rfl⟩ := h.flags value hvalue
    exact ⟨flag, rfl⟩
  simp only [ofJson?, hentries, Option.bind_eq_bind, Option.bind_some,
    if_pos (Entries.onlyOf_iff.2 h.known), hflag]
  rfl

theorem exists_record_of_ofJson? {json : Json} {s : ValidatorSwitches} (h : ofJson? json = some s) :
    ∃ entries, json.entries? fields 0 = some entries ∧ IsRecord entries := by
  simp only [ofJson?, Option.bind_eq_bind, Option.bind_eq_some_iff] at h
  obtain ⟨entries, hentries, h⟩ := h
  split at h
  · next hknown =>
    obtain ⟨flag, hflag, -⟩ := Option.bind_eq_some_iff.1 h
    have hof : entries.AreOf fields := Entries.areOf_of_length_le hknown (by
      intro field hfield
      obtain rfl := List.mem_singleton.1 hfield
      exact Entries.length_le_of_withDefault? hflag)
    obtain ⟨hflags, -⟩ := (Entries.withDefault?_eq_some_iff hof.distinct).1 hflag
    simp only [Json.flag?_eq_some_iff] at hflags
    exact ⟨entries, hentries, hof, hflags⟩
  · cases h

theorem exists_ofJson?_iff {json : Json} :
    (∃ s, ofJson? json = some s) ↔
      ∃ entries, json.entries? fields 0 = some entries ∧ IsRecord entries := by
  constructor
  · rintro ⟨s, h⟩
    exact exists_record_of_ofJson? h
  · rintro ⟨entries, hentries, hrecord⟩
    exact ⟨_, ofJson?_of_isRecord hentries hrecord⟩

end ValidatorSwitches

namespace Configuration

def textNames : List String :=
  ["policy_namespace", "credential_namespace", "credential_type_namespace", "did_prefix"]

structure IsRecord (entries : Entries) : Prop extends entries.AreOf fields where
  texts : ∀ name ∈ textNames, ∀ value, (name, value) ∈ entries → ∃ text, value = .text text
  switches : ∀ value, ("validator", value) ∈ entries →
    ∃ inner, value.entries? ValidatorSwitches.fields 0 = some inner ∧
      ValidatorSwitches.IsRecord inner

theorem isRecord_nil : IsRecord [] where
  distinct := List.nodup_nil
  known := List.forall_mem_nil _
  texts := fun _ _ _ h => (List.not_mem_nil h).elim
  switches := fun _ h => (List.not_mem_nil h).elim

def textIn (entries : Entries) (name : String) : Option String :=
  (entries.lookup name).bind Json.text?

def flagIn (entries : Entries) : Option Bool := do
  let value ← entries.lookup "validator"
  let inner ← value.entries? ValidatorSwitches.fields 0
  ValidatorSwitches.flagIn inner

def ofEntries (entries : Entries) : Configuration :=
  let default : Configuration := {}
  { policyNamespace := (textIn entries "policy_namespace").getD default.policyNamespace
    credentialNamespace :=
      (textIn entries "credential_namespace").getD default.credentialNamespace
    credentialTypeNamespace :=
      (textIn entries "credential_type_namespace").getD default.credentialTypeNamespace
    didStart := (textIn entries "did_prefix").getD default.didStart
    checksDidSelectors := (flagIn entries).getD default.checksDidSelectors }

theorem withDefault?_validator {entries : Entries} (hdistinct : HasDistinctNames entries)
    {s : ValidatorSwitches} :
    entries.withDefault? ["validator"] {} ValidatorSwitches.ofJson? = some s ↔
      (∀ value, ("validator", value) ∈ entries →
        ∃ inner, value.entries? ValidatorSwitches.fields 0 = some inner ∧
          ValidatorSwitches.IsRecord inner) ∧
        (ofEntries entries).checksDidSelectors = s.checksDidSelectors := by
  simp only [Entries.withDefault?_eq_some_iff hdistinct, ValidatorSwitches.exists_ofJson?_iff]
  refine and_congr_right fun hswitches => ?_
  have hflag : (((entries.lookup "validator").bind ValidatorSwitches.ofJson?).getD {}) =
      ⟨(ofEntries entries).checksDidSelectors⟩ := by
    simp only [ofEntries, flagIn]
    cases hlookup : entries.lookup "validator" with
    | none => rfl
    | some value =>
      have hmem := (Entries.lookup_eq_some_iff hdistinct).1 hlookup
      obtain ⟨inner, hinner, hrecord⟩ := hswitches value hmem
      simp [hinner, ValidatorSwitches.ofJson?_of_isRecord hinner hrecord]
  rw [hflag]
  cases s
  simp

theorem withDefault?_text {entries : Entries} (h : IsRecord entries) {name : String}
    (hname : name ∈ textNames) (default : String) :
    entries.withDefault? [name] default Json.text? = some ((textIn entries name).getD default) := by
  refine (Entries.withDefault?_eq_some_iff h.distinct).2 ⟨fun value hvalue => ?_, rfl⟩
  obtain ⟨text, rfl⟩ := h.texts name hname value hvalue
  exact ⟨text, rfl⟩

theorem ofJson?_of_isRecord {json : Json} {entries : Entries}
    (hentries : json.entries? fields 0 = some entries) (h : IsRecord entries) :
    ofJson? json = some (ofEntries entries) := by
  have hread : entries.withDefault? ["validator"] {} ValidatorSwitches.ofJson? =
      some ⟨(ofEntries entries).checksDidSelectors⟩ :=
    (withDefault?_validator h.distinct).2 ⟨h.switches, rfl⟩
  simp only [ofJson?, hentries, Option.bind_eq_bind, Option.bind_some]
  rw [if_pos (Entries.onlyOf_iff.2 h.known), withDefault?_text h (by decide),
    withDefault?_text h (by decide), withDefault?_text h (by decide),
    withDefault?_text h (by decide), hread]
  rfl

theorem exists_record_of_ofJson? {json : Json} {c : Configuration} (h : ofJson? json = some c) :
    ∃ entries, json.entries? fields 0 = some entries ∧ IsRecord entries ∧ c = ofEntries entries := by
  simp only [ofJson?, Option.bind_eq_bind, Option.bind_eq_some_iff] at h
  obtain ⟨entries, hentries, h⟩ := h
  refine ⟨entries, hentries, ?_⟩
  split at h
  · next hknown =>
    simp only [Option.bind_eq_some_iff] at h
    obtain ⟨policy, hpolicy, credential, hcredential, types, htypes, did, hdid, s, hs, hc⟩ := h
    have hof : entries.AreOf fields := Entries.areOf_of_length_le hknown (by
      simp only [fields, List.forall_mem_cons]
      exact ⟨Entries.length_le_of_withDefault? hpolicy,
        Entries.length_le_of_withDefault? hcredential, Entries.length_le_of_withDefault? htypes,
        Entries.length_le_of_withDefault? hdid, Entries.length_le_of_withDefault? hs,
        List.forall_mem_nil _⟩)
    simp only [Entries.withDefault?_eq_some_iff hof.distinct, Json.text?_eq_some_iff]
      at hpolicy hcredential htypes hdid
    obtain ⟨hpolicyText, rfl⟩ := hpolicy
    obtain ⟨hcredentialText, rfl⟩ := hcredential
    obtain ⟨htypesText, rfl⟩ := htypes
    obtain ⟨hdidText, rfl⟩ := hdid
    obtain ⟨hswitches, hflag⟩ := (withDefault?_validator hof.distinct).1 hs
    refine ⟨⟨hof, ?_, hswitches⟩, ?_⟩
    · simp only [textNames, List.forall_mem_cons]
      exact ⟨hpolicyText, hcredentialText, htypesText, hdidText, List.forall_mem_nil _⟩
    · rw [← hflag] at hc
      exact (Option.some.inj hc).symm
  · cases h

theorem ofJson?_eq_some_iff {json : Json} {c : Configuration} :
    ofJson? json = some c ↔ ∃ entries, json.entries? fields 0 = some entries ∧ IsRecord entries ∧
      c = ofEntries entries := by
  constructor
  · exact exists_record_of_ofJson?
  · rintro ⟨entries, hentries, hrecord, rfl⟩
    exact ofJson?_of_isRecord hentries hrecord

end Configuration

end CredentialPolicy
