import CredentialPolicy.CommandLine
import CredentialPolicy.Proofs.ConfigurationRecord

namespace CredentialPolicy

namespace Configuration

variable {c : Configuration} {lookup : String → Option String}

def OverridesFlag (lookup : String → Option String) : Prop :=
  ∀ value, lookup checksDidSelectorsKey = some value →
    Text.trim value = "true" ∨ Text.trim value = "false"

def overriddenBy (c : Configuration) (lookup : String → Option String) : Configuration where
  policyNamespace := (lookup policyNamespaceKey).getD c.policyNamespace
  credentialNamespace := (lookup credentialNamespaceKey).getD c.credentialNamespace
  credentialTypeNamespace := (lookup credentialTypeNamespaceKey).getD c.credentialTypeNamespace
  didStart := (lookup didStartKey).getD c.didStart
  checksDidSelectors :=
    ((lookup checksDidSelectorsKey).map fun value => decide (Text.trim value = "true")).getD
      c.checksDidSelectors

theorem overriddenFlag_of_overridesFlag (h : OverridesFlag lookup) (flag : Bool) :
    overriddenFlag flag (lookup checksDidSelectorsKey) =
      .ok (((lookup checksDidSelectorsKey).map fun value =>
        decide (Text.trim value = "true")).getD flag) := by
  cases hvalue : lookup checksDidSelectorsKey with
  | none => rfl
  | some value =>
    rw [overriddenFlag, Option.map_some, Option.getD_some]
    rcases h value hvalue with htrue | hfalse
    · rw [if_pos htrue, htrue]
      rfl
    · rw [hfalse]
      rfl

theorem overriddenBy_overriddenBy (c : Configuration) (lookup : String → Option String) :
    (c.overriddenBy lookup).overriddenBy lookup = c.overriddenBy lookup := by
  have hgetD {α : Type} (override : Option α) (value : α) :
      override.getD (override.getD value) = override.getD value := by
    cases override <;> rfl
  simp only [overriddenBy, hgetD]

variable [UrlParser]

inductive Refuses (c : Configuration) (lookup : String → Option String) : ConfigurationError → Prop
  | flag {value : String} (hvalue : lookup checksDidSelectorsKey = some value)
      (htrue : Text.trim value ≠ "true") (hfalse : Text.trim value ≠ "false") :
      Refuses c lookup (.invalidOverride checksDidSelectorsKey value)
  | values {fault : ValidationError} (hflag : OverridesFlag lookup)
      (hcheck : (c.overriddenBy lookup).check = .error fault) : Refuses c lookup (.invalid fault)

theorem overrideWith_of_check (hflag : OverridesFlag lookup)
    (hcheck : (c.overriddenBy lookup).check = .ok ()) :
    c.overrideWith lookup = .ok (c.overriddenBy lookup) := by
  rw [overriddenBy] at hcheck
  rw [overrideWith, overriddenFlag_of_overridesFlag hflag]
  simp only [bind, Except.bind, hcheck]
  rfl

theorem Refuses.overrideWith_eq {fault : ConfigurationError} (h : c.Refuses lookup fault) :
    c.overrideWith lookup = .error fault := by
  cases h with
  | flag hvalue htrue hfalse =>
    rw [overrideWith, hvalue, overriddenFlag, if_neg htrue, if_neg hfalse]
    rfl
  | values hflag hcheck =>
    rw [overriddenBy] at hcheck
    rw [overrideWith, overriddenFlag_of_overridesFlag hflag]
    simp only [bind, Except.bind, hcheck]
    rfl

theorem overridesFlag_or_refuses (c : Configuration) (lookup : String → Option String) :
    (OverridesFlag lookup ∧ (c.overriddenBy lookup).check = .ok ()) ∨
      ∃ fault, c.Refuses lookup fault := by
  by_cases hflag : OverridesFlag lookup
  · cases hcheck : (c.overriddenBy lookup).check with
    | ok _ => exact .inl ⟨hflag, rfl⟩
    | error fault => exact .inr ⟨_, .values hflag hcheck⟩
  · simp only [OverridesFlag, not_forall, not_or] at hflag
    obtain ⟨value, hvalue, htrue, hfalse⟩ := hflag
    exact .inr ⟨_, .flag hvalue htrue hfalse⟩

theorem overrideWith_overriddenBy (hflag : OverridesFlag lookup)
    (hcheck : (c.overriddenBy lookup).check = .ok ()) :
    (c.overriddenBy lookup).overrideWith lookup = .ok (c.overriddenBy lookup) := by
  have hagain := overriddenBy_overriddenBy c lookup
  have hoverride := overrideWith_of_check hflag (c := c.overriddenBy lookup) (by rwa [hagain])
  rwa [hagain] at hoverride

end Configuration

namespace CommandLine

section

variable [TextReader] {world : Surroundings} {path : Option String}

inductive FileHolds (world : Surroundings) : Option String → Entries → Prop
  | nothing : FileHolds world none []
  | record {path text : String} {json : Json} {entries : Entries}
      (htext : world.fileText? path = some text)
      (hjson : TextReader.yaml? (Document.shape Configuration) text = some json)
      (hentries : json.entries? Configuration.fields 0 = some entries) :
      FileHolds world (some path) entries

theorem FileHolds.exists_text {path : String} {entries : Entries}
    (h : FileHolds world (some path) entries) : ∃ text, world.fileText? path = some text := by
  cases h with
  | record htext => exact ⟨_, htext⟩

theorem ofYamlText?_eq_some_iff {path text : String} (htext : world.fileText? path = some text)
    {c : Configuration} :
    Document.ofYamlText? text = some c ↔ ∃ entries, FileHolds world (some path) entries ∧
      Configuration.IsRecord entries ∧ c = Configuration.ofEntries entries := by
  constructor
  · intro h
    obtain ⟨json, hjson, h⟩ := Option.bind_eq_some_iff.1 h
    obtain ⟨entries, hentries, hrecord, hc⟩ := Configuration.ofJson?_eq_some_iff.1 h
    exact ⟨entries, .record htext hjson hentries, hrecord, hc⟩
  · rintro ⟨entries, hholds, hrecord, hc⟩
    cases hholds with
    | record hfile hjson hentries =>
      obtain rfl := Option.some.inj (htext.symm.trans hfile)
      refine Option.bind_eq_some_iff.2 ⟨_, hjson, ?_⟩
      exact Configuration.ofJson?_eq_some_iff.2 ⟨entries, hentries, hrecord, hc⟩

theorem ofYamlText?_eq_none_iff {path text : String} (htext : world.fileText? path = some text) :
    (Document.ofYamlText? text : Option Configuration) = none ↔
      ∀ entries, FileHolds world (some path) entries → ¬Configuration.IsRecord entries := by
  constructor
  · intro h entries hholds hrecord
    have hread := (ofYamlText?_eq_some_iff htext).2 ⟨entries, hholds, hrecord, rfl⟩
    rw [h] at hread
    cases hread
  · intro h
    rw [Option.eq_none_iff_forall_ne_some]
    intro c hc
    obtain ⟨entries, hholds, hrecord, -⟩ := (ofYamlText?_eq_some_iff htext).1 hc
    exact h entries hholds hrecord

variable [UrlParser]

/-- What the file holds is a configuration, and valid without any override. Nobody asks that of the
default values. -/
structure FileGives (world : Surroundings) (path : Option String) (entries : Entries) : Prop where
  holds : FileHolds world path entries
  record : Configuration.IsRecord entries
  valid : path ≠ none → (Configuration.ofEntries entries).check = .ok ()

inductive FileFails (world : Surroundings) : Option String → Failure → Prop
  | unreadable {path : String} (h : world.fileText? path = none) :
      FileFails world (some path) (.unreadableConfiguration path .unreadable)
  | malformed {path text : String} (htext : world.fileText? path = some text)
      (h : ∀ entries, FileHolds world (some path) entries → ¬Configuration.IsRecord entries) :
      FileFails world (some path) (.unreadableConfiguration path .malformed)
  | invalid {path : String} {entries : Entries} {fault : ValidationError}
      (hholds : FileHolds world (some path) entries) (hrecord : Configuration.IsRecord entries)
      (h : (Configuration.ofEntries entries).check = .error fault) :
      FileFails world (some path) (.unreadableConfiguration path (.invalid fault))

inductive LoadFails (world : Surroundings) (path : Option String) : Failure → Prop
  | file {failure : Failure} (h : FileFails world path failure) : LoadFails world path failure
  | override {entries : Entries} {fault : ConfigurationError} (hfile : FileGives world path entries)
      (h : (Configuration.ofEntries entries).Refuses world.environment? fault) :
      LoadFails world path (.invalidOverride fault)

theorem FileGives.fileConfiguration_eq {entries : Entries} (h : FileGives world path entries) :
    fileConfiguration world path = .ok (Configuration.ofEntries entries) := by
  obtain ⟨hholds, hrecord, hvalid⟩ := h
  cases path with
  | none =>
    cases hholds
    rfl
  | some path =>
    obtain ⟨text, htext⟩ := hholds.exists_text
    have hread := (ofYamlText?_eq_some_iff htext).2 ⟨entries, hholds, hrecord, rfl⟩
    simp only [fileConfiguration, htext, hread, hvalid (Option.some_ne_none path)]

theorem FileFails.fileConfiguration_eq {failure : Failure} (h : FileFails world path failure) :
    fileConfiguration world path = .error failure := by
  cases h with
  | unreadable h => simp only [fileConfiguration, h]
  | malformed htext h =>
    simp only [fileConfiguration, htext, (ofYamlText?_eq_none_iff htext).2 h]
  | @invalid path entries fault hholds hrecord h =>
    obtain ⟨text, htext⟩ := hholds.exists_text
    have hread := (ofYamlText?_eq_some_iff htext).2 ⟨entries, hholds, hrecord, rfl⟩
    simp only [fileConfiguration, htext, hread, h]

theorem fileGives_or_fails (world : Surroundings) (path : Option String) :
    (∃ entries, FileGives world path entries) ∨ ∃ failure, FileFails world path failure := by
  cases path with
  | none => exact .inl ⟨[], .nothing, Configuration.isRecord_nil, fun h => absurd rfl h⟩
  | some path =>
    cases htext : world.fileText? path with
    | none => exact .inr ⟨_, .unreadable htext⟩
    | some text =>
      by_cases h : ∃ entries, FileHolds world (some path) entries ∧ Configuration.IsRecord entries
      · obtain ⟨entries, hholds, hrecord⟩ := h
        cases hcheck : (Configuration.ofEntries entries).check with
        | ok _ => exact .inl ⟨entries, hholds, hrecord, fun _ => hcheck⟩
        | error fault => exact .inr ⟨_, .invalid hholds hrecord hcheck⟩
      · refine .inr ⟨_, .malformed htext fun entries hholds hrecord => ?_⟩
        exact h ⟨entries, hholds, hrecord⟩

theorem loadConfiguration_of_fileFails {failure : Failure} (h : FileFails world path failure) :
    loadConfiguration world path = .error failure := by
  rw [loadConfiguration, h.fileConfiguration_eq]
  rfl

theorem loadConfiguration_of_refuses {entries : Entries} {fault : ConfigurationError}
    (hfile : FileGives world path entries)
    (h : (Configuration.ofEntries entries).Refuses world.environment? fault) :
    loadConfiguration world path = .error (.invalidOverride fault) := by
  rw [loadConfiguration, hfile.fileConfiguration_eq]
  simp only [bind, Except.bind, h.overrideWith_eq]
  rfl

theorem loadConfiguration_of_overridesFlag {entries : Entries}
    (hfile : FileGives world path entries)
    (hflag : Configuration.OverridesFlag world.environment?)
    (hcheck : ((Configuration.ofEntries entries).overriddenBy world.environment?).check = .ok ()) :
    loadConfiguration world path =
      .ok ((Configuration.ofEntries entries).overriddenBy world.environment?) := by
  rw [loadConfiguration, hfile.fileConfiguration_eq]
  simp only [bind, Except.bind, Configuration.overrideWith_of_check hflag hcheck]
  rfl

theorem LoadFails.loadConfiguration_eq {failure : Failure} (h : LoadFails world path failure) :
    loadConfiguration world path = .error failure := by
  cases h with
  | file h => exact loadConfiguration_of_fileFails h
  | override hfile h => exact loadConfiguration_of_refuses hfile h

theorem loads_or_fails (world : Surroundings) (path : Option String) :
    (∃ entries, FileGives world path entries ∧
      Configuration.OverridesFlag world.environment? ∧
      ((Configuration.ofEntries entries).overriddenBy world.environment?).check = .ok ()) ∨
    ∃ failure, LoadFails world path failure := by
  rcases fileGives_or_fails world path with ⟨entries, hfile⟩ | ⟨failure, h⟩
  · rcases (Configuration.ofEntries entries).overridesFlag_or_refuses world.environment? with
      ⟨hflag, hcheck⟩ | ⟨fault, h⟩
    · exact .inl ⟨entries, hfile, hflag, hcheck⟩
    · exact .inr ⟨_, .override hfile h⟩
  · exact .inr ⟨failure, .file h⟩

theorem loading_settled (world : Surroundings) (path : Option String) :
    (∀ c, loadConfiguration world path = .ok c →
      c.check = .ok () ∧ c.overrideWith world.environment? = .ok c ∧
        ∃ entries, FileHolds world path entries ∧ Configuration.IsRecord entries ∧
          c = (Configuration.ofEntries entries).overriddenBy world.environment?) ∧
    ∀ failure, loadConfiguration world path = .error failure ↔ LoadFails world path failure := by
  rcases loads_or_fails world path with ⟨entries, hfile, hflag, hcheck⟩ | ⟨found, hfails⟩
  · have hload := loadConfiguration_of_overridesFlag hfile hflag hcheck
    constructor
    · intro c hc
      rw [hload] at hc
      cases hc
      exact ⟨hcheck, Configuration.overrideWith_overriddenBy hflag hcheck, entries, hfile.holds,
        hfile.record, rfl⟩
    · intro failure
      constructor
      · intro h
        rw [hload] at h
        cases h
      · intro h
        rw [h.loadConfiguration_eq] at hload
        cases hload
  · have hload := hfails.loadConfiguration_eq
    constructor
    · intro c hc
      rw [hload] at hc
      cases hc
    · intro failure
      constructor
      · intro h
        rw [hload] at h
        cases h
        exact hfails
      · exact LoadFails.loadConfiguration_eq

end

theorem loading_settled_overridden :
    let world : Surroundings :=
      { fileText? := fun path => if path = "fx.yaml" then some "did_prefix: did:key" else none
        environment? := fun key =>
          if key = "FX_VALIDATOR_INCORRECT_DID_SELECTOR" then some " false " else none }
    let c : Configuration := { didStart := "did:key", checksDidSelectors := false }
    loadConfiguration world (some "fx.yaml") = .ok c ∧ c.check = .ok () ∧
      c.overrideWith world.environment? = .ok c := by
  intro world c
  have hsettled := (loading_settled world (some "fx.yaml")).1 c
  have hread : (loadConfiguration world (some "fx.yaml")).toOption = some c := by decide +kernel
  cases hload : loadConfiguration world (some "fx.yaml") with
  | error failure =>
    rw [hload] at hread
    cases hread
  | ok loaded =>
    rw [hload] at hread
    obtain rfl : loaded = c := Option.some.inj hread
    obtain ⟨hcheck, hagain, -⟩ := hsettled hload
    exact ⟨rfl, hcheck, hagain⟩

end CommandLine

end CredentialPolicy
