import CredentialPolicy.Proofs.ConfigurationLoading
import CredentialPolicy.Proofs.Decision
import CredentialPolicy.Proofs.ScopeCollection

namespace CredentialPolicy.CommandLine

inductive GroupFaults : List String → List Violation → Prop
  | absent : GroupFaults [] []
  | accepted {dids : List String} {group : List Did} (h : Did.checkGroup dids "dids" = .ok group) :
      GroupFaults dids []
  | rejected {dids : List String} {faults : List Violation} (hne : dids ≠ [])
      (h : Did.checkGroup dids "dids" = .error faults) : GroupFaults dids faults

theorem groupFaults_iff {dids : List String} {faults : List Violation} :
    GroupFaults dids faults ↔ faults = groupViolations dids := by
  unfold groupViolations
  cases dids with
  | nil =>
    constructor
    · intro h
      cases h with
      | absent => rfl
      | accepted h => rfl
      | rejected hne h => exact absurd rfl hne
    · rintro rfl
      exact .absent
  | cons did dids =>
    rw [List.isEmpty_cons, if_neg Bool.false_ne_true]
    cases hgroup : Did.checkGroup (did :: dids) "dids" with
    | ok group =>
      constructor
      · intro h
        cases h with
        | accepted h => rfl
        | rejected hne h =>
          rw [hgroup] at h
          cases h
      · rintro rfl
        exact .accepted hgroup
    | error violations =>
      constructor
      · intro h
        cases h with
        | accepted h =>
          rw [hgroup] at h
          cases h
        | rejected hne h =>
          rw [hgroup] at h
          exact (Except.error.inj h).symm
      · rintro rfl
        exact .rejected (List.cons_ne_nil did dids) hgroup

theorem judged_eq (violations : List Violation) :
    (if violations.isEmpty then return printed succeeded ["OK"]
      else return printed rejected (violations.map Violation.display) : Except Failure Outcome) =
    .ok (printed (if violations = [] then 0 else 2) (if violations = [] then ["OK"] else
      violations.map fun v => v.message ++ " (at " ++ v.path ++ ")")) := by
  cases violations with
  | nil => rfl
  | cons v rest => rfl

section

variable [TextReader]

inductive Contains {α : Type} [Document α] (world : Surroundings) (path : String) (value : α) : Prop
  | yaml {text : String} (htext : world.fileText? path = some text) (hyaml : isYaml path = true)
      (h : Document.ofYamlText? text = some value)
  | json {text : String} (htext : world.fileText? path = some text) (hjson : isYaml path = false)
      (h : Document.ofJsonText? text = some value)

inductive DefinitionFaults (world : Surroundings) (config : Configuration) :
    Option String → List Violation → Prop
  | absent : DefinitionFaults world config none []
  | checked {path : String} {definition : PolicyDefinition} (h : Contains world path definition) :
      DefinitionFaults world config (some path) (definition.check config)

variable {world : Surroundings} {config : Configuration}

theorem readDocument_eq_ok_iff {α : Type} [Document α] {path : String} {value : α} :
    readDocument world path = .ok value ↔ Contains world path value := by
  constructor
  · intro h
    unfold readDocument at h
    cases htext : world.fileText? path with
    | none =>
      rw [htext] at h
      cases h
    | some text =>
      rw [htext] at h
      cases hyaml : isYaml path with
      | true =>
        apply Contains.yaml htext hyaml
        simp only [hyaml, if_true] at h
        split at h
        · next found hread => rw [hread, Except.ok.inj h]
        · cases h
      | false =>
        apply Contains.json htext hyaml
        simp only [hyaml, Bool.false_eq_true, if_false] at h
        split at h
        · next found hread => rw [hread, Except.ok.inj h]
        · cases h
  · intro h
    cases h with
    | yaml htext hyaml h => simp only [readDocument, htext, hyaml, h, if_true]
    | json htext hjson h => simp only [readDocument, htext, hjson, h, Bool.false_eq_true, if_false]

theorem scopesForFile_eq_ok_iff {policyFile : String} {message : Option MessageKind}
    {lines : List String} :
    scopesForFile world config policyFile message = .ok lines ↔
      ∃ policy : Policy, Contains world policyFile policy ∧
        IsListOf (Yields [(CredentialScopeExtractor.ofConfiguration config).scopes] policy
          (.forMessage message)) lines := by
  simp only [scopesForFile, bind_eq_ok_iff, readDocument_eq_ok_iff]
  constructor
  · rintro ⟨policy, hpolicy, hlines⟩
    rw [← Except.ok.inj hlines]
    exact ⟨policy, hpolicy, ScopeExtractorRegistry.isListOf_forCredentials config policy _⟩
  · rintro ⟨policy, hpolicy, hlines⟩
    have hcollected := ScopeExtractorRegistry.isListOf_forCredentials config policy
      (.forMessage message)
    rw [hlines.eq hcollected]
    exact ⟨policy, hpolicy, rfl⟩

theorem validateDefinitionFile_eq_ok_iff {path : String} {faults : List Violation} :
    validateDefinitionFile world config path = .ok faults ↔
      DefinitionFaults world config (some path) faults := by
  simp only [validateDefinitionFile, bind_eq_ok_iff, readDocument_eq_ok_iff]
  constructor
  · rintro ⟨definition, hdefinition, hfaults⟩
    obtain rfl := Except.ok.inj hfaults
    exact .checked hdefinition
  · intro h
    cases h with
    | checked hdefinition => exact ⟨_, hdefinition, rfl⟩

theorem validateInput_eq_ok_iff {definition : Option String} {dids : List String}
    {violations : List Violation} :
    validateInput world config definition dids = .ok violations ↔
      (definition ≠ none ∨ dids ≠ []) ∧ ∃ faults groupFaults,
        DefinitionFaults world config definition faults ∧ GroupFaults dids groupFaults ∧
          violations = faults ++ groupFaults := by
  simp only [groupFaults_iff]
  cases definition with
  | none =>
    cases dids with
    | nil =>
      constructor
      · intro h
        cases h
      · rintro ⟨hgiven, -⟩
        simp at hgiven
    | cons did dids =>
      constructor
      · intro h
        obtain rfl := Except.ok.inj h
        exact ⟨.inr (List.cons_ne_nil did dids), [], _, .absent, rfl, rfl⟩
      · rintro ⟨-, _, _, hdefinition, rfl, rfl⟩
        cases hdefinition
        rfl
  | some path =>
    simp only [validateInput, map_eq_ok_iff, validateDefinitionFile_eq_ok_iff]
    constructor
    · rintro ⟨faults, hdefinition, rfl⟩
      exact ⟨.inl (Option.some_ne_none path), faults, _, hdefinition, rfl, rfl⟩
    · rintro ⟨-, faults, _, hdefinition, rfl, rfl⟩
      exact ⟨faults, hdefinition, rfl⟩

variable [DateFormat]

inductive Answers (world : Surroundings) (config : Configuration) :
    Command → Nat → List String → Prop
  | evaluate {policyFile participantFile scopeName : String} {json : Bool} {policy : Policy}
      {participant : Participant} {scope : PolicyScope} {report : Report}
      (hscope : scope.name = scopeName) (hpolicy : Contains world policyFile policy)
      (hparticipant : Contains world participantFile participant)
      (hreport : report = CredentialPolicy.evaluate config policy participant scope) :
      Answers world config (.evaluate policyFile participantFile scopeName json)
        (if report.granted then 0 else 2)
        (if json then [(reportJson report).pretty 0] else
          ((if report.granted then "GRANTED" else "DENIED") ++ " (" ++ scopeName ++ ")") ::
            report.problems.map fun problem => "  - " ++ problem.message)
  | scopes {policyFile : String} {message : Option MessageKind} {policy : Policy}
      {lines : List String} (hpolicy : Contains world policyFile policy)
      (hlines : IsListOf (Yields [(CredentialScopeExtractor.ofConfiguration config).scopes] policy
        (.forMessage message)) lines) :
      Answers world config (.scopes policyFile message) 0 lines
  | validate {definition : Option String} {dids : List String} {faults groupFaults : List Violation}
      (hgiven : definition ≠ none ∨ dids ≠ [])
      (hdefinition : DefinitionFaults world config definition faults)
      (hgroup : GroupFaults dids groupFaults) :
      Answers world config (.validate definition dids) (if faults ++ groupFaults = [] then 0 else 2)
        (if faults ++ groupFaults = [] then ["OK"] else
          (faults ++ groupFaults).map fun v => v.message ++ " (at " ++ v.path ++ ")")

inductive IsUnanswerable (world : Surroundings) : Command → Prop
  | unknownScope {policy participant scopeName : String} {json : Bool}
      (h : ∀ scope : PolicyScope, scope.name ≠ scopeName) :
      IsUnanswerable world (.evaluate policy participant scopeName json)
  | evaluatedPolicy {policy participant scopeName : String} {json : Bool}
      (h : ∀ value : Policy, ¬ Contains world policy value) :
      IsUnanswerable world (.evaluate policy participant scopeName json)
  | participant {policy participant scopeName : String} {json : Bool}
      (h : ∀ value : Participant, ¬ Contains world participant value) :
      IsUnanswerable world (.evaluate policy participant scopeName json)
  | policy {policy : String} {message : Option MessageKind}
      (h : ∀ value : Policy, ¬ Contains world policy value) :
      IsUnanswerable world (.scopes policy message)
  | definition {path : String} {dids : List String}
      (h : ∀ value : PolicyDefinition, ¬ Contains world path value) :
      IsUnanswerable world (.validate (some path) dids)
  | nothing : IsUnanswerable world (.validate none [])

inductive Fails [UrlParser] (world : Surroundings) (i : Invocation) : Prop
  | configuration {failure : Failure} (h : LoadFails world i.config failure)
  | command (h : IsUnanswerable world i.command)

variable {command : Command}

theorem evaluateFiles_eq_ok_iff {policyFile participantFile scopeName : String} {report : Report} :
    evaluateFiles world config policyFile participantFile scopeName = .ok report ↔
      ∃ (scope : PolicyScope) (policy : Policy) (participant : Participant),
        scope.name = scopeName ∧ Contains world policyFile policy ∧
          Contains world participantFile participant ∧
          report = evaluate config policy participant scope := by
  simp only [← PolicyScope.ofName?_eq_some_iff]
  unfold evaluateFiles
  cases PolicyScope.ofName? scopeName with
  | none =>
    constructor
    · intro h
      cases h
    · rintro ⟨_, _, _, hscope, -⟩
      cases hscope
  | some scope =>
    simp only [bind_eq_ok_iff, readDocument_eq_ok_iff]
    constructor
    · rintro ⟨policy, hpolicy, participant, hparticipant, hreport⟩
      exact ⟨scope, policy, participant, rfl, hpolicy, hparticipant, (Except.ok.inj hreport).symm⟩
    · rintro ⟨_, policy, participant, hscope, hpolicy, hparticipant, rfl⟩
      obtain rfl := Option.some.inj hscope
      exact ⟨policy, hpolicy, participant, hparticipant, rfl⟩

theorem runCommand_eq_ok_iff {outcome : Outcome} :
    runCommand world config command = .ok outcome ↔
      ∃ exitCode lines, Answers world config command exitCode lines ∧
        outcome = printed exitCode lines := by
  cases command with
  | evaluate policyFile participantFile scopeName json =>
    simp only [runCommand, bind_eq_ok_iff, evaluateFiles_eq_ok_iff]
    constructor
    · rintro ⟨_, ⟨scope, policy, participant, rfl, hpolicy, hparticipant, rfl⟩, houtcome⟩
      exact ⟨_, _, .evaluate rfl hpolicy hparticipant rfl, (Except.ok.inj houtcome).symm⟩
    · rintro ⟨_, _, hanswers, rfl⟩
      cases hanswers with
      | evaluate hscope hpolicy hparticipant hreport =>
        refine ⟨_, ⟨_, _, _, hscope, hpolicy, hparticipant, hreport⟩, ?_⟩
        subst hscope hreport
        rfl
  | scopes policyFile message =>
    simp only [runCommand, bind_eq_ok_iff, scopesForFile_eq_ok_iff]
    constructor
    · rintro ⟨lines, ⟨policy, hpolicy, hlines⟩, houtcome⟩
      exact ⟨0, lines, .scopes hpolicy hlines, (Except.ok.inj houtcome).symm⟩
    · rintro ⟨_, lines, hanswers, rfl⟩
      cases hanswers with
      | scopes hpolicy hlines => exact ⟨lines, ⟨_, hpolicy, hlines⟩, rfl⟩
  | validate definition dids =>
    simp only [runCommand, bind_eq_ok_iff, validateInput_eq_ok_iff]
    constructor
    · rintro ⟨_, ⟨hgiven, faults, groupFaults, hdefinition, hgroup, rfl⟩, houtcome⟩
      refine ⟨_, _, .validate hgiven hdefinition hgroup, ?_⟩
      rw [← Except.ok.inj (houtcome.symm.trans (judged_eq _))]
    · rintro ⟨_, _, hanswers, rfl⟩
      cases hanswers with
      | validate hgiven hdefinition hgroup =>
        exact ⟨_, ⟨hgiven, _, _, hdefinition, hgroup, rfl⟩, judged_eq _⟩

theorem Answers.exitCode_ne {exitCode : Nat} {lines : List String}
    (h : Answers world config command exitCode lines) : exitCode ≠ 1 := by
  cases h with
  | evaluate => split <;> decide
  | scopes => decide
  | validate => split <;> decide

theorem IsUnanswerable.not_answers (h : IsUnanswerable world command) {exitCode : Nat}
    {lines : List String} : ¬ Answers world config command exitCode lines := by
  intro hanswers
  cases hanswers with
  | evaluate hscope hpolicy hparticipant =>
    cases h with
    | unknownScope h => exact h _ hscope
    | evaluatedPolicy h => exact h _ hpolicy
    | participant h => exact h _ hparticipant
  | scopes hpolicy =>
    cases h with
    | policy h => exact h _ hpolicy
  | validate hgiven hdefinition =>
    cases h with
    | definition h =>
      cases hdefinition with
      | checked hdefinition => exact h _ hdefinition
    | nothing => simp at hgiven

theorem answers_or_isUnanswerable (world : Surroundings) (config : Configuration)
    (command : Command) :
    (∃ exitCode lines, Answers world config command exitCode lines) ∨
      IsUnanswerable world command := by
  cases command with
  | evaluate policyFile participantFile scopeName json =>
    by_cases hscope : ∃ scope : PolicyScope, scope.name = scopeName
    · by_cases hpolicy : ∃ policy : Policy, Contains world policyFile policy
      · by_cases hparticipant : ∃ participant : Participant,
            Contains world participantFile participant
        · obtain ⟨scope, hscope⟩ := hscope
          obtain ⟨policy, hpolicy⟩ := hpolicy
          obtain ⟨participant, hparticipant⟩ := hparticipant
          exact .inl ⟨_, _, .evaluate hscope hpolicy hparticipant rfl⟩
        · exact .inr (.participant (not_exists.1 hparticipant))
      · exact .inr (.evaluatedPolicy (not_exists.1 hpolicy))
    · exact .inr (.unknownScope (not_exists.1 hscope))
  | scopes policyFile message =>
    by_cases hpolicy : ∃ policy : Policy, Contains world policyFile policy
    · obtain ⟨policy, hpolicy⟩ := hpolicy
      have hlines := ScopeExtractorRegistry.isListOf_forCredentials config policy
        (.forMessage message)
      exact .inl ⟨_, _, .scopes hpolicy hlines⟩
    · exact .inr (.policy (not_exists.1 hpolicy))
  | validate definition dids =>
    have hgroup : GroupFaults dids (groupViolations dids) := groupFaults_iff.2 rfl
    cases definition with
    | none =>
      by_cases hdids : dids = []
      · rw [hdids]
        exact .inr .nothing
      · exact .inl ⟨_, _, .validate (.inr hdids) .absent hgroup⟩
    | some path =>
      by_cases hdefinition : ∃ definition : PolicyDefinition, Contains world path definition
      · obtain ⟨definition, hdefinition⟩ := hdefinition
        exact .inl ⟨_, _, .validate (.inl (Option.some_ne_none path)) (.checked hdefinition) hgroup⟩
      · exact .inr (.definition (not_exists.1 hdefinition))

variable [UrlParser] {i : Invocation}

theorem runInvocation_of_answers {config : Configuration} {exitCode : Nat} {lines : List String}
    (hload : loadConfiguration world i.config = .ok config)
    (hanswers : Answers world config i.command exitCode lines) :
    runInvocation world i = .ok (printed exitCode lines) :=
  bind_eq_ok_iff.2 ⟨config, hload, runCommand_eq_ok_iff.2 ⟨exitCode, lines, hanswers, rfl⟩⟩

theorem Fails.runInvocation_eq (h : Fails world i) :
    ∃ failure, runInvocation world i = .error failure := by
  cases hrun : runInvocation world i with
  | error failure => exact ⟨failure, rfl⟩
  | ok outcome =>
    obtain ⟨config, hload, hcommand⟩ := bind_eq_ok_iff.1 hrun
    obtain ⟨exitCode, lines, hanswers, -⟩ := runCommand_eq_ok_iff.1 hcommand
    cases h with
    | configuration h =>
      rw [h.loadConfiguration_eq] at hload
      cases hload
    | command h => exact absurd hanswers h.not_answers

theorem exists_answers (h : ¬ Fails world i) :
    ∃ config exitCode lines, loadConfiguration world i.config = .ok config ∧
      Answers world config i.command exitCode lines := by
  rcases loads_or_fails world i.config with ⟨entries, hfile, hflag, hcheck⟩ | ⟨failure, hfails⟩
  · have hload := loadConfiguration_of_overridesFlag hfile hflag hcheck
    rcases answers_or_isUnanswerable world _ i.command with ⟨exitCode, lines, hanswers⟩ | hcommand
    · exact ⟨_, exitCode, lines, hload, hanswers⟩
    · exact absurd (.command hcommand) h
  · exact absurd (.configuration hfails) h

theorem run_settled [ArgumentParser] (world : Surroundings) {arguments : List String}
    {i : Invocation} (h : ArgumentParser.parse arguments = .ok i) :
    let outcome := run world arguments
    (outcome.exitCode = 1 ↔ Fails world i) ∧
      (Fails world i → outcome.output = "") ∧
      (∀ config exitCode lines, loadConfiguration world i.config = .ok config →
        Answers world config i.command exitCode lines →
          outcome.exitCode = exitCode ∧ outcome.output = String.join (lines.map (· ++ "\n"))) ∧
      (¬ Fails world i → ∃ config exitCode lines,
        loadConfiguration world i.config = .ok config ∧
          Answers world config i.command exitCode lines) := by
  intro outcome
  have hfails (hfails : Fails world i) : outcome.exitCode = 1 ∧ outcome.output = "" := by
    obtain ⟨failure, hrun⟩ := hfails.runInvocation_eq
    simp only [outcome, run, h, hrun, failed, true_and]
  have hanswered {config : Configuration} {exitCode : Nat} {lines : List String}
      (hload : loadConfiguration world i.config = .ok config)
      (hanswers : Answers world config i.command exitCode lines) :
      outcome = printed exitCode lines := by
    simp only [outcome, run, h, runInvocation_of_answers hload hanswers]
  refine ⟨⟨?_, fun hf => (hfails hf).1⟩, fun hf => (hfails hf).2, ?_, exists_answers⟩
  · intro hcode
    by_contra hanswerable
    obtain ⟨config, exitCode, lines, hload, hanswers⟩ := exists_answers hanswerable
    rw [hanswered hload hanswers] at hcode
    exact hanswers.exitCode_ne hcode
  · intro config exitCode lines hload hanswers
    rw [hanswered hload hanswers]
    exact ⟨rfl, rfl⟩

end

theorem run_settled_unreadable :
    let world : Surroundings := { fileText? := fun _ => none, environment? := fun _ => none }
    let dids := ["--did", "did:web:a.example", "--did", "BPNL0001"]
    let checked := run world ("validate" :: dids)
    let stopped := run world ("validate" :: "--definition" :: "missing.json" :: dids)
    checked.exitCode = 2 ∧
      checked.output = "BPNL0001 should be a valid did (at dids/1)\n" ∧
      stopped.exitCode = 1 ∧ stopped.output = "" := by
  intro world dids checked stopped
  have hchecked : ArgumentParser.parse ("validate" :: dids) =
      .ok ⟨none, .validate none ["did:web:a.example", "BPNL0001"]⟩ := by decide +kernel
  have hstopped : ArgumentParser.parse ("validate" :: "--definition" :: "missing.json" :: dids) =
      .ok ⟨none, .validate (some "missing.json") ["did:web:a.example", "BPNL0001"]⟩ := by
    decide +kernel
  have hload : loadConfiguration world none = .ok {} := by decide +kernel
  have hgroup : GroupFaults ["did:web:a.example", "BPNL0001"]
      [⟨"BPNL0001 should be a valid did", "dids/1"⟩] := groupFaults_iff.2 (by decide +kernel)
  obtain ⟨-, -, hanswered, -⟩ := run_settled world hchecked
  obtain ⟨hcode, hsilent, -⟩ := run_settled world hstopped
  have hfails : Fails world
      ⟨none, .validate (some "missing.json") ["did:web:a.example", "BPNL0001"]⟩ := by
    refine .command (.definition fun definition h => ?_)
    cases h with
    | yaml htext => cases htext
    | json htext => cases htext
  obtain ⟨hexit, houtput⟩ :=
    hanswered {} _ _ hload (.validate (.inr (List.cons_ne_nil _ _)) .absent hgroup)
  refine ⟨hexit, ?_, hcode.2 hfails, hsilent hfails⟩
  rw [houtput]
  decide +kernel

end CredentialPolicy.CommandLine
