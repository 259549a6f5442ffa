import CredentialPolicy.CommandLine.Arguments
import CredentialPolicy.CommandLine.Command
import CredentialPolicy.CredentialScope
import CredentialPolicy.Document.Configuration
import CredentialPolicy.Document.Policy
import CredentialPolicy.Document.Reader
import CredentialPolicy.Instant.Text
import CredentialPolicy.Json.Pretty
import CredentialPolicy.Url
import CredentialPolicy.Violation

namespace CredentialPolicy.CommandLine

structure Surroundings where
  fileText? : String → Option String
  environment? : String → Option String

inductive FileFault
  | unreadable
  | malformed
  | invalid (fault : ValidationError)
deriving DecidableEq, Repr

inductive Failure
  | unreadableConfiguration (path : String) (fault : FileFault)
  | invalidOverride (fault : ConfigurationError)
  | unreadable (path : String)
  | invalidYaml (path : String)
  | invalidJson (path : String)
  | unknownScope (name : String)
  | nothingToValidate
deriving DecidableEq, Repr

def Failure.message : Failure → String
  | unreadableConfiguration path _ => "failed to load config " ++ path
  | invalidOverride _ => "invalid configuration override in environment"
  | unreadable path => "failed to read " ++ path
  | invalidYaml path => "failed to parse YAML " ++ path
  | invalidJson path => "failed to parse JSON " ++ path
  | unknownScope name =>
    "unknown scope '" ++ name ++ "', expected one of: " ++
      ", ".intercalate (PolicyScope.all.map PolicyScope.name)
  | nothingToValidate => "nothing to validate: pass --definition and/or --did"

/-- The text behind the last dot of a file's name, unless the dot begins the name. -/
def extension? (path : String) : Option String :=
  let name := (path.toList.reverse.dropWhile (· = '/')).takeWhile (· ≠ '/')
  let reversed := name.takeWhile (· ≠ '.')
  if name = ['.', '.'] ∨ name.length ≤ reversed.length + 1 then none
  else some (String.ofList reversed.reverse)

def isYaml (path : String) : Bool :=
  (extension? path).any fun e =>
    Text.sameIgnoringAsciiCase e "yaml" || Text.sameIgnoringAsciiCase e "yml"

variable [UrlParser] [TextReader] [DateFormat] [ArgumentParser]

def readDocument {α : Type} [Document α] (world : Surroundings) (path : String) :
    Except Failure α :=
  match world.fileText? path with
  | none => .error (.unreadable path)
  | some text =>
    if isYaml path then
      match Document.ofYamlText? text with
      | some value => .ok value
      | none => .error (.invalidYaml path)
    else
      match Document.ofJsonText? text with
      | some value => .ok value
      | none => .error (.invalidJson path)

def fileConfiguration (world : Surroundings) : Option String → Except Failure Configuration
  | none => .ok {}
  | some path =>
    match world.fileText? path with
    | none => .error (.unreadableConfiguration path .unreadable)
    | some text =>
      match Document.ofYamlText? text with
      | none => .error (.unreadableConfiguration path .malformed)
      | some (config : Configuration) =>
        match config.check with
        | .ok _ => .ok config
        | .error fault => .error (.unreadableConfiguration path (.invalid fault))

def loadConfiguration (world : Surroundings) (path : Option String) :
    Except Failure Configuration := do
  let config ← fileConfiguration world path
  match config.overrideWith world.environment? with
  | .ok config => return config
  | .error fault => throw (.invalidOverride fault)

def evaluateFiles (world : Surroundings) (config : Configuration)
    (policy participant scope : String) : Except Failure Report := do
  match PolicyScope.ofName? scope with
  | none => throw (.unknownScope scope)
  | some scope =>
    let policy ← readDocument world policy
    let participant ← readDocument world participant
    return evaluate config policy participant scope

def scopesForFile (world : Surroundings) (config : Configuration) (policy : String)
    (message : Option MessageKind) : Except Failure (List String) := do
  let policy ← readDocument world policy
  return (ScopeExtractorRegistry.forCredentials config).collect policy (.forMessage message)

def validateDefinitionFile (world : Surroundings) (config : Configuration) (path : String) :
    Except Failure (List Violation) := do
  let definition : PolicyDefinition ← readDocument world path
  return definition.check config

def groupViolations (dids : List String) : List Violation :=
  if dids.isEmpty then []
  else
    match Did.checkGroup dids "dids" with
    | .ok _ => []
    | .error violations => violations

def validateInput (world : Surroundings) (config : Configuration) (definition : Option String)
    (dids : List String) : Except Failure (List Violation) :=
  match definition with
  | none => if dids.isEmpty then .error .nothingToValidate else .ok (groupViolations dids)
  | some path =>
    (validateDefinitionFile world config path).map fun violations =>
      violations ++ groupViolations dids

def problemJson (p : Problem) : Json :=
  .object
    [("kind", (p.kind.map fun kind => Json.text kind.name).getD .null),
      ("message", .text p.message)]

def reportJson (r : Report) : Json :=
  .object
    [("scope", .text r.scope.name), ("granted", .bool r.granted),
      ("problems", .list (r.problems.map problemJson))]

def reportLines (r : Report) : List String :=
  ((if r.granted then "GRANTED" else "DENIED") ++ " (" ++ r.scope.name ++ ")") ::
    r.problems.map fun p => "  - " ++ p.message

structure Outcome where
  exitCode : Nat
  output : String
  complaint : Option String
deriving DecidableEq, Repr

def succeeded : Nat := 0

def failed : Nat := 1

def rejected : Nat := 2

def printed (exitCode : Nat) (lines : List String) : Outcome :=
  ⟨exitCode, String.join (lines.map (· ++ "\n")), none⟩

def verdictOf (granted : Bool) : Nat :=
  if granted then succeeded else rejected

def runCommand (world : Surroundings) (config : Configuration) : Command → Except Failure Outcome
  | .evaluate policy participant scope json => do
    let report ← evaluateFiles world config policy participant scope
    let lines := if json then [(reportJson report).pretty 0] else reportLines report
    return printed (verdictOf report.granted) lines
  | .scopes policy message => do
    let scopes ← scopesForFile world config policy message
    return printed succeeded scopes
  | .validate definition dids => do
    let violations ← validateInput world config definition dids
    if violations.isEmpty then return printed succeeded ["OK"]
    else return printed rejected (violations.map Violation.display)

def runInvocation (world : Surroundings) (i : Invocation) : Except Failure Outcome := do
  let config ← loadConfiguration world i.config
  runCommand world config i.command

def versionLine : String :=
  "fx 0.3.0"

def usage : String :=
  "Usage: fx [--verbose] [--log-json] [--config <FILE>] <COMMAND>"

def helpLines : List String :=
  [usage, "",
    "  evaluate --policy <FILE> --participant <FILE> [--scope <SCOPE>] [--json]",
    "  scopes --policy <FILE> [--message <MESSAGE>]",
    "  validate [--definition <FILE>] [--did <DID>]..."]

def run (world : Surroundings) (arguments : List String) : Outcome :=
  match ArgumentParser.parse arguments with
  | .error .version => printed succeeded [versionLine]
  | .error .help => printed succeeded helpLines
  | .error .usage => ⟨rejected, "", some usage⟩
  | .ok invocation =>
    match runInvocation world invocation with
    | .ok outcome => outcome
    | .error failure => ⟨failed, "", some failure.message⟩

def namedFiles (arguments : List String) : List String :=
  match ArgumentParser.parse arguments with
  | .error _ => []
  | .ok i =>
    i.config.toList ++
      match i.command with
      | .evaluate policy participant _ _ => [policy, participant]
      | .scopes policy _ => [policy]
      | .validate definition _ => definition.toList

end CredentialPolicy.CommandLine
