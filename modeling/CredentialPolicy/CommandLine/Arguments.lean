import CredentialPolicy.CommandLine.Command
import CredentialPolicy.Text.Affix

namespace CredentialPolicy.CommandLine

inductive Arity
  | flag
  | counter
  | path
  | word
  | words
  | message
deriving DecidableEq, Repr

structure OptionSpec where
  name : String
  arity : Arity
deriving DecidableEq, Repr

def globalOptions : List OptionSpec :=
  [⟨"verbose", .counter⟩, ⟨"log-json", .flag⟩, ⟨"config", .path⟩]

inductive CommandName
  | evaluate
  | scopes
  | validate
deriving DecidableEq, Repr

namespace CommandName

def all : List CommandName :=
  [evaluate, scopes, validate]

def name : CommandName → String
  | evaluate => "evaluate"
  | scopes => "scopes"
  | validate => "validate"

def ofName? (value : String) : Option CommandName :=
  all.find? (·.name = value)

def options : CommandName → List OptionSpec
  | evaluate =>
    [⟨"policy", .path⟩, ⟨"participant", .path⟩, ⟨"scope", .word⟩, ⟨"json", .flag⟩]
  | scopes => [⟨"policy", .path⟩, ⟨"message", .message⟩]
  | validate => [⟨"definition", .path⟩, ⟨"did", .words⟩]

end CommandName

def messages : List (String × MessageKind) :=
  [("catalog-request", .catalogRequest), ("contract-request", .contractRequest),
    ("transfer-request", .transferRequest), ("dataset-request", .datasetRequest),
    ("contract-agreement", .contractAgreement), ("transfer-start", .transferStart)]

def messageOf? (value : String) : Option MessageKind :=
  messages.lookup value

/-- Options with their values, in the order given. A flag has an empty value. -/
abbrev Given := List (String × String)

namespace Given

def value? (given : Given) (name : String) : Option String :=
  given.lookup name

def values (given : Given) (name : String) : List String :=
  (given.filter (·.1 = name)).map (·.2)

def has (given : Given) (name : String) : Bool :=
  given.any (·.1 = name)

end Given

def mayRepeat : Arity → Bool
  | .counter | .words => true
  | _ => false

def acceptsValue (arity : Arity) (value : String) : Bool :=
  match arity with
  | .path => !value.isEmpty
  | .message => (messageOf? value).isSome
  | _ => true

def takesValue : Arity → Bool
  | .flag | .counter => false
  | _ => true

def addOption (given : Given) (option : OptionSpec) (value : String) : Except Stop Given :=
  if (given.has option.name && !mayRepeat option.arity) || !acceptsValue option.arity value then
    .error .usage
  else .ok (given ++ [(option.name, value)])

def readLetters (hasVersion : Bool) (given : Given) : List Char → Except Stop Given
  | [] => .ok given
  | 'v' :: rest => readLetters hasVersion (given ++ [("verbose", "")]) rest
  | 'h' :: _ => .error .help
  | 'V' :: _ => .error (if hasVersion then .version else .usage)
  | _ => .error .usage

inductive Word
  | option (name : String) (value : Option String)
  | letters (letters : List Char)
  | separator
  | value (text : String)

def wordOf (argument : String) : Word :=
  match argument.toList with
  | ['-', '-'] => .separator
  | '-' :: '-' :: rest =>
    let name := String.ofList (rest.takeWhile (· ≠ '='))
    match rest.dropWhile (· ≠ '=') with
    | [] => .option name none
    | _ :: value => .option name (some (String.ofList value))
  | '-' :: c :: rest => .letters (c :: rest)
  | _ => .value argument

abbrev Tail := Option (String × List String)

/-- Reads options up to the first word that is none. Only a word can be the value of an option that
stands in front of it. -/
def readOptions (known : List OptionSpec) (hasVersion : Bool) (given : Given) :
    List String → Except Stop (Given × Tail)
  | [] => .ok (given, none)
  | argument :: rest =>
    match wordOf argument with
    | .value text => .ok (given, some (text, rest))
    | .separator =>
      match rest with
      | [] => .ok (given, none)
      | _ => .error .usage
    | .letters letters => do
      let given ← readLetters hasVersion given letters
      readOptions known hasVersion given rest
    | .option name attached =>
      if name = "help" ∧ attached = none then .error .help
      else if name = "version" ∧ attached = none ∧ hasVersion then .error .version
      else
        match known.find? (·.name = name), attached, rest with
        | none, _, _ => .error .usage
        | some option, some value, rest =>
          if takesValue option.arity then do
            let given ← addOption given option value
            readOptions known hasVersion given rest
          else .error .usage
        | some option, none, rest =>
          if takesValue option.arity then
            match rest with
            | [] => .error .usage
            | next :: rest =>
              match wordOf next with
              | .value value => do
                let given ← addOption given option value
                readOptions known hasVersion given rest
              | _ => .error .usage
          else do
            let given ← addOption given option ""
            readOptions known hasVersion given rest

def require (given : Given) (name : String) : Except Stop String :=
  match given.value? name with
  | some value => .ok value
  | none => .error .usage

def defaultScope : String :=
  "contract.negotiation"

def commandOf (given : Given) : CommandName → Except Stop Command
  | .evaluate => do
    let policy ← require given "policy"
    let participant ← require given "participant"
    return .evaluate policy participant ((given.value? "scope").getD defaultScope)
      (given.has "json")
  | .scopes => do
    let policy ← require given "policy"
    return .scopes policy ((given.value? "message").bind messageOf?)
  | .validate => return .validate (given.value? "definition") (given.values "did")

def helpFor (arguments : List String) : Stop :=
  match arguments with
  | [] => .help
  | [name] => if name = "help" ∨ (CommandName.ofName? name).isSome then .help else .usage
  | _ => .usage

/-- A configuration that is named behind the command counts more than one in front of it. -/
def parse (arguments : List String) : Except Stop Invocation := do
  let (outer, tail) ← readOptions globalOptions true [] arguments
  match tail with
  | none => throw .usage
  | some (word, rest) =>
    match CommandName.ofName? word with
    | none => throw (if word = "help" then helpFor rest else .usage)
    | some name =>
      let (inner, tail) ← readOptions (globalOptions ++ name.options) false [] rest
      if tail.isSome then throw .usage
      let command ← commandOf inner name
      return ⟨(inner.value? "config").or (outer.value? "config"), command⟩

instance : ArgumentParser :=
  ⟨parse⟩

end CredentialPolicy.CommandLine
