import CredentialPolicy.Request

namespace CredentialPolicy.CommandLine

inductive Command
  | evaluate (policy participant scope : String) (json : Bool)
  | scopes (policy : String) (message : Option MessageKind)
  | validate (definition : Option String) (dids : List String)
deriving DecidableEq, Repr

structure Invocation where
  config : Option String
  command : Command
deriving DecidableEq, Repr

inductive Stop
  | version
  | help
  | usage
deriving DecidableEq, Repr

class ArgumentParser where
  parse : List String → Except Stop Invocation

end CredentialPolicy.CommandLine
