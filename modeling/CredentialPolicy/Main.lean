import CredentialPolicy.CommandLine

namespace CredentialPolicy.CommandLine

def readText? (path : String) : IO (Option String) := do
  try
    return String.fromUTF8? (← IO.FS.readBinFile path)
  catch _ =>
    return none

def lookAround (arguments : List String) : IO Surroundings := do
  let files ← (namedFiles arguments).mapM fun path => do
    return (path, ← readText? path)
  let overrides ← Configuration.overrideKeys.mapM fun key => do
    return (key, ← IO.getEnv key)
  return ⟨fun path => (files.lookup path).join, fun key => (overrides.lookup key).join⟩

end CredentialPolicy.CommandLine

open CredentialPolicy.CommandLine in
def main (arguments : List String) : IO UInt32 := do
  let outcome := run (← lookAround arguments) arguments
  IO.print outcome.output
  match outcome.complaint with
  | some text => IO.eprintln text
  | none => pure ()
  return outcome.exitCode.toUInt32
