import ObservationQuery.CommandLine.Run

/-!
# The program

* `main` — reads the files and the environment, and prints the outcome of the request in the
  arguments.
-/

namespace ObservationQuery

/-- What is found under a path of the file system. -/
def findFile (path : String) : IO FileState := do
  try
    let bytes ← IO.FS.readBinFile path
    match String.fromUTF8? bytes with
    | some text => return .text text
    | none => return .unreadable
  catch
    | .noFileOrDirectory .. => return .missing
    | _ => return .unreadable

/-- The configuration directory of the user. -/
def userConfigDirectory : IO (Option String) := do
  match ← IO.getEnv "XDG_CONFIG_HOME" with
  | some directory => if directory.startsWith "/" then return some directory
  | none => pure ()
  return (← IO.getEnv "HOME").map (· ++ "/.config")

end ObservationQuery

open ObservationQuery in
/-- Answers the request in the arguments. -/
def main (arguments : List String) : IO UInt32 := do
  let chosen ← IO.getEnv "OBSQL_CONFIG"
  let outcome ← (Request.ofArguments arguments).answer findFile chosen (← userConfigDirectory)
  IO.print outcome.output
  match outcome with
  | .success _ => pure ()
  | .failure cause => IO.eprintln cause.message
  | .misuse => IO.eprint usageText
  return outcome.status.toUInt32
