import ProfileControls.CommandLine.Run

/-!
# The program

Reads the files that an invocation names and the variables that override its configuration, and
leaves everything else to `CommandLine.run`.
-/

namespace ProfileControls

/-- What is found under a path. -/
def findFile (path : String) : IO FileState := do
  try
    let bytes ← IO.FS.readBinFile path
    match String.fromUTF8? bytes with
    | some content => return .text content
    | none => return .unreadable
  catch
    | .noFileOrDirectory .. => return .missing
    -- the path leads through something that is no directory
    | .inappropriateType (some _) .. => return .missing
    | _ => return .unreadable

/-- The variables that override settings, as far as they are set. -/
def environment : IO (List (String × String)) :=
  [Config.localDomainVariable, Config.adminPathPrefixVariable].filterMapM fun name => do
    return (← IO.getEnv name).map (name, ·)

end ProfileControls

open ProfileControls in
/-- Run the program on the words of its invocation. -/
def main (words : List String) : IO UInt32 := do
  let paths := ((CommandLine.parse? words).map (·.paths)).getD []
  let found ← paths.mapM fun path => return (path, ← findFile path)
  let exit := CommandLine.run words (← environment) fun path => (found.lookup path).getD .missing
  IO.print exit.output
  match exit with
  | .success _ => pure ()
  | .failure e => IO.eprintln ("Error: " ++ e.message)
  | .wrongArguments =>
    IO.eprintln ("usage: [-v] [-c FILE] (decide | row) --account FILE [--relationship FILE] " ++
      "[--session FILE] [--hidden] [--default-action follow|mute|block]")
  return exit.code.toUInt32
