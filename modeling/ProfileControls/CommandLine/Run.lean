import ProfileControls.CommandLine.Invocation

/-!
# Running an invocation

How the program ends for the words it is invoked with, the variables of its environment and the
files it finds.
-/

namespace ProfileControls.CommandLine

/-- The paths of all files that an invocation may read. -/
def Invocation.paths (i : Invocation) : List String :=
  [i.config, i.account] ++ i.relationship.toList ++ i.session.toList

/-- How a run of the program ends. -/
inductive Exit where
  | success (output : String)
  | failure (error : CommandError)
  | wrongArguments
deriving DecidableEq, Repr

/-- The number by which the system is told how the program ended. -/
def Exit.code : Exit → Nat
  | .success _ => 0
  | .failure _ => 1
  | .wrongArguments => 2

/-- What the program writes to its output. -/
def Exit.output : Exit → String
  | .success output => output ++ "\n"
  | _ => ""

/-- What an invocation shows in an environment and with the given files. -/
def Invocation.run (i : Invocation) (environment : List (String × String))
    (files : String → FileState) : Except CommandError String := do
  let file (path : String) : SourceFile := ⟨path, files path⟩
  let config ← Config.loadWithEnvironment (file i.config) environment
  i.view.render config {
    account := file i.account
    relationship := i.relationship.map file
    session := i.session.map file
    hidden := i.hidden }

/-- How the program ends when it is invoked with the given words. -/
def run (words : List String) (environment : List (String × String))
    (files : String → FileState) : Exit :=
  match parse? words with
  | none => .wrongArguments
  | some i =>
    match i.run environment files with
    | .ok output => .success output
    | .error e => .failure e

end ProfileControls.CommandLine
