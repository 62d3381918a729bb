/-!
# Options of the command line

The options by their long names and letters, and where each of them may stand.
-/

namespace ProfileControls.CommandLine

/-- The options. -/
inductive Opt where
  | verbose
  | config
  | account
  | relationship
  | session
  | hidden
  | defaultAction
deriving DecidableEq, Repr

namespace Opt

/-- The long name of the option. -/
def name : Opt → String
  | .verbose => "verbose"
  | .config => "config"
  | .account => "account"
  | .relationship => "relationship"
  | .session => "session"
  | .hidden => "hidden"
  | .defaultAction => "default-action"

/-- The letter of the option. -/
def letter : Opt → Option Char
  | .verbose => some 'v'
  | .config => some 'c'
  | _ => none

/-- The option goes with a value. -/
def takesValue : Opt → Bool
  | .verbose | .hidden => false
  | _ => true

/-- The options that stand before the name of the command, too. -/
def everywhere : List Opt :=
  [.verbose, .config]

/-- The options of the command that decides a whole profile. -/
def ofDecide : List Opt :=
  everywhere ++ [.account, .relationship, .session, .hidden]

/-- The options of the command that decides a row. -/
def ofRow : List Opt :=
  ofDecide ++ [.defaultAction]

end Opt

end ProfileControls.CommandLine
