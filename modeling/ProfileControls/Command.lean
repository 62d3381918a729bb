import ProfileControls.Json.Printer
import ProfileControls.Json.Reader
import ProfileControls.Record.Answer
import ProfileControls.Record.ConfigFile

/-!
# Commands over files

Loading a configuration and an input from files, and answering in JSON. Files come as what was
found under their path, so that everything here is a function. The first file that fails decides
the error, whatever the later ones hold.
-/

namespace ProfileControls

/-- What was found under the path of a file. -/
inductive FileState where
  | missing
  /-- there is something, but no text in UTF-8 can be read from it -/
  | unreadable
  | text (content : String)
deriving DecidableEq, Repr

/-- A file: its path, and what was found there. -/
structure SourceFile where
  path : String
  state : FileState
deriving DecidableEq, Repr

/-- Why loading a configuration fails by itself. -/
inductive LoadFault where
  | io
  | parse
deriving DecidableEq, Repr

/-- Why a command fails. -/
inductive CommandError where
  | config (path : String) (fault : LoadFault)
  | invalidConfig (fault : ConfigFault)
  | read (path : String)
  | parse (path : String)
deriving DecidableEq, Repr

/-- The message that names the file at fault. -/
def CommandError.message : CommandError → String
  | .config path _ => "failed to load config " ++ path
  | .invalidConfig _ => "invalid configuration"
  | .read path => "failed to read " ++ path
  | .parse path => "failed to parse " ++ path

namespace Config

/-- The settings in a file that has to be there. -/
def load : FileState → Except LoadFault Config
  | .missing | .unreadable => .error .io
  | .text content =>
    match ofToml? content with
    | none => .error .parse
    | some c => .ok c

/-- The settings in a file, or the standard ones if there is no file. -/
def loadOrStandard (file : SourceFile) : Except CommandError Config :=
  match file.state with
  | .missing => .ok {}
  | state => (load state).mapError (.config file.path)

/-- The settings in a file after the environment has overridden them, if the result is valid. -/
def loadWithEnvironment (file : SourceFile) (environment : List (String × String)) :
    Except CommandError Config := do
  let c := (← loadOrStandard file).overrideAll environment
  match c.fault? with
  | some fault => .error (.invalidConfig fault)
  | none => .ok c

end Config

/-- The record that a JSON file holds. -/
def SourceFile.record {α : Type} (file : SourceFile) (read : Json.Value → Option α) :
    Except CommandError α :=
  match file.state with
  | .missing | .unreadable => .error (.read file.path)
  | .text content =>
    match Json.parse? content >>= read with
    | none => .error (.parse file.path)
    | some a => .ok a

/-- The files of an input. A relationship that no file is given for is unknown. -/
structure InputFiles where
  account : SourceFile
  relationship : Option SourceFile := none
  session : Option SourceFile := none
  hidden : Bool := false
deriving DecidableEq, Repr

/-- The input that the files hold. -/
def InputFiles.load (files : InputFiles) : Except CommandError ProfileInput := do
  let account ← files.account.record Account.ofJson?
  let relationship ← files.relationship.mapM (·.record Relationship.ofJson?)
  let session ← files.session.mapM (·.record Session.ofJson?)
  .ok { account, relationship, session := session.getD .anonymous, hidden := files.hidden }

/-- What a command shows. -/
inductive View where
  | decision
  | row (default : RowDefault)
deriving DecidableEq, Repr

/-- The record of what a view shows of an input. -/
def View.answer (view : View) (config : Config) (input : ProfileInput) : Json.Value :=
  match view with
  | .decision => (input.decide config).toJson
  | .row default => (input.row default).toJson

/-- What a view shows of the files, as JSON with one member per line. -/
def View.render (view : View) (config : Config) (files : InputFiles) :
    Except CommandError String := do
  let input ← files.load
  .ok ((view.answer config input).text .pretty)

end ProfileControls
