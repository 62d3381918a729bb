import ProfileControls.Record.Input
import ProfileControls.Toml.Document

/-!
# Configuration files

A configuration file is a TOML document in which the two settings stand at the top, as strings.
Either may be missing, and anything else in the document is ignored.
-/

namespace ProfileControls.Config

/-- The string under a key of a table, or the default if there is no such key. -/
def entry? (t : Toml.Entries) (key default : String) : Option String :=
  match t.lookup key with
  | none => some default
  | some (.text s) => some s
  | some _ => none

/-- The settings that a document writes. -/
def ofToml? (text : String) : Option Config := do
  let t ← Toml.parse? text
  let standard : Config := {}
  let localDomain ← entry? t "local_domain" standard.localDomain
  let adminPathPrefix ← entry? t "admin_path_prefix" standard.adminPathPrefix
  some { localDomain, adminPathPrefix }

end ProfileControls.Config
