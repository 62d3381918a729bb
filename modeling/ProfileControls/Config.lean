import ProfileControls.Handle

/-!
# Configuration of a server

The two settings that decisions depend on: the domain of the viewer's server, which tells local
accounts from remote ones, and the path under which its moderation pages are found. Variables of
the environment override single settings; the result as a whole is then validated.
-/

namespace ProfileControls

/-- The settings of the viewer's server. -/
structure Config where
  localDomain : String := "localhost"
  adminPathPrefix : String := "/admin"
deriving DecidableEq, Repr

/-- Why a configuration cannot be used. -/
inductive ConfigFault where
  | localDomain (fault : DomainFault)
  | adminPathPrefix
deriving DecidableEq, Repr

/-- The message that names the setting and what is wrong with it. -/
def ConfigFault.message : ConfigFault → String
  | .localDomain fault => "configuration error: local_domain: " ++ fault.reason
  | .adminPathPrefix => "configuration error: admin_path_prefix must start with '/'"

namespace Config

/-- The settings of a server with the given domain and the usual moderation path. -/
def ofDomain (domain : String) : Config where
  localDomain := domain

/-- The variable of the environment that overrides the local domain. -/
def localDomainVariable : String := "ROOST_LOCAL_DOMAIN"

/-- The variable of the environment that overrides the moderation path. -/
def adminPathPrefixVariable : String := "ROOST_ADMIN_PATH_PREFIX"

/-- The settings after one variable. Variables of other names change nothing. -/
def override (c : Config) (assignment : String × String) : Config :=
  if assignment.1 = localDomainVariable then { c with localDomain := assignment.2 }
  else if assignment.1 = adminPathPrefixVariable then { c with adminPathPrefix := assignment.2 }
  else c

/-- The settings after a list of variables, of which later ones win. -/
def overrideAll (c : Config) (assignments : List (String × String)) : Config :=
  assignments.foldl override c

/-- What is wrong with the settings, if anything. -/
def fault? (c : Config) : Option ConfigFault :=
  match Domain.fault? c.localDomain.toList with
  | some fault => some (.localDomain fault)
  | none => if c.adminPathPrefix.toList.head? = some '/' then none else some .adminPathPrefix

/-- The moderation path without the slashes at its end. -/
def adminPath (c : Config) : String :=
  String.ofList (c.adminPathPrefix.toList.reverse.dropWhile (· == '/')).reverse

end Config

end ProfileControls
