import ProfileControls.Config
import ProfileControls.Relationship
import ProfileControls.Session

/-!
# Standing

How a subject stands to its viewer: the one digest of account, relationship, session and
configuration from which all controls are decided. Building it never fails. A handle that cannot be
used makes the subject remote without a domain, and a relationship that has not been fetched stays
unknown.
-/

namespace ProfileControls

/-- Where the subject lives as seen from the viewer's server. -/
inductive Origin where
  | local
  /-- on another server; the domain is missing when the subject's handle is none -/
  | remote (domain : Option String)
deriving DecidableEq, Repr

namespace Origin

def isRemote : Origin → Bool
  | .local => false
  | .remote _ => true

/-- The domain of a remote subject whose handle can be used. -/
def domain : Origin → Option String
  | .local => none
  | .remote domain => domain

/-- Where an account lives as seen from the server with the given domain. -/
def ofAccount (a : Account) (localDomain : String) : Origin :=
  if a.hasDomainPart then
    match a.handle with
    | .ok h => if h.isRemoteFor localDomain then .remote h.domain else .local
    | .error _ => .remote none
  else .local

end Origin

/-- How a subject stands to its viewer. -/
structure Standing where
  /-- the viewer looks at the own profile -/
  isSelf : Bool
  origin : Origin
  lifecycle : Lifecycle
  /-- the flags between the two, if the relationship is known -/
  ties : Option Ties
  /-- the caller wants the subject hidden from the viewer -/
  hidden : Bool
deriving DecidableEq, Repr

namespace Standing

/-- The viewer is known to follow the subject. -/
def isFollowing (s : Standing) : Bool :=
  s.ties.any (·.following)

/-- The standing that account, relationship, session and configuration amount to. -/
def of (account : Account) (relationship : Option Relationship) (session : Session)
    (config : Config) (hidden : Bool) : Standing where
  isSelf := session.isViewer account.id
  origin := .ofAccount account config.localDomain
  lifecycle := account.lifecycle
  ties := relationship.map (·.toTies)
  hidden := hidden

end Standing

end ProfileControls
