import ProfileControls.Visibility

/-!
# The profile header

Which parts of a profile's header are shown, and the title of its page. Hiding takes away the most;
a suspension or a move that makes the profile redacted takes away what could reveal the subject or
the relationship.
-/

namespace ProfileControls

/-- The badge below the name. -/
inductive Badge where
  | bot
  | group
deriving DecidableEq, Repr

/-- The badge of an account. Bots are marked as such even if they act for a group. -/
def Badge.ofAccount (a : Account) : Option Badge :=
  if a.bot then some .bot else if a.group then some .group else none

/-- What search engines are told about the page. -/
inductive Robots where
  | index
  | noIndex
deriving DecidableEq, Repr

namespace Robots

/-- The content of the page's meta tag. -/
def content : Robots → String
  | .index => "all"
  | .noIndex => "noindex"

/-- Search engines are welcome on pages of local accounts that do not object. -/
def ofAccount (a : Account) : Robots :=
  if !a.hasDomainPart && !a.noindex then .index else .noIndex

end Robots

/-- What a profile's header shows. -/
structure Header where
  showMedia : Bool
  showMovedNotice : Bool
  showMemorialNotice : Bool
  showFollowRequestNote : Bool
  showFamiliarFollowers : Bool
  showAccountNote : Bool
  showBio : Bool
  showTabs : Bool
  showMenu : Bool
  showControls : Bool
  locked : Bool
  badge : Option Badge
  robots : Robots
  pageTitle : String
deriving DecidableEq, Repr

namespace Header

/-- The title of the page: the display name, or the username if that is blank, and the handle. -/
def title (a : Account) (config : Config) : String :=
  let shown := Text.trim a.displayName
  let name := if shown = "" then a.username else shown
  if a.hasDomainPart then name ++ " (@" ++ a.handleText ++ ")"
  else name ++ " (@" ++ a.handleText ++ "@" ++ config.localDomain ++ ")"

/-- The header of a profile. -/
def resolve (account : Account) (s : Standing) (v : Visibility) (session : Session)
    (config : Config) : Header :=
  let hidden := v.reasons.hidden
  let concealed := v.concealsRelationship
  let engaged := session.signedIn && !s.isSelf && !concealed
  { showMedia := !v.redacted
    showMovedNotice := s.lifecycle.movedTo.isSome && !hidden
    showMemorialNotice := account.memorial && !hidden
    showFollowRequestNote := s.ties.any (·.requestedBy) && !s.isSelf && !v.redacted
    showFamiliarFollowers := engaged
    showAccountNote := engaged
    showBio := !concealed
    showTabs := !hidden
    showMenu := !s.isSelf
    showControls := !hidden
    locked := account.locked
    badge := Badge.ofAccount account
    robots := Robots.ofAccount account
    pageTitle := title account config }

end Header

end ProfileControls
