import ProfileControls.Visibility

/-!
# Relationship tags

The short labels beside the name of a profile: at most one for the direction in which the two
follow each other, then one for each of block, mute and domain block.
-/

namespace ProfileControls

/-- A label for a known relationship. -/
inductive Tag where
  | mutual
  | followsYou
  | requestsToFollowYou
  | blocking
  | muting
  | domainBlocking
deriving DecidableEq, Repr

namespace Tag

/-- The name of the tag in records. -/
def name : Tag → String
  | .mutual => "mutual"
  | .followsYou => "follows_you"
  | .requestsToFollowYou => "requests_to_follow_you"
  | .blocking => "blocking"
  | .muting => "muting"
  | .domainBlocking => "domain_blocking"

/-- The message id of the label. -/
def label : Tag → String
  | .mutual => "account.mutual"
  | .followsYou => "account.follows_you"
  | .requestsToFollowYou => "account.requests_to_follow_you"
  | .blocking => "account.blocking"
  | .muting => "account.muting"
  | .domainBlocking => "account.domain_blocking"

/-- The tags for known ties. -/
def ofTies (t : Ties) : List Tag :=
  (if t.mutual then [.mutual]
    else if t.followedBy then [.followsYou]
    else if t.requestedBy then [.requestsToFollowYou]
    else []) ++
  (if t.blocking then [.blocking] else []) ++
  (if t.muting then [.muting] else []) ++
  (if t.domainBlocking then [.domainBlocking] else [])

/-- The tags of a profile. -/
def resolve (s : Standing) (v : Visibility) : List Tag :=
  if s.isSelf || v.concealsRelationship then []
  else (s.ties.map ofTies).getD []

end Tag

end ProfileControls
