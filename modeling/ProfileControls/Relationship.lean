/-!
# Relationships

What stands between a viewer and the account that the viewer looks at. `Ties` are the twelve
directed flags that decisions are made from; a `Relationship` is the stored record, which adds the
viewer's private note. A relationship that has not been fetched is `none`, and that is not the
same as a record in which every flag is cleared.
-/

namespace ProfileControls

/-- The flags between a viewer and a subject. -/
structure Ties where
  /-- the viewer follows the subject -/
  following : Bool := false
  /-- the viewer's follow request waits for approval -/
  requested : Bool := false
  /-- the subject follows the viewer -/
  followedBy : Bool := false
  /-- the subject's follow request waits for the viewer's approval -/
  requestedBy : Bool := false
  /-- the viewer blocks the subject -/
  blocking : Bool := false
  /-- the subject blocks the viewer -/
  blockedBy : Bool := false
  /-- the viewer mutes the subject -/
  muting : Bool := false
  /-- the mute covers notifications too -/
  mutingNotifications : Bool := false
  /-- the viewer blocks the whole domain of the subject -/
  domainBlocking : Bool := false
  /-- the subject's boosts appear in the viewer's home feed -/
  showingReblogs : Bool := false
  /-- the viewer is notified of the subject's posts -/
  notifying : Bool := false
  /-- the viewer features the subject on the own profile -/
  endorsed : Bool := false
deriving DecidableEq, Repr

/-- The two follow each other, or will once the viewer's request is granted. -/
def Ties.mutual (t : Ties) : Bool :=
  t.followedBy && (t.following || t.requested)

/-- The stored record of a viewer and a subject. -/
structure Relationship extends Ties where
  /-- the viewer's private note on the subject -/
  note : String := ""
deriving DecidableEq, Repr

namespace Relationship

/-- The record of two accounts that have nothing to do with each other. -/
def unrelated : Relationship := {}

/-- The record of a viewer who follows the subject and sees its boosts. -/
def ofFollower : Relationship :=
  { following := true, showingReblogs := true }

end Relationship

end ProfileControls
