import ProfileControls.Standing

/-!
# Visibility

What a profile withholds. A profile is redacted when its subject is suspended, is hidden from the
viewer, or has moved without being followed. The first two reasons also conceal the relationship:
no control may then let it be inferred.
-/

namespace ProfileControls

/-- Why a profile is redacted. -/
structure RedactionReasons where
  suspended : Bool := false
  hidden : Bool := false
  moved : Bool := false
deriving DecidableEq, Repr

/-- Some reason applies. -/
def RedactionReasons.any (r : RedactionReasons) : Bool :=
  r.suspended || r.hidden || r.moved

/-- What the profile withholds from the viewer. -/
structure Visibility where
  redacted : Bool := false
  reasons : RedactionReasons := {}
  /-- the timeline shows its empty state -/
  emptyTimeline : Bool := false
deriving DecidableEq, Repr

/-- No control may let the relationship be inferred. -/
def Visibility.concealsRelationship (v : Visibility) : Bool :=
  v.reasons.suspended || v.reasons.hidden

namespace Standing

/-- Why the profile of a subject with this standing is redacted. -/
def redactionReasons (s : Standing) : RedactionReasons where
  suspended := s.lifecycle.isSuspended
  hidden := s.hidden
  moved := s.lifecycle.movedTo.isSome && !s.isFollowing

/-- What the profile of a subject with this standing withholds. -/
def visibility (s : Standing) : Visibility where
  redacted := s.redactionReasons.any
  reasons := s.redactionReasons
  emptyTimeline :=
    s.redactionReasons.suspended || s.redactionReasons.hidden || s.ties.any (·.blockedBy)

/--
The flags that controls may be made from: none for a viewer who is signed out or is the subject,
none while the relationship is concealed or unknown.
-/
def actionableTies (s : Standing) (v : Visibility) (session : Session) : Option Ties :=
  if !session.signedIn || s.isSelf || v.concealsRelationship then none else s.ties

end Standing

end ProfileControls
