import ProfileControls.Account

/-!
# Sessions

Who looks at the profile, and what that viewer may administer. Permissions are a mask of 64 bits in
which no bit implies another: not even the administrator's flag grants what other flags stand for.
-/

namespace ProfileControls

/-- A mask of administrative permissions. -/
structure Permissions where
  bits : UInt64 := 0
deriving DecidableEq, Repr

namespace Permissions

/-- The mask with the single bit at position `i`. -/
def bit (i : UInt64) : Permissions :=
  ⟨1 <<< i⟩

/-- The mask that grants nothing. -/
def empty : Permissions := ⟨0⟩

/-- The right to moderate other servers. -/
def manageFederation : Permissions := bit 5

/-- The right to moderate accounts. -/
def manageUsers : Permissions := bit 10

/-- The named masks in the order of their bits, the empty one first. -/
def named : List (String × Permissions) :=
  [("NONE", empty), ("ADMINISTRATOR", bit 0), ("DEVOPS", bit 1), ("VIEW_AUDIT_LOG", bit 2),
    ("VIEW_DASHBOARD", bit 3), ("MANAGE_REPORTS", bit 4), ("MANAGE_FEDERATION", manageFederation),
    ("MANAGE_SETTINGS", bit 6), ("MANAGE_BLOCKS", bit 7), ("MANAGE_TAXONOMIES", bit 8),
    ("MANAGE_APPEALS", bit 9), ("MANAGE_USERS", manageUsers), ("MANAGE_INVITES", bit 11),
    ("MANAGE_RULES", bit 12), ("MANAGE_ANNOUNCEMENTS", bit 13), ("MANAGE_CUSTOM_EMOJIS", bit 14),
    ("MANAGE_WEBHOOKS", bit 15), ("INVITE_USERS", bit 16), ("MANAGE_ROLES", bit 17),
    ("MANAGE_USER_ACCESS", bit 18), ("DELETE_USER_DATA", bit 19), ("VIEW_FEEDS", bit 20)]

/-- The mask that a signed number stands for. Negative numbers grant nothing. -/
def ofInt (n : Int) : Permissions :=
  ⟨UInt64.ofNat n.toNat⟩

/-- Both masks together. -/
def union (p q : Permissions) : Permissions :=
  ⟨p.bits ||| q.bits⟩

/-- Every bit of `flag` is set. The empty mask is contained in none. -/
def contains (p flag : Permissions) : Bool :=
  flag.bits != 0 && p.bits &&& flag.bits == flag.bits

def isEmpty (p : Permissions) : Bool :=
  p.bits == 0

/-- The mask in hexadecimal digits. -/
def text (p : Permissions) : String :=
  "Permissions(0x" ++ String.ofList (Text.hexDigits p.bits.toNat) ++ ")"

end Permissions

/-- The viewer's session. A session that is signed out may still carry an identity. -/
structure Session where
  signedIn : Bool := false
  viewer : Option AccountId := none
  permissions : Permissions := {}
deriving DecidableEq, Repr

namespace Session

/-- The session of a viewer without an account. -/
def anonymous : Session := {}

/-- The session of a viewer without administrative permissions. -/
def ofViewer (viewer : AccountId) : Session where
  signedIn := true
  viewer := some viewer

/-- The viewer may do what `flag` stands for. Signed out, a viewer may do nothing. -/
def can (s : Session) (flag : Permissions) : Bool :=
  s.signedIn && s.permissions.contains flag

/-- The viewer is the account with this identifier. -/
def isViewer (s : Session) (id : AccountId) : Bool :=
  s.viewer == some id

end Session

end ProfileControls
