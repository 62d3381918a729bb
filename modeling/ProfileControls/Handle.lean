import ProfileControls.Text.AsciiCase
import ProfileControls.Text.Blank
import ProfileControls.Text.Quoted

/-!
# Handles

A handle is a username, alone or followed by `@` and the domain of its home server. The first `@`
ends the username; the domain that follows must itself be usable as a link target. `Handle.parse`
reports the first rule that a text violates.
-/

namespace ProfileControls

/-- Why a text is no domain. -/
inductive DomainFault where
  | empty
  | outerDot
  | illegalCharacter
deriving DecidableEq, Repr

/-- The wording of the fault. -/
def DomainFault.reason : DomainFault → String
  | .empty => "empty domain"
  | .outerDot => "domain starts or ends with a dot"
  | .illegalCharacter => "illegal character in domain"

namespace Domain

/-- The characters that a domain must not contain: blanks, and what would end it inside a link. -/
def isIllegal (c : Char) : Bool :=
  Text.isBlank c || c == '/' || c == '@' || c == '?' || c == '#'

/-- The first rule that the characters of a would-be domain violate, if any. -/
def fault? (cs : List Char) : Option DomainFault :=
  if cs.isEmpty then some .empty
  else if cs.head? = some '.' || cs.getLast? = some '.' then some .outerDot
  else if cs.any isIllegal then some .illegalCharacter
  else none

end Domain

/-- A username with, for an account of another server, the domain of that server. -/
structure Handle where
  username : String
  domain : Option String
deriving DecidableEq, Repr

/-- Why a text is no handle. -/
inductive HandleFault where
  | emptyUsername
  | blankInUsername
  | domain (fault : DomainFault)
deriving DecidableEq, Repr

/-- The wording of the fault. -/
def HandleFault.reason : HandleFault → String
  | .emptyUsername => "empty username"
  | .blankInUsername => "whitespace in username"
  | .domain fault => fault.reason

/-- A text that is no handle, and the first rule that it violates. -/
structure InvalidHandle where
  text : String
  fault : HandleFault
deriving DecidableEq, Repr

/-- The message that names the text and the rule. -/
def InvalidHandle.message (e : InvalidHandle) : String :=
  "invalid acct " ++ Text.quoted e.text ++ ": " ++ e.fault.reason

namespace Handle

/-- What stands before the first `@` and, if there is one, what follows it. -/
def split (cs : List Char) : List Char × Option (List Char) :=
  match cs.dropWhile (· != '@') with
  | [] => (cs, none)
  | _ :: rest => (cs.takeWhile (· != '@'), some rest)

/-- The first rule that the two parts of a would-be handle violate, if any. -/
def fault? (username : List Char) (domain : Option (List Char)) : Option HandleFault :=
  if username.isEmpty then some .emptyUsername
  else if username.any Text.isBlank then some .blankInUsername
  else (domain.bind Domain.fault?).map .domain

/-- The handle that a text writes, or the first rule that the text violates. -/
def parse (text : String) : Except InvalidHandle Handle :=
  let (username, domain) := split text.toList
  match fault? username domain with
  | some fault => .error ⟨text, fault⟩
  | none => .ok ⟨String.ofList username, domain.map String.ofList⟩

/-- The handle belongs to a server other than `localDomain`. -/
def isRemoteFor (h : Handle) (localDomain : String) : Bool :=
  match h.domain with
  | none => false
  | some domain => !Text.sameUpToCase domain localDomain

/-- The handle written with its domain, that of the local server if it has none of its own. -/
def qualified (h : Handle) (localDomain : String) : String :=
  h.username ++ "@" ++ h.domain.getD localDomain

/-- The text of the handle. -/
def text (h : Handle) : String :=
  match h.domain with
  | none => h.username
  | some domain => h.username ++ "@" ++ domain

end Handle

end ProfileControls
