import ProfileControls.Json.NumberLiteral
import ProfileControls.Json.TextLiteral
import ProfileControls.Text.Start

/-!
# JSON tokens

The lexical half of the JSON reader: blanks separate tokens and are dropped, and every other
character belongs to exactly one token.
-/

namespace ProfileControls.Json

/-- A token. The text of a string literal is absent when its escapes do not pair up. -/
inductive Token where
  | openArray
  | closeArray
  | openObject
  | closeObject
  | comma
  | colon
  | null
  | bool (b : Bool)
  | number (n : Number)
  | text (s : Option String)
deriving DecidableEq, Repr

/-- The four blanks that may stand between tokens. -/
def isSpace (c : Char) : Bool :=
  c == ' ' || c == '\t' || c == '\n' || c == '\r'

/-- The token that begins with the character `c`, and what follows it. -/
def scanToken (c : Char) (s : List Char) : Option (Token × List Char) :=
  match c with
  | '[' => some (.openArray, s)
  | ']' => some (.closeArray, s)
  | '\x7b' => some (.openObject, s)
  | '\x7d' => some (.closeObject, s)
  | ',' => some (.comma, s)
  | ':' => some (.colon, s)
  | 'n' => (Text.dropStart? ['u', 'l', 'l'] s).map (Token.null, ·)
  | 't' => (Text.dropStart? ['r', 'u', 'e'] s).map (Token.bool true, ·)
  | 'f' => (Text.dropStart? ['a', 'l', 's', 'e'] s).map (Token.bool false, ·)
  | '"' => (scanText s).map fun (pieces, s) => (.text ((joinPieces pieces).map String.ofList), s)
  | '-' => (scanUnsigned true s).map fun (n, s) => (.number n, s)
  | c => if c.isDigit then (scanUnsigned false (c :: s)).map fun (n, s) => (.number n, s) else none

/-- What is left after a token is no longer than what came after its first character. -/
theorem length_scanToken {c : Char} {s rest : List Char} {t : Token}
    (h : scanToken c s = some (t, rest)) : rest.length ≤ s.length := by
  unfold scanToken at h
  split at h
  iterate 6 simp_all
  iterate 3
    · simp only [Option.map_eq_some_iff, Prod.mk.injEq] at h
      obtain ⟨_, h, _, rfl⟩ := h
      simp only [Text.dropStart?_eq_some_iff.1 h, List.length_append]
      omega
  · simp only [Option.map_eq_some_iff, Prod.mk.injEq, Prod.exists] at h
    obtain ⟨_, _, h, _, rfl⟩ := h
    exact Nat.le_of_lt (length_scanText h)
  · simp only [Option.map_eq_some_iff, Prod.mk.injEq, Prod.exists] at h
    obtain ⟨_, _, h, _, rfl⟩ := h
    exact Nat.le_of_lt (length_scanUnsigned h)
  · split at h
    · simp only [Option.map_eq_some_iff, Prod.mk.injEq, Prod.exists] at h
      obtain ⟨_, _, h, _, rfl⟩ := h
      have := length_scanUnsigned h
      simp only [List.length_cons] at this
      omega
    · simp at h

/-- The tokens of a text. -/
def tokens? (s : List Char) : Option (List Token) :=
  match s with
  | [] => some []
  | c :: s =>
    if isSpace c then tokens? s
    else
      match _h : scanToken c s with
      | none => none
      | some (t, rest) => (tokens? rest).map (t :: ·)
termination_by s.length
decreasing_by
  · simp
  · have := length_scanToken _h
    simp only [List.length_cons]
    omega

end ProfileControls.Json
