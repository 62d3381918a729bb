/-!
# Lines of TOML

Blanks, comments and ends of lines. What is skipped is never asked for again, so these functions
give back only what follows.
-/

namespace ProfileControls.Toml

/-- A reader of the front of a row of characters. -/
abbrev Scan (α : Type) := List Char → Option (α × List Char)

/-- A blank inside a line. -/
def isBlank (c : Char) : Bool :=
  c == ' ' || c == '\t'

/-- A character that comments and strings may hold as it is. -/
def isPlain (c : Char) : Bool :=
  c == '\t' || (0x20 ≤ c.toNat && c.toNat ≤ 0x7E) || 0x80 ≤ c.toNat

/-- What follows the end of a line, if a line ends here. -/
def newline? : List Char → Option (List Char)
  | '\n' :: s => some s
  | '\r' :: '\n' :: s => some s
  | _ => none

/-- What follows the blanks of a line. -/
def skipBlanks (s : List Char) : List Char :=
  s.dropWhile isBlank

/-- What follows a comment, if one begins here. -/
def skipComment : List Char → List Char
  | '#' :: s => s.dropWhile isPlain
  | s => s

/-- What follows the rest of a line: blanks, perhaps a comment, and the end of line or text. -/
def endLine? (s : List Char) : Option (List Char) :=
  match skipComment (skipBlanks s) with
  | [] => some []
  | s => newline? s

/-- What follows all blanks, ends of lines and comments. A comment must not hold controls. -/
def skipLines (inComment : Bool) : List Char → List Char
  | '\n' :: s => skipLines false s
  | '\r' :: '\n' :: s => skipLines false s
  | c :: s =>
    if inComment && isPlain c then skipLines true s
    else if isBlank c then skipLines inComment s
    else if c == '#' then skipLines true s
    else c :: s
  | [] => []

end ProfileControls.Toml
