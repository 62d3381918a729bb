import ProfileControls.Text.Digits
import ProfileControls.Toml.Line

/-!
# Strings of TOML

The four kinds of strings: in double quotes with escapes or in single quotes without, each on one
line or, with tripled quotes, over several. Every reader begins behind the opening quotes.
-/

namespace ProfileControls.Toml

/-- The character with the given code point, if there is one. -/
def scalar? (n : Nat) : Option Char :=
  if n < 0xD800 ∨ (0xE000 ≤ n ∧ n < 0x110000) then some (Char.ofNat n) else none

/-- The character that a backslash and one letter stand for. -/
def escape? : Char → Option Char
  | '"' => some '"'
  | '\\' => some '\\'
  | 'b' => some '\x08'
  | 'f' => some '\x0c'
  | 'n' => some '\n'
  | 'r' => some '\r'
  | 't' => some '\t'
  | _ => none

/-- The result with one more character in front. -/
def andThen (c : Char) : Option (List Char × List Char) → Option (List Char × List Char) :=
  Option.map fun (cs, s) => (c :: cs, s)

/-- A string in double quotes, from behind the first of them. -/
def basicText : Scan (List Char)
  | '"' :: s => some ([], s)
  | '\\' :: 'u' :: a :: b :: c :: d :: s => do
    let x ← Text.hexNumber? [a, b, c, d] >>= scalar?
    andThen x (basicText s)
  | '\\' :: 'U' :: a :: b :: c :: d :: e :: f :: g :: h :: s => do
    let x ← Text.hexNumber? [a, b, c, d, e, f, g, h] >>= scalar?
    andThen x (basicText s)
  | '\\' :: e :: s => do
    let x ← escape? e
    andThen x (basicText s)
  | c :: s => if c != '\\' && isPlain c then andThen c (basicText s) else none
  | [] => none

/-- A string in single quotes, from behind the first of them. -/
def literalText : Scan (List Char)
  | '\'' :: s => some ([], s)
  | c :: s => if isPlain c then andThen c (literalText s) else none
  | [] => none

/--
The quotes that still belong to a string of several lines when three or more of them end it, and
what follows. Up to two of them may belong to it.
-/
def closing? (quote : Char) (s : List Char) : Option (List Char × List Char) :=
  let run := (s.takeWhile (· == quote)).length
  if 3 ≤ run ∧ run ≤ 5 then some (List.replicate (run - 3) quote, s.drop run) else none

/-- The blanks that follow end the line. -/
def endsLine (s : List Char) : Bool :=
  (newline? (skipBlanks s)).isSome

/--
A string of several lines in double quotes, from behind its opening quotes. A backslash at the end
of a line drops all blanks and ends of lines that follow, during which `trimming` holds.
-/
def basicLines (trimming : Bool) : Scan (List Char)
  | '\r' :: '\n' :: s => if trimming then basicLines true s else andThen '\n' (basicLines false s)
  | '\n' :: s => if trimming then basicLines true s else andThen '\n' (basicLines false s)
  | '"' :: '"' :: '"' :: s => closing? '"' ('"' :: '"' :: '"' :: s)
  | '\\' :: 'u' :: a :: b :: c :: d :: s => do
    let x ← Text.hexNumber? [a, b, c, d] >>= scalar?
    andThen x (basicLines false s)
  | '\\' :: 'U' :: a :: b :: c :: d :: e :: f :: g :: h :: s => do
    let x ← Text.hexNumber? [a, b, c, d, e, f, g, h] >>= scalar?
    andThen x (basicLines false s)
  | '\\' :: e :: s =>
    if endsLine (e :: s) then basicLines true (e :: s)
    else do
      let x ← escape? e
      andThen x (basicLines false s)
  | c :: s =>
    if trimming && isBlank c then basicLines true s
    else if c != '\\' && isPlain c then andThen c (basicLines false s)
    else none
  | [] => none

/-- A string of several lines in single quotes, from behind its opening quotes. -/
def literalLines : Scan (List Char)
  | '\r' :: '\n' :: s => andThen '\n' (literalLines s)
  | '\n' :: s => andThen '\n' (literalLines s)
  | '\'' :: '\'' :: '\'' :: s => closing? '\'' ('\'' :: '\'' :: '\'' :: s)
  | c :: s => if isPlain c then andThen c (literalLines s) else none
  | [] => none

/-- The text without an end of line at its very beginning. -/
def skipNewline (s : List Char) : List Char :=
  (newline? s).getD s

/-- A string of any kind. -/
def text? : Scan String
  | '"' :: '"' :: '"' :: s => (basicLines false (skipNewline s)).map (·.map String.ofList id)
  | '"' :: s => (basicText s).map (·.map String.ofList id)
  | '\'' :: '\'' :: '\'' :: s => (literalLines (skipNewline s)).map (·.map String.ofList id)
  | '\'' :: s => (literalText s).map (·.map String.ofList id)
  | _ => none

end ProfileControls.Toml
