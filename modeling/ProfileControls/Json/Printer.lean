import ProfileControls.Json.Value

/-!
# Printing JSON

One printer serves two layouts: `compact`, on a single line, and `pretty`, with one item or member
per line, two spaces of indentation per level and a space behind each colon. Empty arrays and
objects are closed at once in both. What the reader cannot make a text of is printed as a literal
that it cannot make a text of.
-/

namespace ProfileControls.Json

/-- Where a layout breaks lines, by depth, and how it writes the colon behind a key. -/
structure Layout where
  lineBreak : Nat → List Char
  colon : List Char

/-- Everything on one line, without blanks. -/
def Layout.compact : Layout :=
  ⟨fun _ => [], [':']⟩

/-- One item or member per line, indented by two spaces per level. -/
def Layout.pretty : Layout :=
  ⟨fun depth => '\n' :: List.replicate (2 * depth) ' ', [':', ' ']⟩

/-- What a string literal writes for one character. -/
def escapedChar (c : Char) : List Char :=
  match c with
  | '"' => ['\\', '"']
  | '\\' => ['\\', '\\']
  | '\x08' => ['\\', 'b']
  | '\x0c' => ['\\', 'f']
  | '\n' => ['\\', 'n']
  | '\r' => ['\\', 'r']
  | '\t' => ['\\', 't']
  | c =>
    if c.toNat < 0x20 then
      ['\\', 'u', '0', '0', Nat.digitChar (c.toNat / 16), Nat.digitChar (c.toNat % 16)]
    else [c]

/-- The string literal of a text. -/
def textLiteral (s : String) : List Char :=
  '"' :: (s.toList.flatMap escapedChar ++ ['"'])

/-- A number, its digits first and then the power of ten, if any. -/
def Number.text (n : Number) : List Char :=
  (if n.negative then ['-'] else []) ++ Nat.toDigits 10 n.coefficient ++
    match n.exponent with
    | none => []
    | some (.ofNat e) => 'e' :: Nat.toDigits 10 e
    | some (.negSucc e) => 'e' :: '-' :: Nat.toDigits 10 (e + 1)

namespace Value

mutual

/-- The characters of a value that begins at the given depth. -/
def characters (layout : Layout) (depth : Nat) : Value → List Char
  | .null => ['n', 'u', 'l', 'l']
  | .bool true => ['t', 'r', 'u', 'e']
  | .bool false => ['f', 'a', 'l', 's', 'e']
  | .number n => n.text
  | .string s => textLiteral s
  | .array [] => ['[', ']']
  | .array (v :: vs) =>
    '[' :: (layout.lineBreak (depth + 1) ++ characters layout (depth + 1) v ++
      moreItems layout (depth + 1) vs ++ layout.lineBreak depth ++ [']'])
  | .object [] => ['\x7b', '\x7d']
  | .object ((key, v) :: ms) =>
    '\x7b' :: (layout.lineBreak (depth + 1) ++ textLiteral key ++ layout.colon ++
      characters layout (depth + 1) v ++ moreMembers layout (depth + 1) ms ++
      layout.lineBreak depth ++ ['\x7d'])
  | .unreadable => ['"', '\\', 'u', 'd', '8', '0', '0', '"']

/-- The items of an array behind its first. -/
def moreItems (layout : Layout) (depth : Nat) : List Value → List Char
  | [] => []
  | v :: vs =>
    ',' :: (layout.lineBreak depth ++ characters layout depth v ++ moreItems layout depth vs)

/-- The members of an object behind its first. -/
def moreMembers (layout : Layout) (depth : Nat) : List (String × Value) → List Char
  | [] => []
  | (key, v) :: ms =>
    ',' :: (layout.lineBreak depth ++ textLiteral key ++ layout.colon ++
      characters layout depth v ++ moreMembers layout depth ms)

end

/-- The text of a value in a layout. -/
def text (layout : Layout) (v : Value) : String :=
  String.ofList (v.characters layout 0)

end Value

end ProfileControls.Json
