import ProfileControls.Toml.Text

/-!
# Keys of TOML

A key is one part or several parts with points between them. A part stands in quotes, or is made of
letters, digits, underscores and dashes.
-/

namespace ProfileControls.Toml

/-- A character of a key without quotes. -/
def isBare (c : Char) : Bool :=
  c.isAlphanum || c == '_' || c == '-'

/-- One part of a key. -/
def keyPart? : Scan String
  | '"' :: s => (basicText s).map (·.map String.ofList id)
  | '\'' :: s => (literalText s).map (·.map String.ofList id)
  | s =>
    match s.takeWhile isBare with
    | [] => none
    | cs => some (String.ofList cs, s.dropWhile isBare)

/-- The parts of a key, separated by points, with blanks around each of them. -/
def keyParts? : Nat → Scan (List String)
  | 0, _ => none
  | fuel + 1, s => do
    let (part, s) ← keyPart? (skipBlanks s)
    match skipBlanks s with
    | '.' :: s => (keyParts? fuel s).map (·.map (part :: ·) id)
    | s => some ([part], s)

/-- Keys have fewer parts than this. -/
def keyLimit : Nat := 80

/-- A key of one or more parts. -/
def key? : Scan (List String) :=
  keyParts? (keyLimit - 1)

end ProfileControls.Toml
