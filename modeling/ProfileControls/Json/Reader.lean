import ProfileControls.Json.Token

/-!
# Reading JSON

The reader is a machine that takes one token at a time. It keeps the arrays and objects that are
still open on a stack of frames, so that nesting costs no recursion and any depth can be read.
`Reading` says what must come next; a run that ends with one complete value and no open frame has
read that value.
-/

namespace ProfileControls.Json

/-- A key, absent when its literal stands for no text. -/
abbrev Key := Option String

/-- An array or object that is still open, its contents last first. -/
inductive Frame where
  | items (before : List Value)
  | member (before : List (Key × Value)) (key : Key)

/-- What must come next, inside the frames that are open. -/
inductive Reading where
  /-- a value -/
  | value (frames : List Frame)
  /-- a value or the end of an array that has just begun -/
  | firstItem (frames : List Frame)
  /-- a key or the end of an object that has just begun -/
  | firstKey (frames : List Frame)
  /-- a key -/
  | key (before : List (Key × Value)) (frames : List Frame)
  /-- the colon behind a key -/
  | colon (before : List (Key × Value)) (key : Key) (frames : List Frame)
  /-- whatever may follow a complete value -/
  | complete (v : Value) (frames : List Frame)

/-- The object with the given members, unless one of its keys stands for no text. -/
def objectOf (members : List (Key × Value)) : Value :=
  match members.mapM fun (key, v) => key.map (·, v) with
  | some members => .object members
  | none => .unreadable

/-- The reading after the first token of a value. -/
def begin (frames : List Frame) : Token → Option Reading
  | .null => some (.complete .null frames)
  | .bool b => some (.complete (.bool b) frames)
  | .number n => some (.complete (.number n) frames)
  | .text (some s) => some (.complete (.string s) frames)
  | .text none => some (.complete .unreadable frames)
  | .openArray => some (.firstItem frames)
  | .openObject => some (.firstKey frames)
  | _ => none

/-- The reading after one more token. -/
def Reading.next : Reading → Token → Option Reading
  | .value frames, t => begin frames t
  | .firstItem frames, .closeArray => some (.complete (.array []) frames)
  | .firstItem frames, t => begin (.items [] :: frames) t
  | .firstKey frames, .closeObject => some (.complete (.object []) frames)
  | .firstKey frames, .text k => some (.colon [] k frames)
  | .key before frames, .text k => some (.colon before k frames)
  | .colon before k frames, .colon => some (.value (.member before k :: frames))
  | .complete v (.items before :: frames), .comma => some (.value (.items (v :: before) :: frames))
  | .complete v (.items before :: frames), .closeArray =>
    some (.complete (.array (v :: before).reverse) frames)
  | .complete v (.member before k :: frames), .comma => some (.key ((k, v) :: before) frames)
  | .complete v (.member before k :: frames), .closeObject =>
    some (.complete (objectOf ((k, v) :: before).reverse) frames)
  | _, _ => none

/-- The value that a row of tokens writes. -/
def ofTokens? (ts : List Token) : Option Value :=
  match ts.foldlM Reading.next (.value []) with
  | some (.complete v []) => some v
  | _ => none

/-- The value that a text writes. -/
def parse? (s : String) : Option Value :=
  tokens? s.toList >>= ofTokens?

end ProfileControls.Json
